import Decoding.Host.Sessions
import Decoding.Proofs.Except

/-!
References read back. A reference that was printed gives its parts again: the scheme ends at the
first colon and the model at the first question mark, and the options are numbers between ampersands,
the last of each key being the one that counts. Blanks around the whole and empty options change
nothing.
-/

namespace Decoding

namespace Text

theorem dropWhile_append {p : Char → Bool} {left cs : List Char} (hleft : ∀ c ∈ left, p c)
    (hfirst : ∀ c ∈ cs.head?, ¬ p c) : (left ++ cs).dropWhile p = cs := by
  rw [List.dropWhile_append_of_pos hleft]
  cases cs with
  | nil => rfl
  | cons c rest => exact List.dropWhile_cons_of_neg (hfirst c rfl)

/-- Blanks at the two ends are taken away, up to a character at each that is none. -/
theorem trim_append_append {left cs right : List Char} (hleft : ∀ c ∈ left, isBlank c)
    (hright : ∀ c ∈ right, isBlank c) (hne : cs ≠ []) (hfirst : ∀ c ∈ cs.head?, ¬ isBlank c)
    (hlast : ∀ c ∈ cs.getLast?, ¬ isBlank c) : trim (left ++ cs ++ right) = cs := by
  have hfront : (left ++ (cs ++ right)).dropWhile isBlank = cs ++ right := by
    refine dropWhile_append hleft ?_
    rw [List.head?_append_of_ne_nil _ hne]
    exact hfirst
  have hback : (right.reverse ++ cs.reverse).dropWhile isBlank = cs.reverse := by
    refine dropWhile_append (fun c hc => hright c (List.mem_reverse.mp hc)) ?_
    rw [List.head?_reverse]
    exact hlast
  rw [trim, List.append_assoc, hfront, List.reverse_append, hback, List.reverse_reverse]

/-- A text that was joined falls into its parts again, if they do not hold the character. -/
theorem parts_intercalate {sep : Char} {segments : List (List Char)} (hne : segments ≠ [])
    (h : ∀ segment ∈ segments, sep ∉ segment) :
    parts sep ([sep].intercalate segments) = segments := by
  induction segments with
  | nil => exact absurd rfl hne
  | cons segment rest ih =>
    obtain ⟨hsegment, hrest⟩ := List.forall_mem_cons.mp h
    cases rest with
    | nil => simpa using parts_of_not_mem hsegment
    | cons next rest =>
      rw [List.intercalate_cons_cons, List.append_assoc]
      exact (parts_append_cons hsegment).trans (congrArg _ (ih nofun hrest))

theorem eq_or_exists_of_mem_intercalate {sep c : Char} {segments : List (List Char)}
    (h : c ∈ [sep].intercalate segments) : c = sep ∨ ∃ segment ∈ segments, c ∈ segment := by
  induction segments with
  | nil => cases h
  | cons segment rest ih =>
    cases rest with
    | nil => exact .inr ⟨segment, List.mem_cons_self, by simpa using h⟩
    | cons next rest =>
      rw [List.intercalate_cons_cons, List.append_assoc, List.mem_append] at h
      rcases h with h | h
      · exact .inr ⟨segment, List.mem_cons_self, h⟩
      · rcases List.mem_cons.mp h with rfl | h
        · exact .inl rfl
        · refine (ih h).imp_right ?_
          rintro ⟨found, hfound, hc⟩
          exact ⟨found, List.mem_cons_of_mem _ hfound, hc⟩

theorem of_isDigit {c : Char} (h : c.isDigit) : ¬ isBlank c ∧ c ≠ '&' := by
  rw [Char.isDigit, Bool.and_eq_true, decide_eq_true_eq, decide_eq_true_eq] at h
  have hlow : 48 ≤ c.toNat := UInt32.le_iff_toNat_le.mp h.1
  have hhigh : c.toNat ≤ 57 := UInt32.le_iff_toNat_le.mp h.2
  constructor
  · simp only [isBlank, List.any_eq_true, Bool.and_eq_true, decide_eq_true_eq, not_exists, not_and]
    intro r hr hbelow
    have hranges : ∀ r ∈ blankRanges, r.2 < 48 ∨ 57 < r.1 := by decide
    have := hranges r hr
    omega
  · rintro rfl
    exact absurd hlow (by decide)

end Text

/-- A configuration with a model is refused for its width first, then for its window. -/
theorem Config.validate_of_model {c : Config} (h : c.model ≠ "") :
    c.validate =
      if 1 ≤ c.vocab ∧ c.vocab ≤ maxCount then
        if 1 ≤ c.window ∧ c.window ≤ maxCount then .ok () else .error (.windowOutOfRange c.window)
      else .error (.vocabOutOfRange c.vocab) := by
  rw [validate, if_neg h]
  by_cases hvocab : 1 ≤ c.vocab ∧ c.vocab ≤ maxCount
  · rw [if_pos hvocab, if_neg (by omega)]
    by_cases hwindow : 1 ≤ c.window ∧ c.window ≤ maxCount
    · rw [if_pos hwindow, if_neg (by omega)]
    · rw [if_neg hwindow, if_pos (by omega)]
  · rw [if_neg hvocab, if_pos (by omega)]

namespace Reference

/-- The value of the last option of a key, or else the default. -/
def lastOf (key : Config.Key) (default : Nat) (options : List (Config.Key × Nat)) : Nat :=
  ((options.filter fun o => o.1 = key).getLast?.map Prod.snd).getD default

theorem lastOf_cons (key : Config.Key) (default : Nat) (o : Config.Key × Nat)
    (rest : List (Config.Key × Nat)) :
    lastOf key default (o :: rest) = lastOf key (if o.1 = key then o.2 else default) rest := by
  by_cases h : o.1 = key
  · simp [lastOf, h, List.getLast?_cons]
  · simp [lastOf, h]

theorem lastOf_lt {key : Config.Key} {default bound : Nat} {options : List (Config.Key × Nat)}
    (hdefault : default < bound) (h : ∀ o ∈ options, o.2 < bound) :
    lastOf key default options < bound := by
  induction options generalizing default with
  | nil => exact hdefault
  | cons o rest ih =>
    obtain ⟨ho, hrest⟩ := List.forall_mem_cons.mp h
    rw [lastOf_cons]
    refine ih ?_ hrest
    split
    · exact ho
    · exact hdefault

/-- The configuration that options make of another one. -/
def chosen (c : Config) (options : List (Config.Key × Nat)) : Config :=
  { model := c.model
    vocab := lastOf .vocab c.vocab options
    window := lastOf .window c.window options
    seed := .ofNat (lastOf .seed c.seed.toNat options) }

/-- The order of the options counts only within each key. -/
theorem chosen_congr {options others : List (Config.Key × Nat)}
    (h : ∀ key, others.filter (fun o => o.1 = key) = options.filter fun o => o.1 = key)
    (c : Config) : chosen c others = chosen c options := by
  simp only [chosen, lastOf, h]

theorem applyOption_printOption {c : Config} {o : Config.Key × Nat} (h : o.2 < settingBound) :
    applyOption c (printOption o) = .ok (c.set o.2 o.1) := by
  have hcut : Text.cut? '=' (printOption o) = some (o.1.name.toList, Text.numeral o.2) := by
    refine Text.cut?_eq_some_iff.mpr ⟨rfl, ?_⟩
    cases o.1 <;> decide
  simp only [applyOption, hcut, Config.Key.ofName?_eq_some_iff.mpr rfl, Text.readNumeral?_numeral h]

theorem chosen_cons {c : Config} {o : Config.Key × Nat} {rest : List (Config.Key × Nat)}
    (h : o.2 < settingBound) : chosen c (o :: rest) = chosen (c.set o.2 o.1) rest := by
  obtain ⟨key, n⟩ := o
  have hseed : (UInt64.ofNat n).toNat = n := UInt64.toNat_ofNat_of_lt' h
  cases key <;> simp [chosen, lastOf_cons, Config.set, hseed]

/-- Printed options are applied one after another, and the last of each key stays. -/
theorem foldlM_printOption {c : Config} {options : List (Config.Key × Nat)}
    (h : ∀ o ∈ options, o.2 < settingBound) :
    (options.map printOption).foldlM applyOption c = .ok (chosen c options) := by
  induction options generalizing c with
  | nil => simp [chosen, lastOf, pure, Except.pure]
  | cons o rest ih =>
    obtain ⟨ho, hrest⟩ := List.forall_mem_cons.mp h
    rw [List.map_cons, List.foldlM_cons, applyOption_printOption ho, chosen_cons ho]
    exact ih hrest

section Printed

variable {scheme : Scheme} {model : List Char} {options : List (Config.Key × Nat)}
  {segments : List (List Char)}

/-- A reference whose options are joined from segments, which may be empty. -/
def join (scheme : Scheme) (model : List Char) (segments : List (List Char)) : List Char :=
  scheme.name.toList ++ ':' :: model ++ '?' :: ['&'].intercalate segments

theorem join_map_printOption (scheme : Scheme) (model : List Char)
    (options : List (Config.Key × Nat)) :
    join scheme model (options.map printOption) = print scheme model options := rfl

/-- No printed option is empty. -/
theorem filter_map_printOption (options : List (Config.Key × Nat)) :
    (options.map printOption).filter (· ≠ []) = options.map printOption := by
  refine List.filter_eq_self.mpr fun segment hsegment => ?_
  obtain ⟨o, -, rfl⟩ := List.mem_map.mp hsegment
  simp [printOption]

/-- There are neither blanks nor ampersands in a printed option. -/
theorem of_mem_printOption {o : Config.Key × Nat} {c : Char} (h : c ∈ printOption o) :
    ¬ Text.isBlank c ∧ c ≠ '&' := by
  rcases List.mem_append.mp h with hname | hvalue
  · have hnames : o.1.name.toList.all fun c => ¬ Text.isBlank c ∧ c ≠ '&' := by
      cases o.1 <;> decide
    simpa using List.all_eq_true.mp hnames c hname
  · rcases List.mem_cons.mp hvalue with rfl | hdigit
    · decide
    · exact Text.of_isDigit (Text.isDigit_of_mem_numeral hdigit)

theorem exists_option_of_mem_segment (hs : segments.filter (· ≠ []) = options.map printOption)
    {segment : List Char} {c : Char} (hsegment : segment ∈ segments) (hc : c ∈ segment) :
    ∃ o, c ∈ printOption o := by
  have hkept : segment ∈ segments.filter (· ≠ []) :=
    List.mem_filter.mpr ⟨hsegment, decide_eq_true (List.ne_nil_of_mem hc)⟩
  obtain ⟨o, -, rfl⟩ := List.mem_map.mp (hs ▸ hkept)
  exact ⟨o, hc⟩

/-- The segments are found again, the empty ones aside. -/
theorem filter_parts_intercalate (hs : segments.filter (· ≠ []) = options.map printOption) :
    (Text.parts '&' (['&'].intercalate segments)).filter (· ≠ []) = options.map printOption := by
  rw [← hs]
  by_cases hne : segments = []
  · subst hne
    rfl
  · rw [Text.parts_intercalate hne]
    intro segment hsegment hmem
    obtain ⟨o, ho⟩ := exists_option_of_mem_segment hs hsegment hmem
    exact (of_mem_printOption ho).2 rfl

/-- The options end in no blank, nor does a question mark that none come after. -/
theorem not_isBlank_of_mem_query (hs : segments.filter (· ≠ []) = options.map printOption)
    {c : Char} (h : c ∈ '?' :: ['&'].intercalate segments) : ¬ Text.isBlank c := by
  rcases List.mem_cons.mp h with rfl | h
  · decide
  · rcases Text.eq_or_exists_of_mem_intercalate h with rfl | ⟨segment, hsegment, hc⟩
    · decide
    · obtain ⟨o, ho⟩ := exists_option_of_mem_segment hs hsegment hc
      exact (of_mem_printOption ho).1

/-- Blanks around a reference are no part of it. The model may begin or end in blanks: it stands
between the scheme and the question mark. -/
theorem trim_join {left right : List Char}
    (hs : segments.filter (· ≠ []) = options.map printOption)
    (hleft : ∀ c ∈ left, Text.isBlank c) (hright : ∀ c ∈ right, Text.isBlank c) :
    Text.trim (left ++ join scheme model segments ++ right) = join scheme model segments := by
  refine Text.trim_append_append hleft hright ?_ ?_ ?_
  · simp [join]
  · intro c hc
    have hnames : scheme.name.toList.all fun c => ¬ Text.isBlank c := by
      cases scheme <;> decide
    have hne : scheme.name.toList ++ ':' :: model ≠ [] := by simp
    have hname : scheme.name.toList ≠ [] := by cases scheme <;> decide
    rw [join, List.head?_append_of_ne_nil _ hne, List.head?_append_of_ne_nil _ hname] at hc
    simpa using List.all_eq_true.mp hnames c (List.mem_of_head? hc)
  · intro c hc
    rw [join, List.getLast?_append_of_ne_nil _ (List.cons_ne_nil _ _)] at hc
    exact not_isBlank_of_mem_query hs (List.mem_of_getLast? hc)

/-- The scheme ends at the first colon, whatever colons the model holds. -/
theorem splitScheme_append (scheme : Scheme) (rest : List Char) :
    splitScheme (scheme.name.toList ++ ':' :: rest) = (scheme, rest) := by
  have hcut : Text.cut? ':' (scheme.name.toList ++ ':' :: rest)
      = some (scheme.name.toList, rest) := by
    refine Text.cut?_eq_some_iff.mpr ⟨rfl, ?_⟩
    cases scheme <;> decide
  simp only [splitScheme, hcut, Scheme.ofName?_eq_some_iff.mpr rfl]

theorem splitOptions_append {query : List Char} (h : '?' ∉ model) :
    splitOptions (model ++ '?' :: query) = (model, (Text.parts '&' query).filter (· ≠ [])) := by
  rw [splitOptions, Text.cut?_eq_some_iff.mpr ⟨rfl, h⟩]

/-- A joined reference names its scheme and its model, and its options are checked at the end. -/
theorem read_join (hmodel : '?' ∉ model) (hoptions : ∀ o ∈ options, o.2 < settingBound)
    (hs : segments.filter (· ≠ []) = options.map printOption) :
    read (join scheme model segments) =
      match (chosen { model := .ofList model } options).validate with
      | .ok () => .ok ⟨scheme, chosen { model := .ofList model } options⟩
      | .error fault => .error (.config fault) := by
  have hne : join scheme model segments ≠ [] := by simp [join]
  have hscheme : splitScheme (join scheme model segments)
      = (scheme, model ++ '?' :: ['&'].intercalate segments) := by
    rw [join, List.append_assoc, List.cons_append]
    exact splitScheme_append _ _
  have hquery : splitOptions (model ++ '?' :: ['&'].intercalate segments)
      = (model, options.map printOption) := by
    rw [splitOptions_append hmodel, filter_parts_intercalate hs]
  rw [read, if_neg hne, hscheme]
  simp only [hquery]
  rw [foldlM_printOption hoptions]
  rfl

end Printed

section ReadBack

variable {scheme : Scheme} {model : String} {options others : List (Config.Key × Nat)}
  {segments : List (List Char)} {left right : List Char}

/-- What the options ask for is checked once, after the last of them. -/
theorem parse_join {asked : Config} (hasked : chosen { model } options = asked)
    (hmodel : model ≠ "") (hquery : '?' ∉ model.toList)
    (hoptions : ∀ o ∈ options, o.2 < settingBound)
    (hs : segments.filter (· ≠ []) = options.map printOption)
    (hleft : ∀ c ∈ left, Text.isBlank c) (hright : ∀ c ∈ right, Text.isBlank c) :
    parse (.ofList (left ++ join scheme model.toList segments ++ right)) =
      if 1 ≤ asked.vocab ∧ asked.vocab ≤ Config.maxCount then
        if 1 ≤ asked.window ∧ asked.window ≤ Config.maxCount then .ok ⟨scheme, asked⟩
        else .error (.config (.windowOutOfRange asked.window))
      else .error (.config (.vocabOutOfRange asked.vocab)) := by
  have hkept : asked.model ≠ "" := hasked ▸ hmodel
  rw [parse, String.toList_ofList, trim_join hs hleft hright, read_join hquery hoptions hs,
    String.ofList_toList, hasked, Config.validate_of_model hkept]
  split_ifs <;> rfl

/-- Options of which each key has the same are the same options. -/
theorem mem_of_filter_eq {o : Config.Key × Nat}
    (h : ∀ key, others.filter (fun o => o.1 = key) = options.filter fun o => o.1 = key)
    (ho : o ∈ others) : o ∈ options := by
  have hkept : o ∈ others.filter fun p => p.1 = o.1 := List.mem_filter.mpr ⟨ho, by simp⟩
  rw [h] at hkept
  exact List.mem_of_mem_filter hkept

theorem parse_print {asked : Config} (hasked : chosen { model } options = asked)
    (hmodel : model ≠ "") (hquery : '?' ∉ model.toList)
    (hoptions : ∀ o ∈ options, o.2 < settingBound) :
    parse (.ofList (print scheme model.toList options)) =
      if 1 ≤ asked.vocab ∧ asked.vocab ≤ Config.maxCount then
        if 1 ≤ asked.window ∧ asked.window ≤ Config.maxCount then .ok ⟨scheme, asked⟩
        else .error (.config (.windowOutOfRange asked.window))
      else .error (.config (.vocabOutOfRange asked.vocab)) := by
  have htext : print scheme model.toList options =
      [] ++ join scheme model.toList (options.map printOption) ++ [] := by
    rw [join_map_printOption, List.nil_append, List.append_nil]
  rw [htext]
  exact parse_join hasked hmodel hquery hoptions (filter_map_printOption options) nofun nofun

/-- Options in another order, empty segments and blanks around it all do not change the reading. -/
theorem parse_reordered (hmodel : model ≠ "") (hquery : '?' ∉ model.toList)
    (hoptions : ∀ o ∈ options, o.2 < settingBound)
    (horder : ∀ key, others.filter (fun o => o.1 = key) = options.filter fun o => o.1 = key)
    (hs : segments.filter (· ≠ []) = others.map printOption)
    (hleft : ∀ c ∈ left, Text.isBlank c) (hright : ∀ c ∈ right, Text.isBlank c) :
    parse (.ofList (left ++ join scheme model.toList segments ++ right)) =
      parse (.ofList (print scheme model.toList options)) := by
  have hothers : ∀ o ∈ others, o.2 < settingBound :=
    fun o ho => hoptions o (mem_of_filter_eq horder ho)
  rw [parse_join (chosen_congr horder _) hmodel hquery hothers hs hleft hright,
    parse_print rfl hmodel hquery hoptions]

end ReadBack

/-- **A printed reference is read back.** Print a known scheme, a model that is not empty and holds
no question mark, and any options whose values are numbers of 64 bits. The text is read as that
scheme and that model, with the last value of each key or else the default, if the width and the
window among these can be counted with 31 bits and are not zero. Otherwise it is refused for the
width or else for the window, and no host creates a session of it or changes. Values that a later
option overrides are not looked at.

The reading is the same of every text with the options in another order that keeps the order within
each key, with empty segments among them, and with blanks at both ends. -/
theorem printed_read_back (scheme : Scheme) (model : String)
    (options : List (Config.Key × Nat)) (hmodel : model ≠ "") (hquery : '?' ∉ model.toList)
    (hoptions : ∀ o ∈ options, o.2 < settingBound) :
    let vocab := lastOf .vocab 32000 options
    let window := lastOf .window 4096 options
    let seed : UInt64 := .ofNat (lastOf .seed 0 options)
    let reading : Except Fault Reference :=
      if 1 ≤ vocab ∧ vocab ≤ 2147483647 then
        if 1 ≤ window ∧ window ≤ 2147483647 then .ok ⟨scheme, { model, vocab, window, seed }⟩
        else .error (.config (.windowOutOfRange window))
      else .error (.config (.vocabOutOfRange vocab))
    seed.toNat = lastOf .seed 0 options ∧
    parse (.ofList (print scheme model.toList options)) = reading ∧
    ∀ (others : List (Config.Key × Nat)) (segments : List (List Char)) (left right : List Char),
      (∀ key, others.filter (fun o => o.1 = key) = options.filter fun o => o.1 = key) →
      segments.filter (· ≠ []) = others.map printOption →
      (∀ c ∈ left, Text.isBlank c) → (∀ c ∈ right, Text.isBlank c) →
      let text := String.ofList (left ++ join scheme model.toList segments ++ right)
      parse text = reading ∧
      ∀ fault, reading = .error fault → ∀ (ω β : Type) [Device β] (w : ω) (h : Host ω β),
        h.create w text = (.error (.initialization (.reference fault)), h, []) := by
  intro vocab window seed reading
  have hprint : parse (.ofList (print scheme model.toList options)) = reading :=
    parse_print rfl hmodel hquery hoptions
  refine ⟨UInt64.toNat_ofNat_of_lt' (lastOf_lt (by decide) hoptions), hprint, ?_⟩
  intro others segments left right horder hs hleft hright text
  have hread : parse text = reading :=
    (parse_reordered hmodel hquery hoptions horder hs hleft hright).trans hprint
  refine ⟨hread, fun fault hfault ω β _ w h => ?_⟩
  rw [Host.create, hread, hfault]

/-- A window of 0 that a later option overrides is no fault, and the model may hold the characters
that the parts of a reference are told apart by. -/
theorem printed_read_back_overridden :
    parse " engine:a:b&c=d e?&vocab=7&&n_ctx=0&n_ctx=16&\n" =
      .ok ⟨.engine, { model := "a:b&c=d e", vocab := 7, window := 16 }⟩ := by
  let options : List (Config.Key × Nat) := [(.window, 0), (.window, 16), (.vocab, 7)]
  let segments : List (List Char) :=
    [[], "vocab=7".toList, [], "n_ctx=0".toList, "n_ctx=16".toList, []]
  have hread := (printed_read_back .engine "a:b&c=d e" options (by decide) (by decide)
    (by decide)).2.2 [(.vocab, 7), (.window, 0), (.window, 16)] segments [' '] ['\n']
    (fun key => by cases key <;> rfl) (by rfl) (List.forall_mem_singleton.mpr (by decide))
    (List.forall_mem_singleton.mpr (by decide))
  exact hread.1

end Reference

end Decoding
