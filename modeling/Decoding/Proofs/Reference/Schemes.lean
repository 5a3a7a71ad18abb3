import Decoding.Proofs.Host.Validation
import Decoding.Proofs.Reference.Printing

/-!
References that name no scheme. Such a text is read as it would be with the scheme of engines in
front, whatever colons, question marks and blanks come later. Whatever text is read, its settings
have been checked, and the families need not check them once more.
-/

namespace Decoding

namespace Text

variable {cs : List Char}

/-- Blanks are taken away only from the end of a text that begins with none. -/
theorem trim_eq_rdropWhile (h : ∀ c ∈ cs.head?, ¬ isBlank c) :
    trim cs = cs.rdropWhile isBlank := by
  have hfront : cs.dropWhile isBlank = cs := by
    have hleft : ∀ c ∈ ([] : List Char), isBlank c := nofun
    exact dropWhile_append hleft h
  rw [trim, hfront]
  rfl

theorem trim_ne_nil (hne : cs ≠ []) (h : ∀ c ∈ cs.head?, ¬ isBlank c) : trim cs ≠ [] := by
  rw [trim_eq_rdropWhile h, Ne, List.rdropWhile_eq_nil_iff]
  intro hall
  exact h _ (List.head?_eq_some_head hne) (hall _ (List.head_mem hne))

/-- What stands in front does not change where a text ends. -/
theorem trim_append {front : List Char} (hfront : ∀ c ∈ front.head?, ¬ isBlank c) (hne : cs ≠ [])
    (h : ∀ c ∈ cs.head?, ¬ isBlank c) : trim (front ++ cs) = front ++ trim cs := by
  have hhead : ∀ c ∈ (front ++ cs).head?, ¬ isBlank c := by
    cases front with
    | nil => exact h
    | cons c front => exact hfront
  have hkept : cs.reverse.dropWhile isBlank ≠ [] := by
    intro hnil
    refine trim_ne_nil hne h ?_
    rw [trim_eq_rdropWhile h, List.rdropWhile, hnil, List.reverse_nil]
  rw [trim_eq_rdropWhile hhead, trim_eq_rdropWhile h, List.rdropWhile, List.rdropWhile,
    List.reverse_append, List.dropWhile_append, if_neg (by rwa [List.isEmpty_iff]),
    List.reverse_append, List.reverse_reverse]

/-- A text that begins with no blank is what is left of it, and then blanks. -/
theorem exists_trim_append (h : ∀ c ∈ cs.head?, ¬ isBlank c) : ∃ right, cs = trim cs ++ right := by
  obtain ⟨right, hright⟩ := List.rdropWhile_prefix isBlank cs
  exact ⟨right, by rw [trim_eq_rdropWhile h, hright]⟩

end Text

namespace Reference

/-- The part of a text before its first colon, if there is one, is the name of no scheme. -/
def Bare (cs : List Char) : Prop :=
  ∀ before after, cs = before ++ ':' :: after → ':' ∉ before →
    ∀ scheme : Scheme, before ≠ scheme.name.toList

theorem bare_iff {cs : List Char} :
    Bare cs ↔ ∀ parts ∈ Text.cut? ':' cs, Scheme.ofName? parts.1 = none := by
  simp only [Bare, Option.mem_def, Prod.forall, Text.cut?_eq_some_iff,
    Option.eq_none_iff_forall_ne_some, ne_eq, Scheme.ofName?_eq_some_iff, and_imp]

instance (cs : List Char) : Decidable (Bare cs) := decidable_of_iff _ bare_iff.symm

/-- Where a text ends has no part in whether it is bare. -/
theorem Bare.of_append {cs right : List Char} (h : Bare (cs ++ right)) : Bare cs := by
  intro before after hcs
  apply h before (after ++ right)
  rw [hcs, List.append_assoc, List.cons_append]

theorem splitScheme_of_bare {cs : List Char} (h : Bare cs) : splitScheme cs = (.engine, cs) := by
  unfold splitScheme
  cases hcut : Text.cut? ':' cs with
  | none => rfl
  | some parts =>
    simp only [bare_iff.mp h parts hcut]
    rfl

/-- A text is bare or begins with a scheme. -/
theorem splitScheme_cases (cs : List Char) : splitScheme cs = (.engine, cs) ∨
    ∃ scheme rest, cs = scheme.name.toList ++ ':' :: rest ∧ splitScheme cs = (scheme, rest) := by
  by_cases h : Bare cs
  · exact .inl (splitScheme_of_bare h)
  · right
    simp only [Bare, not_forall, not_not] at h
    obtain ⟨_, rest, hcs, -, scheme, rfl⟩ := h
    exact ⟨scheme, rest, hcs, hcs ▸ splitScheme_append scheme rest⟩

/-- A text that is not empty is read by what its scheme and the rest of it are. -/
theorem read_congr {cs cs' : List Char} (hne : cs ≠ []) (hne' : cs' ≠ [])
    (h : splitScheme cs = splitScheme cs') : read cs = read cs' := by
  rw [read, read, if_neg hne, if_neg hne', h]

/-- A bare text is read as a reference to an engine. -/
theorem parse_engine_append {text : String} (hne : text ≠ "")
    (hhead : ∀ c ∈ text.toList.head?, ¬ Text.isBlank c) (hbare : Bare text.toList) :
    parse ("engine:" ++ text) = parse text := by
  have hcs : text.toList ≠ [] := by
    intro hnil
    exact hne (String.toList_eq_nil_iff.mp hnil)
  obtain ⟨right, hright⟩ := Text.exists_trim_append hhead
  have htrim : Text.trim ("engine:".toList ++ text.toList) =
      Scheme.engine.name.toList ++ ':' :: Text.trim text.toList :=
    Text.trim_append (by simp [Text.isBlank, Text.blankRanges]) hcs hhead
  rw [parse, parse, String.toList_append, htrim]
  apply read_congr (by simp) (Text.trim_ne_nil hcs hhead)
  rw [hright] at hbare
  rw [splitScheme_append, splitScheme_of_bare hbare.of_append]

/-- **References that name no scheme, and what a reference lets through.** A text that is not
empty, begins with no blank and has no scheme before its first colon is read as it is with the
scheme of engines in front, or refused for the same fault. Whatever text is read, its scheme is a
known one and stands in front of it if it is not the default, and its settings are valid: the stubs
can be opened with them, and no engine is refused for them before its file is looked for. Whatever
text is refused, no host creates a session of it or changes. Hosts whose families check settings
create the same sessions as hosts whose families do not. -/
theorem bare_texts_name_engines (text : String) :
    (text ≠ "" → (∀ c ∈ text.toList.head?, ¬ Text.isBlank c) → Bare text.toList →
      parse ("engine:" ++ text) = parse text) ∧
    (∀ r, parse text = .ok r →
      r.scheme.name ∈ ["deterministic", "fixed", "engine"] ∧
      (r.scheme = .engine ∨
        ∃ rest, Text.trim text.toList = r.scheme.name.toList ++ ':' :: rest) ∧
      r.config.validate = .ok () ∧
      (∀ (ω : Type) (w : ω), ∃ b b', Family.deterministic.load w r.config = (.ok b, []) ∧
        Family.fixed.load w r.config = (.ok b', [])) ∧
      ∀ (ω ε : Type) (w : ω) (files : ω → FileTable) (f : EngineFactory ω ε),
        (f.family files).load w r.config = (f.trusting files).load w r.config) ∧
    ∀ (ω β : Type) [Device β] (w : ω) (h : Host ω β),
      (∀ fault, parse text = .error fault →
        h.create w text = (.error (.initialization (.reference fault)), h, [])) ∧
      h.validating.create w text =
        ((h.create w text).1, (h.create w text).2.1.validating, (h.create w text).2.2) := by
  refine ⟨parse_engine_append, ?_, ?_⟩
  · intro r hr
    obtain ⟨hscheme, hvalid⟩ := of_parse hr
    refine ⟨?_, ?_, Config.validate_eq_ok_iff.mpr hvalid,
      fun _ w => Family.exists_load_of_valid hvalid w, ?_⟩
    · cases r.scheme <;> decide
    · rcases splitScheme_cases (Text.trim text.toList) with h | ⟨scheme, rest, hcs, h⟩
      · left
        rw [hscheme, h]
      · right
        rw [hscheme, h]
        exact ⟨rest, hcs⟩
    · intro ω ε w files f
      rw [f.family_eq_validating files]
      exact Family.load_validating hvalid _ w
  · intro ω β _ w h
    refine ⟨?_, Host.create_validating text⟩
    intro fault hfault
    rw [Host.create, hfault]

/-- A path with a colon, an option and a blank at its end, and one with a window of 0. -/
theorem bare_texts_name_engines_drive :
    parse "engine:E:\\models\\a.gguf?vocab=7 " = parse "E:\\models\\a.gguf?vocab=7 " ∧
    Config.validate { model := "E:\\models\\a.gguf", vocab := 7 } = .ok () ∧
    Host.create () ({} : Host Unit Stub) "E:\\a.gguf?n_ctx=0" =
      (.error (.initialization (.reference (.config (.windowOutOfRange 0)))), {}, []) := by
  have hread : parse "E:\\models\\a.gguf?vocab=7 " =
      .ok ⟨.engine, { model := "E:\\models\\a.gguf", vocab := 7 }⟩ := rfl
  have hfault : parse "E:\\a.gguf?n_ctx=0" = .error (.config (.windowOutOfRange 0)) := rfl
  have h := bare_texts_name_engines "E:\\models\\a.gguf?vocab=7 "
  have h' := bare_texts_name_engines "E:\\a.gguf?n_ctx=0"
  refine ⟨h.1 (by decide) ?_ (by decide), (h.2.1 _ hread).2.2.1,
    (h'.2.2 Unit Stub () {}).1 _ hfault⟩
  simp [Text.isBlank, Text.blankRanges]

end Reference

end Decoding
