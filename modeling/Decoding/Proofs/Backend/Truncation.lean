import Decoding.Proofs.Backend.Engine

/-!
Payloads that end too early, cut off at any byte. A reader comes to the fields of a payload one
after another and reports the bytes that are wanted for the first one that is not all there. For a
run of words and for the state of an engine these are the bytes that the field lacks: so many more
make it readable, and no fewer do. A word is reported as lacking all its four bytes, also where some
of them are there.
-/

namespace Decoding

namespace Payload

/-- A field of a payload. -/
inductive Field where
  /-- A count or a size. -/
  | word
  /-- So many words. -/
  | run (n : Nat)
  /-- So many bytes, which are the state of an engine. -/
  | stretch (n : Nat)
  deriving DecidableEq, Repr

namespace Field

/-- The number of bytes that a field takes. -/
def width : Field → Nat
  | .word => 4
  | .run n => 4 * n
  | .stretch n => n

/-- Read a field and leave the bytes behind it. -/
def pass : Field → Bytes → Except BackendError Bytes
  | .word, bs => (takeWord bs).map Prod.snd
  | .run n, bs => (takeRun n bs).map Prod.snd
  | .stretch n, bs =>
    if n > bs.length then .error (.truncated (n - bs.length)) else (takeBytes n bs).map Prod.snd

/-- A run is short enough for a 64-bit machine to count its bytes. -/
def Sized : Field → Prop
  | .run n => n < 4611686018427387904
  | .word | .stretch _ => True

/-- The bytes that are reported as wanted for a field that is cut off. -/
def reported : Field → Bytes → Nat
  | .word, _ => 4
  | .run n, bs => 4 * n - bs.length
  | .stretch n, bs => n - bs.length

/-- So many bytes are what a field lacks: any so many make it readable, and with any fewer it is
still cut off. -/
structure Lacks (field : Field) (bs : Bytes) (n : Nat) : Prop where
  enough {more : Bytes} (h : more.length = n) : ∃ rest, field.pass (bs ++ more) = .ok rest
  needed {more : Bytes} (h : more.length < n) :
    ∃ wanted, field.pass (bs ++ more) = .error (.truncated wanted)

end Field

/-- Bytes begin with as many words as there are four bytes for. -/
theorem exists_words {n : Nat} {bs : Bytes} (h : 4 * n ≤ bs.length) :
    ∃ ws rest, ws.length = n ∧ bs = Bytes.ofWords ws ++ rest := by
  induction n generalizing bs with
  | zero => exact ⟨[], bs, rfl, rfl⟩
  | succ n ih =>
    obtain ⟨w, more, rfl⟩ := Bytes.exists_word bs (by omega)
    rw [List.length_append, Bytes.length_ofWord] at h
    have hmore : 4 * n ≤ more.length := by omega
    obtain ⟨ws, rest, hlength, rfl⟩ := ih hmore
    refine ⟨w :: ws, rest, congrArg (· + 1) hlength, ?_⟩
    exact (List.append_assoc ..).symm

theorem checkRun_of_lt {n : Nat} {bs : Bytes} (hn : n < 4611686018427387904)
    (h : bs.length < 4 * n) : checkRun n bs = .error (.truncated (4 * n - bs.length)) := by
  have hmin : min (4 * n) maxSize = 4 * n := by
    simp only [maxSize, UInt64.size]
    omega
  simp only [checkRun, hmin]
  exact if_pos h

namespace Field

variable {field : Field} {bs rest : Bytes} {n wanted : Nat}

/-- A field is read if all its bytes are there. -/
theorem pass_of_le (h : field.width ≤ bs.length) : field.pass bs = .ok (bs.drop field.width) := by
  cases field with
  | word =>
    obtain ⟨w, rest, rfl⟩ := Bytes.exists_word bs h
    rw [pass, takeWord_ofWord_append]
    rfl
  | run n =>
    obtain ⟨ws, rest, rfl, rfl⟩ := exists_words h
    rw [pass, takeRun_ofWords_append, width, List.drop_left' (Bytes.length_ofWords ws)]
    rfl
  | stretch n =>
    have hn : n ≤ bs.length := h
    rw [pass, if_neg (Nat.not_lt.mpr hn), takeBytes, if_pos hn]
    rfl

/-- A field that is cut off is reported. -/
theorem pass_of_lt (hs : field.Sized) (h : bs.length < field.width) :
    field.pass bs = .error (.truncated (field.reported bs)) := by
  cases field with
  | word =>
    rw [pass, takeWord, Bytes.takeWord_eq_none_iff.mpr h]
    rfl
  | run n =>
    rw [pass, takeRun, checkRun_of_lt hs h]
    rfl
  | stretch n => exact if_pos h

theorem pass_run_eq_error_iff {e : BackendError} :
    (run n).pass bs = .error e ↔ takeScores n bs = .error e :=
  Except.map_eq_error_iff.trans Except.map_eq_error_iff.symm

theorem pass_stretch_eq_error_iff {e : BackendError} :
    (stretch n).pass bs = .error e ↔ bs.length < n ∧ .truncated (n - bs.length) = e ∨
      n ≤ bs.length ∧ takeBytes n bs = .error e := by
  by_cases h : bs.length < n
  · simp [pass, h, Nat.not_le.mpr h]
  · simp [pass, h, Nat.le_of_not_lt h, Except.map_eq_error_iff]

theorem pass_eq_truncated_iff (hs : field.Sized) :
    field.pass bs = .error (.truncated wanted) ↔
      bs.length < field.width ∧ wanted = field.reported bs := by
  by_cases h : bs.length < field.width
  · rw [pass_of_lt hs h]
    simp [h, eq_comm]
  · rw [pass_of_le (Nat.le_of_not_lt h)]
    simp [h]

/-- What a field lacks is the rest of its width. -/
theorem lacks_iff (hs : field.Sized) : field.Lacks bs n ↔ n = field.width - bs.length := by
  constructor
  · intro h
    by_contra hne
    rcases Nat.lt_or_gt_of_ne hne with hfew | hmany
    · obtain ⟨rest, hpass⟩ := h.enough (List.length_replicate (n := n) (a := 0))
      rw [pass_of_lt hs (by rw [List.length_append, List.length_replicate]; omega)] at hpass
      cases hpass
    · have hlength := List.length_replicate (n := field.width - bs.length) (a := (0 : UInt8))
      obtain ⟨wanted, hpass⟩ := h.needed (hlength ▸ hmany)
      rw [pass_of_le (by rw [List.length_append, hlength]; omega)] at hpass
      cases hpass
  · rintro rfl
    constructor
    · intro more h
      exact ⟨_, pass_of_le (by rw [List.length_append]; omega)⟩
    · intro more h
      exact ⟨_, pass_of_lt hs (by rw [List.length_append]; omega)⟩

/-- The report names what is lacking, unless it is about a word of which some bytes are there. -/
theorem lacks_wanted_iff (hs : field.Sized) (h : field.pass bs = .error (.truncated wanted)) :
    field.Lacks bs wanted ↔ ¬ (field = .word ∧ bs ≠ []) := by
  obtain ⟨hlt, rfl⟩ := (pass_eq_truncated_iff hs).mp h
  rw [lacks_iff hs]
  cases field with
  | word =>
    cases bs with
    | nil => simp [reported, width]
    | cons b bs =>
      simp only [reported, width, List.length_cons, ne_eq, reduceCtorEq, not_false_eq_true,
        and_self, not_true_eq_false, iff_false]
      omega
  | run n | stretch n => simp [reported, width]

end Field

/-- How a reader that comes to one field after another reports a payload that is cut off: it reports
what is wanted for the first field that is not all there, and it would come to the same fields if
more bytes followed. -/
structure Reports (reaches : Bytes → Field → Bytes → Prop) (truncated : Bytes → Nat → Prop) :
    Prop where
  truncated_iff {bs : Bytes} {wanted : Nat} : truncated bs wanted ↔
    ∃ field rest, reaches bs field rest ∧ field.pass rest = .error (.truncated wanted)
  append {bs rest : Bytes} {field : Field} (h : reaches bs field rest) (more : Bytes) :
    reaches (bs ++ more) field (rest ++ more)
  sized {bs rest : Bytes} {field : Field} (h : reaches bs field rest) : field.Sized

/-- A reader of one run. -/
theorem reports_takeScores {n : Nat} (hn : n < 4611686018427387904) :
    Reports (fun bs field rest => field = .run n ∧ rest = bs)
      fun bs wanted => takeScores n bs = .error (.truncated wanted) where
  truncated_iff {bs wanted} := by
    constructor
    · intro h
      exact ⟨_, _, ⟨rfl, rfl⟩, Field.pass_run_eq_error_iff.mpr h⟩
    · rintro ⟨_, _, ⟨rfl, rfl⟩, h⟩
      exact Field.pass_run_eq_error_iff.mp h
  append h more := ⟨h.1, congrArg (· ++ more) h.2⟩
  sized h := by
    rw [h.1]
    exact hn

theorem sized_run (count : UInt32) : (Field.run count.toNat).Sized := by
  have := count.toNat_lt
  unfold Field.Sized
  omega

theorem takeWord_append {bs rest : Bytes} {w : UInt32} (h : takeWord bs = .ok (w, rest))
    (more : Bytes) : takeWord (bs ++ more) = .ok (w, rest ++ more) := by
  rw [takeWord_eq_ok_iff] at h ⊢
  rw [h, List.append_assoc]

theorem takeScores_append {n : Nat} {bs rest : Bytes} {ss : List Score}
    (h : takeScores n bs = .ok (ss, rest)) (more : Bytes) :
    takeScores n (bs ++ more) = .ok (ss, rest ++ more) := by
  rw [takeScores_eq_ok_iff] at h ⊢
  exact ⟨h.1, by rw [h.2, List.append_assoc]⟩

end Payload

open Payload Field

namespace TokenContext

/-- The fields that a reader of a context comes to, each with the bytes from it on. -/
inductive Reaches (window : Nat) (bs : Bytes) : Field → Bytes → Prop
  | count : Reaches window bs .word bs
  | tokens {count : UInt32} {rest : Bytes} (hn : takeWord bs = .ok (count, rest))
      (hw : count.toNat ≤ window) : Reaches window bs (.run count.toNat) rest

theorem decode_append {window : Nat} {bs rest : Bytes} {c : TokenContext}
    (h : decode window bs = .ok (c, rest)) (more : Bytes) :
    decode window (bs ++ more) = .ok (c, rest ++ more) := by
  rw [decode_eq_ok_iff] at h ⊢
  exact ⟨by rw [h.1, List.append_assoc], h.2⟩

theorem decode_eq_truncated_iff {window : Nat} {bs : Bytes} {wanted : Nat} :
    decode window bs = .error (.truncated wanted) ↔
      ∃ field rest, Reaches window bs field rest ∧
        field.pass rest = .error (.truncated wanted) := by
  simp only [decode, Except.bind_eq_error_iff, Except.guard_eq_error_iff, pure, Except.pure,
    Prod.exists, reduceCtorEq, and_false, false_or, or_false, exists_false, gt_iff_lt, Nat.not_lt]
  constructor
  · rintro (h | ⟨count, rest, hn, hw, h⟩)
    · exact ⟨_, _, .count, Except.map_eq_error_iff.mpr h⟩
    · exact ⟨_, _, .tokens hn hw, Except.map_eq_error_iff.mpr h⟩
  · rintro ⟨field, rest, hr, h⟩
    cases hr with
    | count => exact .inl (Except.map_eq_error_iff.mp h)
    | tokens hn hw => exact .inr ⟨_, _, hn, hw, Except.map_eq_error_iff.mp h⟩

theorem reports_decode (window : Nat) : Reports (Reaches window)
    fun bs wanted => decode window bs = .error (.truncated wanted) where
  truncated_iff := decode_eq_truncated_iff
  append h more := by
    cases h with
    | count => exact .count
    | tokens hn hw => exact .tokens (takeWord_append hn more) hw
  sized h := by
    cases h with
    | count => trivial
    | tokens => exact sized_run _

end TokenContext

namespace EngineBackend

variable {ω ε : Type} [Engine ω ε]

/-- The fields that a reader of sections comes to, each with the bytes from it on. -/
inductive Sections.Reaches (window : Nat) (vocab : Outcome Empty Nat) (payload : Bytes) :
    Field → Bytes → Prop
  | context {field : Field} {rest : Bytes} (h : TokenContext.Reaches window payload field rest) :
    Reaches window vocab payload field rest
  | logitsCount {context : TokenContext} {rest : Bytes}
      (hc : TokenContext.decode window payload = .ok (context, rest)) :
    Reaches window vocab payload .word rest
  | logits {context : TokenContext} {count : UInt32} {width : Nat} {behind rest : Bytes}
      (hc : TokenContext.decode window payload = .ok (context, behind))
      (hn : takeWord behind = .ok (count, rest)) (hv : vocab = .ok width)
      (hw : count.toNat ≤ width) : Reaches window vocab payload (.run count.toNat) rest
  | engineSize {context : TokenContext} {count : UInt32} {width : Nat}
      {behind counted rest : Bytes} {logits : List Score}
      (hc : TokenContext.decode window payload = .ok (context, behind))
      (hn : takeWord behind = .ok (count, counted)) (hv : vocab = .ok width)
      (hw : count.toNat ≤ width) (hl : takeScores count.toNat counted = .ok (logits, rest)) :
    Reaches window vocab payload .word rest
  | engine {context : TokenContext} {count size : UInt32} {width : Nat}
      {behind counted scored rest : Bytes} {logits : List Score}
      (hc : TokenContext.decode window payload = .ok (context, behind))
      (hn : takeWord behind = .ok (count, counted)) (hv : vocab = .ok width)
      (hw : count.toNat ≤ width)
      (hl : takeScores count.toNat counted = .ok (logits, scored))
      (hs : takeWord scored = .ok (size, rest)) :
    Reaches window vocab payload (.stretch size.toNat) rest

theorem Sections.decode_eq_truncated_iff {window : Nat} {vocab : Outcome Empty Nat}
    {payload : Bytes} {wanted : Nat} :
    decode window vocab payload = .error (.truncated wanted) ↔
      ∃ field rest, Reaches window vocab payload field rest ∧
        field.pass rest = .error (.truncated wanted) := by
  simp only [decode, Outcome.bind_eq_error_iff, Outcome.guard_eq_error_iff,
    Outcome.ofExcept_eq_ok_iff, Outcome.ofExcept_eq_error_iff, Outcome.lift_eq_ok_iff,
    Outcome.lift_ne_error, Outcome.pure_eq,
    Prod.exists, reduceCtorEq, and_false, false_or, or_false, exists_false, gt_iff_lt, Nat.not_lt]
  constructor
  · rintro (h | ⟨context, behind, hc, h | ⟨count, counted, hn, width, hv, hw, h | ⟨logits, scored,
      hl, h | ⟨size, rest, hs, h⟩⟩⟩⟩)
    · obtain ⟨field, rest, hr, h⟩ := TokenContext.decode_eq_truncated_iff.mp h
      exact ⟨field, rest, .context hr, h⟩
    · exact ⟨_, _, .logitsCount hc, Except.map_eq_error_iff.mpr h⟩
    · exact ⟨_, _, .logits hc hn hv hw, pass_run_eq_error_iff.mpr h⟩
    · exact ⟨_, _, .engineSize hc hn hv hw hl, Except.map_eq_error_iff.mpr h⟩
    · exact ⟨_, _, .engine hc hn hv hw hl hs, pass_stretch_eq_error_iff.mpr h⟩
  · rintro ⟨field, rest, hr, h⟩
    cases hr with
    | context hr => exact .inl (TokenContext.decode_eq_truncated_iff.mpr ⟨field, rest, hr, h⟩)
    | logitsCount hc => exact .inr ⟨_, _, hc, .inl (Except.map_eq_error_iff.mp h)⟩
    | logits hc hn hv hw =>
      have hl := pass_run_eq_error_iff.mp h
      exact .inr ⟨_, _, hc, .inr ⟨_, _, hn, _, hv, hw, .inl hl⟩⟩
    | engineSize hc hn hv hw hl =>
      have hs := Except.map_eq_error_iff.mp h
      exact .inr ⟨_, _, hc, .inr ⟨_, _, hn, _, hv, hw, .inr ⟨_, _, hl, .inl hs⟩⟩⟩
    | engine hc hn hv hw hl hs =>
      have he := pass_stretch_eq_error_iff.mp h
      exact .inr ⟨_, _, hc, .inr ⟨_, _, hn, _, hv, hw, .inr ⟨_, _, hl, .inr ⟨_, _, hs, he⟩⟩⟩⟩

/-- A payload is refused before the engine is asked exactly where it cannot be taken apart. -/
theorem deserialize_eq_error_iff_decode {w : ω} {b : EngineBackend ε} {payload : Bytes}
    {e : BackendError} :
    b.deserializationAsks w payload = [] ∧ (b.deserialize w payload).1 = .error e ↔
      Sections.decode b.context.window (Engine.vocab w b.engine) payload = .error e := by
  have hd := b.deserialize_deserialized w payload
  generalize b.deserialize w payload = r at hd ⊢
  generalize b.deserializationAsks w payload = asked at hd ⊢
  cases hd with
  | refused hp | crashedReading hp => simp [hp]
  | taken hp | short hp | failed hp | crashed hp => simp [hp]

theorem reports_deserialize (w : ω) (b : EngineBackend ε) :
    Reports (Sections.Reaches b.context.window (Engine.vocab w b.engine)) fun payload wanted =>
      b.deserializationAsks w payload = [] ∧
        (b.deserialize w payload).1 = .error (.truncated wanted) where
  truncated_iff := deserialize_eq_error_iff_decode.trans Sections.decode_eq_truncated_iff
  append h more := by
    cases h with
    | context h => exact .context ((TokenContext.reports_decode _).append h more)
    | logitsCount hc => exact .logitsCount (TokenContext.decode_append hc more)
    | logits hc hn hv hw =>
      exact .logits (TokenContext.decode_append hc more) (takeWord_append hn more) hv hw
    | engineSize hc hn hv hw hl =>
      exact .engineSize (TokenContext.decode_append hc more) (takeWord_append hn more) hv hw
        (takeScores_append hl more)
    | engine hc hn hv hw hl hs =>
      exact .engine (TokenContext.decode_append hc more) (takeWord_append hn more) hv hw
        (takeScores_append hl more) (takeWord_append hs more)
  sized h := by
    cases h with
    | context h => exact (TokenContext.reports_decode _).sized h
    | logitsCount | engineSize | engine => trivial
    | logits => exact sized_run _

end EngineBackend

/-- Every reader that finds a payload cut off reports it for the first field that is not all there.
What a field lacks is the rest of its width, and so much is reported for a run, for the state of an
engine, and for a word of which no byte is there. For a word of which some bytes are there four are
reported, and it lacks fewer. -/
theorem truncations_named (window n : Nat) (hn : n < 4611686018427387904) :
    Reports (TokenContext.Reaches window)
      (fun bs wanted => TokenContext.decode window bs = .error (.truncated wanted)) ∧
    Reports (fun bs field rest => field = .run n ∧ rest = bs)
      (fun bs wanted => takeScores n bs = .error (.truncated wanted)) ∧
    (∀ (ω ε : Type) [Engine ω ε] (w : ω) (b : EngineBackend ε),
      Reports (EngineBackend.Sections.Reaches b.context.window (Engine.vocab w b.engine))
        fun payload wanted => b.deserializationAsks w payload = [] ∧
          (b.deserialize w payload).1 = .error (.truncated wanted)) ∧
    ∀ (field : Field) (bs : Bytes) (wanted : Nat), field.Sized →
      field.pass bs = .error (.truncated wanted) →
        field.Lacks bs (field.width - bs.length) ∧
        (field.Lacks bs wanted ↔ ¬ (field = .word ∧ bs ≠ [])) ∧
        (field = .word → wanted = 4) := by
  refine ⟨TokenContext.reports_decode window, reports_takeScores hn,
    fun _ _ _ => EngineBackend.reports_deserialize, ?_⟩
  intro field bs wanted hs h
  have hwanted := ((Field.pass_eq_truncated_iff hs).mp h).2
  refine ⟨(Field.lacks_iff hs).mpr rfl, Field.lacks_wanted_iff hs h, ?_⟩
  rintro rfl
  exact hwanted

/-- Two words are asked for and five bytes are there. -/
theorem truncations_named_begun_run :
    Reports (fun bs field rest => field = .run 2 ∧ rest = bs)
      (fun bs wanted => takeScores 2 bs = .error (.truncated wanted)) ∧
    (run 2).pass [1, 0, 0, 0, 7] = .error (.truncated 3) ∧ (run 2).Lacks [1, 0, 0, 0, 7] 3 := by
  have hn : 2 < 4611686018427387904 := by decide
  have hs : (run 2).Sized := hn
  have h : (run 2).pass [1, 0, 0, 0, 7] = .error (.truncated 3) := by decide
  obtain ⟨-, hscores, -, hfields⟩ := truncations_named 8 2 hn
  exact ⟨hscores, h, (hfields _ _ _ hs h).1⟩

/-- A count of which one byte is there lacks three, and four are reported. -/
theorem begun_count_wants_four :
    TokenContext.decode 8 [0] = .error (.truncated 4) ∧
      TokenContext.decode 8 ([0] ++ [0, 0, 0]) = .ok (.empty 8, []) ∧ ¬ word.Lacks [0] 4 := by
  have hs : word.Sized := trivial
  refine ⟨by decide, by decide, ?_⟩
  rw [Field.lacks_iff hs]
  decide

end Decoding
