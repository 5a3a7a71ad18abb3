import Decoding.Backend.Engine
import Decoding.Proofs.Except
import Decoding.Proofs.Outcome

/-!
What the readers of a payload accept: the bytes that a writer wrote, within the bounds of
the reader, and nothing else. A run of words stands behind its count, and such a run is
determined by the bytes that begin with it, as long as a word can count it.
-/

namespace Decoding

namespace Payload

/-- A run of words behind its count. -/
def counted (ws : List UInt32) : Bytes := Bytes.ofWord (.ofNat ws.length) ++ Bytes.ofWords ws

@[simp] theorem length_counted (ws : List UInt32) : (counted ws).length = 4 + 4 * ws.length := by
  simp [counted]

theorem counted_append_inj {vs ws : List UInt32} {a b : Bytes} (hv : vs.length < UInt32.size)
    (hw : ws.length < UInt32.size) (h : counted vs ++ a = counted ws ++ b) : vs = ws ∧ a = b := by
  simp only [counted, List.append_assoc] at h
  obtain ⟨hcount, hrest⟩ := List.append_inj h rfl
  -- both counts are below the bound of a word, so equal words are equal counts
  have hlen : vs.length = ws.length := by
    rw [← UInt32.toNat_ofNat_of_lt' hv, Bytes.ofWord_injective hcount, UInt32.toNat_ofNat_of_lt' hw]
  obtain ⟨hwords, hab⟩ := List.append_inj hrest (by simp [hlen])
  exact ⟨Bytes.ofWords_injective hwords, hab⟩

variable {n : Nat} {bs rest : Bytes}

theorem takeRun_eq_ok_iff {ws : List UInt32} :
    takeRun n bs = .ok (ws, rest) ↔ ws.length = n ∧ bs = Bytes.ofWords ws ++ rest := by
  simp only [takeRun, Except.bind_eq_ok_iff]
  constructor
  · rintro ⟨_, -, h⟩
    exact takeWords_eq_ok_iff.mp h
  · rintro ⟨rfl, rfl⟩
    exact ⟨(), checkRun_of_le (by simp), takeWords_ofWords_append ws rest⟩

/-- A count and as many words are read exactly where a counted run was written. -/
theorem takeWord_takeWords_eq_ok_iff {ws : List UInt32} :
    (∃ count more, takeWord bs = .ok (count, more) ∧
        takeWords count.toNat more = .ok (ws, rest)) ↔
      ws.length < UInt32.size ∧ bs = counted ws ++ rest := by
  simp only [takeWord_eq_ok_iff, takeWords_eq_ok_iff]
  constructor
  · rintro ⟨count, more, rfl, hlen, rfl⟩
    refine ⟨hlen ▸ count.toNat_lt, ?_⟩
    rw [counted, hlen, UInt32.ofNat_toNat, List.append_assoc]
  · rintro ⟨hlt, rfl⟩
    have hcount := UInt32.toNat_ofNat_of_lt' hlt
    refine ⟨.ofNat ws.length, Bytes.ofWords ws ++ rest, ?_, hcount.symm, rfl⟩
    rw [counted, List.append_assoc]

theorem takeScores_eq_ok_iff {ss : List Score} :
    takeScores n bs = .ok (ss, rest) ↔ ss.length = n ∧ bs = Score.toBytes ss ++ rest := by
  have hmk : ∀ ws : List UInt32, (ws.map Score.mk).map Score.bits = ws := by
    simp [Function.comp_def]
  have hbits : ∀ ss : List Score, (ss.map Score.bits).map Score.mk = ss := by
    simp [Function.comp_def]
  simp only [takeScores, Except.map_eq_ok_iff, Prod.mk.injEq, Prod.exists, takeRun_eq_ok_iff]
  constructor
  · rintro ⟨ws, _, ⟨rfl, rfl⟩, rfl, rfl⟩
    exact ⟨by simp, by rw [Score.toBytes, hmk]⟩
  · rintro ⟨rfl, rfl⟩
    exact ⟨ss.map Score.bits, rest, ⟨by simp, rfl⟩, hbits ss, rfl⟩

theorem takeBytes_eq_ok_iff {bytes : Bytes} :
    takeBytes n bs = .ok (bytes, rest) ↔ bytes.length = n ∧ bs = bytes ++ rest := by
  unfold takeBytes
  split
  · rename_i h
    simp only [Except.ok.injEq, Prod.mk.injEq]
    constructor
    · rintro ⟨rfl, rfl⟩
      exact ⟨List.length_take_of_le h, (List.take_append_drop n bs).symm⟩
    · rintro ⟨rfl, rfl⟩
      simp
  · rename_i h
    simp only [reduceCtorEq, false_iff, not_and]
    rintro rfl rfl
    simp at h

end Payload

open Payload

/-- A context that was read is within the window, has a count below the bound of a word, and
was written in front of the rest. -/
theorem TokenContext.decode_eq_ok_iff {window : Nat} {bs rest : Bytes} {c : TokenContext} :
    decode window bs = .ok (c, rest) ↔
      bs = c.encode ++ rest ∧ c.window = window ∧ c.length ≤ window ∧ c.length < UInt32.size := by
  simp only [decode, Except.bind_eq_ok_iff, Except.guard_eq_ok_iff, pure, Except.pure,
    Except.ok.injEq, Prod.mk.injEq, Prod.exists, takeRun_eq_ok_iff]
  constructor
  · rintro ⟨count, more, hw, hcount, tokens, _, ⟨hlen, hmore⟩, rfl, rfl⟩
    have hbs := takeWord_takeWords_eq_ok_iff.mp
      ⟨count, more, hw, takeWords_eq_ok_iff.mpr ⟨hlen, hmore⟩⟩
    exact ⟨hbs.2, rfl, by simp only [length]; omega, hbs.1⟩
  · rintro ⟨rfl, rfl, hle, hlt⟩
    refine ⟨.ofNat c.length, Bytes.ofWords c.tokens ++ rest, ?_, ?_, c.tokens, rest, ⟨?_, rfl⟩, rfl,
      rfl⟩
    · rw [encode, List.append_assoc]
      exact takeWord_ofWord_append _ _
    · rw [UInt32.toNat_ofNat_of_lt' hlt]
      omega
    · exact (UInt32.toNat_ofNat_of_lt' hlt).symm

namespace EngineBackend

/-- The bytes that sections stand for. -/
def Sections.encode (parts : Sections) : Bytes :=
  counted parts.context.tokens ++
    (counted (parts.logits.map Score.bits) ++
      (Bytes.ofWord (.ofNat parts.engine.length) ++ (parts.engine ++ parts.rest)))

/-- What every reader of sections accepts: counts within its bounds, all of which a word can
express. -/
structure Sections.Within (n vocab : Nat) (parts : Sections) : Prop where
  window : parts.context.window = n
  context : parts.context.length ≤ n
  logits : parts.logits.length ≤ vocab
  contextCount : parts.context.length < UInt32.size
  logitsCount : parts.logits.length < UInt32.size
  engineSize : parts.engine.length < UInt32.size

theorem Sections.decode_eq_ok_iff {window : Nat} {vocab : Outcome Empty Nat} {payload : Bytes}
    {parts : Sections} :
    decode window vocab payload = .ok parts ↔
      ∃ width, vocab = .ok width ∧ parts.Within window width ∧ payload = parts.encode := by
  simp only [decode, Outcome.bind_eq_ok_iff, Outcome.guard_eq_ok_iff, Outcome.ofExcept_eq_ok_iff,
    Outcome.lift_eq_ok_iff, Outcome.pure_eq, Outcome.ok.injEq, Prod.exists,
    TokenContext.decode_eq_ok_iff, takeWord_eq_ok_iff, takeScores_eq_ok_iff, takeBytes_eq_ok_iff]
  constructor
  · rintro ⟨context, _, ⟨rfl, hw, hc, hc'⟩, count, _, rfl, width, hv, hl, logits, _, ⟨hlen, rfl⟩,
      size, _, rfl, -, engine, rest, ⟨hsize, rfl⟩, rfl⟩
    have hlogits : logits.length ≤ width := hlen ▸ Nat.le_of_not_lt hl
    refine ⟨width, hv, ⟨hw, hc, hlogits, hc', hlen ▸ count.toNat_lt, hsize ▸ size.toNat_lt⟩, ?_⟩
    simp only [Sections.encode, counted, List.length_map, hlen, hsize, UInt32.ofNat_toNat,
      List.append_assoc]
    rfl
  · rintro ⟨width, hv, ⟨hw, hc, hl, hc', hl', he'⟩, rfl⟩
    have hcount := UInt32.toNat_ofNat_of_lt' hl'
    have hsize := UInt32.toNat_ofNat_of_lt' he'
    refine ⟨parts.context, _, ⟨rfl, hw, hc, hc'⟩, .ofNat parts.logits.length, _, ?_, width, hv,
      ?_, parts.logits, _, ⟨hcount.symm, rfl⟩, .ofNat parts.engine.length, _, rfl, ?_,
      parts.engine, parts.rest, ⟨hsize.symm, rfl⟩, rfl⟩
    · simp only [counted, List.length_map, List.append_assoc]
      rfl
    · omega
    · rw [hsize, List.length_append]
      omega

/-- A reader that is told the vocabulary takes apart what is within its bounds. -/
theorem Sections.decode_ok_eq_ok_iff {window vocab : Nat} {payload : Bytes} {parts : Sections} :
    decode window (.ok vocab) payload = .ok parts ↔
      parts.Within window vocab ∧ payload = parts.encode := by
  rw [decode_eq_ok_iff]
  constructor
  · rintro ⟨width, hv, h⟩
    cases hv
    exact h
  · exact fun h => ⟨vocab, rfl, h⟩

/-- It crashes only as it asks for the vocabulary. -/
theorem Sections.decode_eq_crash {window : Nat} {vocab : Outcome Empty Nat} {payload : Bytes}
    {t : String} (h : decode window vocab payload = .crash t) : vocab = .crash t := by
  simp only [decode, Outcome.bind_eq_crash_iff, Outcome.guard_eq_crash_iff,
    Outcome.lift_eq_crash_iff, Outcome.ofExcept_ne_crash, Outcome.pure_eq, reduceCtorEq, false_or,
    and_false, exists_false, or_false] at h
  obtain ⟨-, -, -, -, h⟩ := h
  exact h

theorem Sections.decode_ok_ne_crash {window vocab : Nat} {payload : Bytes} {t : String} :
    decode window (.ok vocab) payload ≠ .crash t :=
  fun h => nomatch decode_eq_crash h

end EngineBackend

end Decoding
