import Decoding.Backend.Stub
import Decoding.Proofs.Backend.Payload

/-!
Stubs, call by call: when an evaluation or a restored payload is accepted, and what the
stub is then. A stub reads back what any stub has written, whatever follows it.
-/

namespace Decoding

theorem Backend.checkVocab_eq_ok_iff {vocab : Nat} {tokens : List UInt32} :
    checkVocab vocab tokens = .ok () ↔ ∀ t ∈ tokens, t.toNat < vocab := by
  unfold checkVocab
  split
  · rename_i t h
    simp only [reduceCtorEq, false_iff]
    intro hall
    have hm := hall t (List.mem_of_find?_eq_some h)
    have hp := List.find?_some h
    simp only [decide_eq_true_eq] at hp
    omega
  · rename_i h
    simp only [List.find?_eq_none, decide_eq_true_eq, Nat.not_le] at h
    simpa using h

namespace Stub

/-- A stub with other tokens in its context. -/
def holding (b : Stub) (tokens : List UInt32) : Stub :=
  { b with context := { b.context with tokens } }

/-- Tokens that a stub can hold: as many as the window has room for, all of them in the
vocabulary. -/
structure Fits (b : Stub) (tokens : List UInt32) : Prop where
  window : tokens.length ≤ b.context.window
  vocab : ∀ t ∈ tokens, t.toNat < b.vocab

theorem holding_tokens (b : Stub) : b.holding b.context.tokens = b := rfl

/-- A new stub of either kind has the bounds of its configuration and no tokens. -/
theorem new_eq {b : Stub} {c : Config} (h : b = .deterministic c ∨ fixed c = .ok b) :
    b.vocab = c.vocab ∧ b.context = .empty c.window := by
  rcases h with rfl | h
  · exact ⟨rfl, rfl⟩
  · unfold fixed Scoring.draw Buffer.make at h
    split at h
    · cases h
      exact ⟨Scoring.length_distribution c.vocab c.seed, rfl⟩
    · cases h

theorem Fits.take {b : Stub} {tokens : List UInt32} (h : b.Fits tokens) (n : Nat) :
    b.Fits (tokens.take n) :=
  ⟨Nat.le_trans (List.length_take_le' ..) h.window, fun t ht => h.vocab t (List.mem_of_mem_take ht)⟩

theorem Fits.append {b : Stub} {xs ys : List UInt32} (h : b.Fits xs)
    (hw : xs.length + ys.length ≤ b.context.window) (hv : ∀ t ∈ ys, t.toNat < b.vocab) :
    b.Fits (xs ++ ys) := by
  refine ⟨by simpa using hw, fun t ht => ?_⟩
  rcases List.mem_append.mp ht with hx | hy
  · exact h.vocab t hx
  · exact hv t hy

theorem evaluate_eq_ok_iff {b b' : Stub} {held : Nat} {tokens : List UInt32} :
    b.evaluate held tokens = .ok b' ↔
      (∀ t ∈ tokens, t.toNat < b.vocab) ∧ held = b.context.length ∧
        b.context.length + tokens.length ≤ b.context.window ∧
        b' = b.holding (b.context.tokens ++ tokens) := by
  simp only [evaluate, Except.bind_eq_ok_iff, pure, Except.pure, Except.ok.injEq]
  constructor
  · rintro ⟨u, hv, context, ha, rfl⟩
    obtain ⟨hh, hw, rfl⟩ := TokenContext.append_eq_ok_iff.mp ha
    exact ⟨Backend.checkVocab_eq_ok_iff.mp hv, hh, hw, rfl⟩
  · rintro ⟨hv, hh, hw, rfl⟩
    exact ⟨(), Backend.checkVocab_eq_ok_iff.mpr hv, _,
      TokenContext.append_eq_ok_iff.mpr ⟨hh, hw, rfl⟩, rfl⟩

/-- The first token out of the vocabulary is refused, before the window is looked at. -/
theorem evaluate_of_find {b : Stub} {held : Nat} {tokens : List UInt32} {t : UInt32}
    (h : tokens.find? (fun t => b.vocab ≤ t.toNat) = some t) :
    b.evaluate held tokens = .error (.tokenOutOfRange t b.vocab) := by
  simp only [evaluate, Backend.checkVocab, h]
  rfl

theorem evaluate_of_full {b : Stub} {tokens : List UInt32}
    (hv : tokens.find? (fun t => b.vocab ≤ t.toNat) = none)
    (hw : b.context.length + tokens.length > b.context.window) :
    b.evaluate b.context.length tokens =
      .error (.contextFull (b.context.length + tokens.length) b.context.window) := by
  simp only [evaluate, Backend.checkVocab, hv, TokenContext.append, TokenContext.checkAppend,
    ne_eq, not_true_eq_false, if_false, if_pos hw]
  rfl

/-- A payload is accepted if it begins with the bytes of tokens that the stub can hold. -/
theorem restore_eq_ok_iff {b b' : Stub} {payload : Bytes} {n : Nat} :
    b.restore payload = .ok (n, b') ↔
      ∃ tokens rest, payload = TokenContext.encode ⟨tokens, b.context.window⟩ ++ rest ∧
        b.Fits tokens ∧ tokens.length < UInt32.size ∧ n = 4 + 4 * tokens.length ∧
        b' = b.holding tokens := by
  simp only [restore, Except.bind_eq_ok_iff, pure, Except.pure]
  constructor
  · rintro ⟨⟨⟨tokens, window⟩, rest⟩, hd, u, hv, h⟩
    obtain ⟨rfl, hw, hle, hlt⟩ := TokenContext.decode_eq_ok_iff.mp hd
    subst hw
    cases h
    refine ⟨tokens, rest, rfl, ⟨hle, Backend.checkVocab_eq_ok_iff.mp hv⟩, hlt, ?_, rfl⟩
    simp [TokenContext.encodedSize, TokenContext.length]
  · rintro ⟨tokens, rest, rfl, hfits, hlt, rfl, rfl⟩
    have hv := Backend.checkVocab_eq_ok_iff.mpr hfits.vocab
    refine ⟨(⟨tokens, b.context.window⟩, rest), ?_, (), hv, ?_⟩
    · exact TokenContext.decode_eq_ok_iff.mpr ⟨rfl, rfl, hfits.window, hlt⟩
    · simp [TokenContext.encodedSize, TokenContext.length, holding]

/-- A payload that begins with a written context and is taken to its last byte is that context and
nothing more. -/
theorem restore_encode_append {b b' : Stub} {c : TokenContext} {more : Bytes}
    (h : b.restore (c.encode ++ more) = .ok ((c.encode ++ more).length, b')) :
    more = [] ∧ b.Fits c.tokens ∧ b' = b.holding c.tokens := by
  obtain ⟨tokens, rest, hp, hfits, hlt, hn, rfl⟩ := restore_eq_ok_iff.mp h
  have hlen := congrArg List.length hp
  simp only [List.length_append, TokenContext.length_encode, TokenContext.encodedSize,
    TokenContext.length] at hlen hn
  have hrest : rest = [] := List.eq_nil_of_length_eq_zero (by omega)
  have hc : c.tokens.length < UInt32.size := by omega
  obtain ⟨htokens, hmore⟩ := Payload.counted_append_inj hc hlt hp
  rw [← htokens] at hfits
  exact ⟨hmore.trans hrest, hfits, by rw [htokens]⟩

end Stub

end Decoding
