import Decoding.Proofs.Backend.Window
import Decoding.Proofs.Session.Faults
import Decoding.Proofs.Snapshot.Kinds

/-!
What sessions count stays within the window of their backend. The backend checks every evaluation
and every payload against the window, and the session counts only what its backend has accepted, so
the position fits the words that a snapshot has for it.
-/

namespace Decoding

open Snapshot

/-- A property that every command keeps and that bounds the context by `n` tokens. A backend that
has it evaluates no tokens beyond the bound, and its payloads begin with the number of tokens. -/
structure Backend.Windowed (ω : Type) {β : Type} [Device β] [Backend ω β] (n : Nat)
    (P : β → Prop) : Prop where
  keeps : Keeps ω P
  context {b : β} : P b → (Device.context b).length ≤ n
  evaluate_ok {w : ω} {b b' : β} {held : Nat} {tokens : List UInt32} :
    P b → Backend.evaluate w b held tokens = (.ok (), b') → held + tokens.length ≤ n
  serialize_ok {w : ω} {b : β} {payload : Bytes} : P b → Backend.serialize w b = .ok payload →
    ∃ rest, payload = Bytes.ofWord (.ofNat (Device.context b).length) ++ rest

theorem TokenContext.exists_encode_append (c : TokenContext) (more : Bytes) :
    ∃ rest, c.encode ++ more = Bytes.ofWord (.ofNat c.tokens.length) ++ rest :=
  ⟨_, List.append_assoc ..⟩

theorem Stub.windowed {ω : Type} (n : Nat) :
    Backend.Windowed ω n fun b : Stub => b.context.Within n where
  keeps := keeps_within n
  context h := h.length
  evaluate_ok h he := by
    obtain ⟨-, rfl, hroom, -⟩ := evaluate_eq_ok_iff.mp (backend_evaluate_eq_ok_iff.mp he)
    rw [h.window] at hroom
    exact hroom
  serialize_ok {_ b _} _ hs := by
    cases hs
    rw [← List.append_nil b.context.encode]
    exact b.context.exists_encode_append []

theorem EngineBackend.windowed {ω ε : Type} [Engine ω ε] (n : Nat) :
    Backend.Windowed ω n fun b : EngineBackend ε => b.context.Within n where
  keeps := keeps_within n
  context h := h.length
  evaluate_ok {w b b' held tokens} h he := by
    have hs := evaluate_evaluated w b held tokens
    rw [show b.evaluate w held tokens = (.ok (), b') from he] at hs
    generalize b.evaluationAsks w held tokens = asks at hs
    cases hs with
    | advanced ha he =>
      obtain ⟨rfl, hroom⟩ := ha
      rw [h.window] at hroom
      exact hroom
  serialize_ok {_ b _} _ hs := by
    obtain ⟨more, -, rfl⟩ := exists_of_serialize hs
    exact b.context.exists_encode_append more

namespace Backend

variable {ω α β : Type} [Device α] [Backend ω α] [Device β] [Backend ω β] {f : α → β}

/-- A backend keeps what the one that it stands for keeps. -/
theorem Keeps.map (hf : Embeds ω f) {P : α → Prop} (h : Keeps ω P) :
    Keeps ω fun b : β => ∃ a, b = f a ∧ P a where
  evaluate w held tokens := by
    rintro ⟨a, rfl, ha⟩
    exact ⟨_, congrArg Prod.snd (hf.evaluate w a held tokens), h.evaluate w held tokens ha⟩
  evict w n := by
    rintro ⟨a, rfl, ha⟩
    exact ⟨_, congrArg Prod.snd (hf.evict w a n), h.evict w n ha⟩
  deserialize w payload := by
    rintro ⟨a, rfl, ha⟩
    exact ⟨_, congrArg Prod.snd (hf.deserialize w a payload), h.deserialize w payload ha⟩

theorem Windowed.map (hf : Embeds ω f) {n : Nat} {P : α → Prop} (h : Windowed ω n P) :
    Windowed ω n fun b : β => ∃ a, b = f a ∧ P a where
  keeps := h.keeps.map hf
  context := by
    rintro _ ⟨a, rfl, ha⟩
    rw [hf.context]
    exact h.context ha
  evaluate_ok {w _ _ held tokens} := by
    rintro ⟨a, rfl, ha⟩ he
    rw [hf.evaluate] at he
    have hok : (Backend.evaluate w a held tokens).1 = .ok () := congrArg Prod.fst he
    exact h.evaluate_ok ha (Prod.ext hok rfl)
  serialize_ok := by
    rintro w _ payload ⟨a, rfl, ha⟩ hs
    rw [hf.serialize] at hs
    rw [hf.context]
    exact h.serialize_ok ha hs

end Backend

namespace Session

variable {ω β : Type} [Device β] [Backend ω β] {n : Nat} {P : β → Prop} {s : Session β}

/-- The position of a session is the length of its history and within a bound, and so is what its
backend holds. -/
structure Bounded (n : Nat) (P : β → Prop) (s : Session β) : Prop where
  backend : P s.backend
  counted : s.position = s.committed.length
  position : s.position ≤ n

omit [Device β] in
theorem bounded_fresh {b : β} (hb : P b) : Bounded n P (fresh b) := ⟨hb, rfl, Nat.zero_le n⟩

/-- A call moves the position back, or on by tokens that the backend has evaluated, or to the number
of tokens in a payload that the backend has taken. -/
theorem Bounded.perform (h : Backend.Windowed ω n P) (hs : s.Bounded n P) (w : ω) (call : Call) :
    (s.perform w call).2.Bounded n P := by
  have hkept := perform_keeps h.keeps hs.backend w call
  refine ⟨hkept, position_perform hs.counted w call, ?_⟩
  cases call with
  | step tokens =>
    rw [perform_step]
    have hstep := s.step_stepped w tokens
    generalize s.step w tokens = r at hstep ⊢
    cases hstep with
    | advanced hf ht he => exact h.evaluate_ok hs.backend he
    | _ => exact hs.position
  | rollback steps =>
    rw [perform_rollback, (s.rollback_shortens w steps).1]
    exact Nat.le_trans (s.kept_le steps) hs.position
  | restore bytes limit =>
    rw [perform_restore] at hkept ⊢
    have hrestored := s.restore_restored w bytes limit
    generalize s.restore w bytes limit = r at hrestored hkept ⊢
    cases hrestored with
    | taken hh hs ht =>
      rw [← (takePayload_eq_ok_iff.mp ht).2]
      exact h.context hkept
    | _ => exact hs.position
  | _ => exact hs.position

theorem Bounded.run (h : Backend.Windowed ω n P) (hs : s.Bounded n P) (calls : List (ω × Call)) :
    (s.run calls).2.Bounded n P := by
  induction calls generalizing s with
  | nil => exact hs
  | cons made rest ih => exact ih (hs.perform h made.1 made.2)

/-- A position that a word can express is the position in the header of what is exported. -/
theorem exists_header_of_exports {w : ω} {bytes : Bytes} (hp : s.position < UInt32.size)
    (h : Exports w s bytes) :
    ∃ header payload, Header.decode bytes = .ok (header, payload) ∧
      header.position.toNat = s.position := by
  obtain ⟨limit, hs⟩ := exports_iff.mp h
  obtain ⟨-, -, -, -, payload, -, -, rfl⟩ := snapshot_eq_ok_iff.mp hs
  exact ⟨_, payload, Header.decode_encode_append _ _ payload, UInt32.toNat_ofNat_of_lt' hp⟩

end Session

end Decoding
