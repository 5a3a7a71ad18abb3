import Decoding.Proofs.Backend.Stub
import Decoding.Simulation.Wrapper

/-!
What a session counts on in its backend. Any call may fail; the contract says what the
context is after calls that succeed, and after failed evaluations. Stubs keep it, and a
wrapper keeps it around any backend that does, whatever its switches make fail.
-/

namespace Decoding

/-- The promises of a backend in all worlds. A crashed call promises nothing, and neither does a
failed eviction or a state that could not be restored. -/
structure Backend.Contract (ω β : Type) [Device β] [Backend ω β] : Prop where
  /-- Tokens evaluated after the whole context become part of it. -/
  evaluate_ok {w : ω} {b b' : β} {tokens : List UInt32} :
    Backend.evaluate w b (Device.context b).length tokens = (.ok (), b') →
      Device.context b' = Device.context b ++ tokens
  evaluate_error {w : ω} {b b' : β} {held : Nat} {tokens : List UInt32} {e : BackendError} :
    Backend.evaluate w b held tokens = (.error e, b') → Device.context b' = Device.context b
  evict_ok {w : ω} {b b' : β} {n : Nat} :
    Backend.evict w b n = (.ok (), b') → Device.context b' = (Device.context b).take n
  /-- A state that is taken to its last byte brings the context back that it was saved with. -/
  deserialize_ok {w w' : ω} {b b₁ b₂ : β} {bytes : Bytes} :
    Backend.serialize w b = .ok bytes → Backend.deserialize w' b₁ bytes = (.ok bytes.length, b₂) →
      Device.context b₂ = Device.context b

/-- An eviction that fails may have discarded any of the positions it was to discard, but no
other. -/
def Backend.EvictsFromEnd (ω β : Type) [Device β] [Backend ω β] : Prop :=
  ∀ {w : ω} {b b' : β} {n : Nat} {e : BackendError}, Backend.evict w b n = (.error e, b') →
    (Device.context b').take n = (Device.context b).take n

namespace Stub

variable {ω : Type}

theorem backend_evaluate_eq_ok_iff {w : ω} {b b' : Stub} {held : Nat} {tokens : List UInt32} :
    Backend.evaluate w b held tokens = (.ok (), b') ↔ b.evaluate held tokens = .ok b' := by
  change Outcome.commit b ((b.evaluate held tokens).map fun b' => ((), b')) = _ ↔ _
  rw [Outcome.commit_eq_ok_iff]
  cases b.evaluate held tokens <;> simp [Except.map]

theorem backend_evaluate_eq_error_iff {w : ω} {b b' : Stub} {held : Nat} {tokens : List UInt32}
    {e : BackendError} :
    Backend.evaluate w b held tokens = (.error e, b') ↔
      b.evaluate held tokens = .error e ∧ b' = b := by
  change Outcome.commit b ((b.evaluate held tokens).map fun b' => ((), b')) = _ ↔ _
  rw [Outcome.commit_eq_error_iff]
  cases b.evaluate held tokens <;> simp [Except.map]

theorem backend_deserialize_eq_ok_iff {w : ω} {b b' : Stub} {payload : Bytes} {n : Nat} :
    Backend.deserialize w b payload = (.ok n, b') ↔ b.restore payload = .ok (n, b') :=
  Outcome.commit_eq_ok_iff

theorem contract : Backend.Contract ω Stub where
  evaluate_ok h := by
    obtain ⟨-, -, -, rfl⟩ := evaluate_eq_ok_iff.mp (backend_evaluate_eq_ok_iff.mp h)
    rfl
  evaluate_error h := congrArg Device.context (Outcome.commit_eq_error_iff.mp h).2
  evict_ok h := by
    cases h
    rfl
  deserialize_ok {_ _ b _ _ bytes} hs hd := by
    have hb : bytes = b.context.encode := (Outcome.ok.inj hs).symm
    rw [hb, ← List.append_nil b.context.encode] at hd
    obtain ⟨-, -, rfl⟩ := restore_encode_append (backend_deserialize_eq_ok_iff.mp hd)
    rfl

theorem evictsFromEnd : Backend.EvictsFromEnd ω Stub := nofun

end Stub

namespace Simulation.Wrapper

variable {β : Type}

theorem lift_eq_iff {α : Type} {b b' : Wrapper β} {r : Outcome BackendError α × β}
    {o : Outcome BackendError α} :
    b.lift r = (o, b') ↔ ∃ inner, r = (o, inner) ∧ b' = { b with inner } := by
  simp only [lift, Prod.ext_iff]
  constructor
  · rintro ⟨h, rfl⟩
    exact ⟨r.2, ⟨h, rfl⟩, rfl⟩
  · rintro ⟨inner, ⟨h, rfl⟩, rfl⟩
    exact ⟨h, rfl⟩

variable [Device β] [Backend World β]

/-- An evaluation that succeeds is one of the inner backend. -/
theorem evaluate_eq_ok {w : World} {b b' : Wrapper β} {held : Nat} {tokens : List UInt32}
    (h : Backend.evaluate w b held tokens = (.ok (), b')) :
    ∃ inner, Backend.evaluate w b.inner held tokens = (.ok (), inner) ∧ b' = { b with inner } := by
  change evaluate w b held tokens = _ at h
  unfold evaluate at h
  split at h
  · cases h
  · split at h
    · cases h
    · cases h
    · split at h
      · cases h
      · exact lift_eq_iff.mp h

/-- One that fails either did not reach the inner backend or failed there. -/
theorem evaluate_eq_error {w : World} {b b' : Wrapper β} {held : Nat} {tokens : List UInt32}
    {e : BackendError} (h : Backend.evaluate w b held tokens = (.error e, b')) :
    b' = b ∨ ∃ inner, Backend.evaluate w b.inner held tokens = (.error e, inner) ∧
      b' = { b with inner } := by
  change evaluate w b held tokens = _ at h
  unfold evaluate at h
  split at h
  · cases h
  · split at h
    · cases h
    · cases h
      exact .inl rfl
    · split at h
      · cases h
        exact .inl rfl
      · exact .inr (lift_eq_iff.mp h)

theorem evict_eq_ok {w : World} {b b' : Wrapper β} {n : Nat}
    (h : Backend.evict w b n = (.ok (), b')) :
    ∃ inner, Backend.evict w b.inner n = (.ok (), inner) ∧ b' = { b with inner } := by
  change evict w b n = _ at h
  unfold evict at h
  split at h
  · cases h
  · cases h
  · exact lift_eq_iff.mp h

theorem evict_eq_error {w : World} {b b' : Wrapper β} {n : Nat} {e : BackendError}
    (h : Backend.evict w b n = (.error e, b')) :
    b' = b ∨ ∃ inner, Backend.evict w b.inner n = (.error e, inner) ∧ b' = { b with inner } := by
  change evict w b n = _ at h
  unfold evict at h
  split at h
  · cases h
  · cases h
    exact .inl rfl
  · exact .inr (lift_eq_iff.mp h)

/-- A state is only taken by the inner backend, and counted. -/
theorem deserialize_eq_ok {w : World} {b b' : Wrapper β} {payload : Bytes} {n : Nat}
    (h : Backend.deserialize w b payload = (.ok n, b')) :
    ∃ inner, Backend.deserialize w b.inner payload = (.ok n, inner) ∧ b'.inner = inner := by
  change deserialize w b payload = _ at h
  unfold deserialize at h
  simp only at h
  split at h
  · cases h
  · obtain ⟨inner, hi, rfl⟩ := lift_eq_iff.mp h
    exact ⟨inner, hi, rfl⟩

/-- The state of a wrapped stub is that of the stub, perhaps with bytes behind it. -/
theorem serialize_eq_ok {w : World} {b : Wrapper Stub} {bytes : Bytes}
    (h : Backend.serialize w b = .ok bytes) : ∃ extra, bytes = b.inner.context.encode ++ extra := by
  change serialize w b = _ at h
  unfold serialize at h
  split at h
  · cases h
  · exact ⟨_, (Outcome.ok.inj h).symm⟩

/-- A wrapped stub keeps the contract whatever the switches of a world are: those that make
deserializing fail, and those that pad a saved state so that it cannot be taken back. -/
theorem contract : Backend.Contract World (Wrapper Stub) where
  evaluate_ok h := by
    obtain ⟨inner, hi, rfl⟩ := evaluate_eq_ok h
    exact Stub.contract.evaluate_ok hi
  evaluate_error h := by
    obtain rfl | ⟨inner, hi, rfl⟩ := evaluate_eq_error h
    · rfl
    · exact Stub.contract.evaluate_error hi
  evict_ok h := by
    obtain ⟨inner, hi, rfl⟩ := evict_eq_ok h
    exact Stub.contract.evict_ok hi
  deserialize_ok hs hd := by
    obtain ⟨extra, rfl⟩ := serialize_eq_ok hs
    obtain ⟨inner, hi, hinner⟩ := deserialize_eq_ok hd
    obtain ⟨-, -, rfl⟩ :=
      Stub.restore_encode_append (Stub.backend_deserialize_eq_ok_iff.mp hi)
    have hheld := congrArg (fun b : Stub => b.context.tokens) hinner
    exact hheld

theorem evictsFromEnd : Backend.EvictsFromEnd World (Wrapper Stub) := by
  intro w b b' n e h
  obtain rfl | ⟨inner, hi, rfl⟩ := evict_eq_error h
  · rfl
  · exact Stub.evictsFromEnd hi

end Simulation.Wrapper

end Decoding
