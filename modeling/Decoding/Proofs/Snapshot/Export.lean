import Decoding.Proofs.Session.Embedding

/-!
Exports over backends that lie. A backend may report one size and write another, or fail half-way;
what an export gives is a snapshot whose header tells its length all the same. A buffer is written
if there is such a snapshot and it has room for it, and is left as it is otherwise. The checks that
come before the state is written look at the fault, the reported size, the limit and the room, in
this order, and at nothing else.
-/

namespace Decoding

/-- The errors that an export can give before its backend has written anything. -/
def SessionError.Early : SessionError → Prop
  | .faulted _ | .limitExceeded .. | .bufferTooSmall .. => True
  | _ => False

namespace Session

open Snapshot

variable {ω ω' β γ : Type} [Device β] [Backend ω β] [Device γ] [Backend ω' γ] {w : ω} {w' : ω'}
  {s : Session β} {b : γ} {limit total : Nat} {e : SessionError} {reported : UInt64}

theorem snapshotSize_of_large (hr : Backend.stateSize w s.backend = .ok reported)
    (h : maxSize < headerSize + reported.toNat) :
    ∃ size bound, bound < size ∧ s.snapshotSize w = .error (.limitExceeded size bound) := by
  simp only [snapshotSize, hr, Outcome.lift_ok, Outcome.ok_bind, gt_iff_lt, if_pos h]
  split
  · exact ⟨_, _, by assumption, rfl⟩
  · exact ⟨_, _, h, rfl⟩

/-- A snapshot above the limit is refused, and so is one that is too large for any limit. -/
theorem checkedSize_of_large (hf : s.fault = none)
    (hr : Backend.stateSize w s.backend = .ok reported)
    (h : min limit maxSize < headerSize + reported.toNat) :
    ∃ size bound, bound < size ∧ s.checkedSize w limit = .error (.limitExceeded size bound) := by
  by_cases hmax : maxSize < headerSize + reported.toNat
  · obtain ⟨size, bound, hlt, hsize⟩ := snapshotSize_of_large hr hmax
    refine ⟨size, bound, hlt, ?_⟩
    simp only [checkedSize, hf, hsize, Outcome.error_bind]
  · have hsize := snapshotSize_eq_ok_iff.mpr ⟨⟨reported, hr, rfl⟩, Nat.le_of_not_lt hmax⟩
    have hlimit : limit < headerSize + reported.toNat := by omega
    refine ⟨_, limit, hlimit, ?_⟩
    simp only [checkedSize, hf, hsize, Outcome.ok_bind]
    exact if_pos hlimit

theorem checkedSize_withBackend (hsize : Backend.stateSize w' b = Backend.stateSize w s.backend) :
    (s.withBackend b).checkedSize w' limit = s.checkedSize w limit := by
  simp only [checkedSize, snapshotSize, withBackend, map, hsize]

/-- If a snapshot is not even begun, that is for the position, which the header has no room for. -/
theorem encode_of_early (he : s.encode w total = .error e) (hearly : e.Early) :
    maxPayload < s.position ∧ e = .limitExceeded s.position maxPayload := by
  unfold encode at he
  split at he
  · rename_i hposition
    cases he
    exact ⟨hposition, rfl⟩
  · cases hs : Backend.serialize w s.backend with
    | crash text =>
      simp only [hs, Outcome.mapError_crash, Outcome.crash_bind, reduceCtorEq] at he
    | error cause =>
      simp only [hs, Outcome.mapError_error, Outcome.error_bind, Outcome.error.injEq] at he
      subst he
      exact hearly.elim
    | ok payload =>
      simp only [hs, Outcome.mapError_ok, Outcome.ok_bind] at he
      split at he
      · cases he
        exact hearly.elim
      · cases he

theorem encode_withBackend (he : s.encode w total = .error e) (hearly : e.Early) :
    (s.withBackend b).encode w' total = .error e := by
  obtain ⟨hposition, rfl⟩ := encode_of_early he hearly
  unfold encode
  exact if_pos hposition

/-- Another backend of the same reported size gives the same early errors. -/
theorem snapshot_withBackend (hsize : Backend.stateSize w' b = Backend.stateSize w s.backend)
    (hs : s.snapshot w limit = .error e) (hearly : e.Early) :
    (s.withBackend b).snapshot w' limit = .error e := by
  unfold snapshot at hs ⊢
  rw [checkedSize_withBackend hsize]
  cases hc : s.checkedSize w limit with
  | error e' =>
    rw [hc] at hs
    exact hs
  | crash t =>
    rw [hc] at hs
    cases hs
  | ok total =>
    rw [hc] at hs
    exact encode_withBackend hs hearly

theorem snapshotInto_withBackend {buffer : Bytes}
    (hsize : Backend.stateSize w' b = Backend.stateSize w s.backend)
    (hs : s.snapshotInto w buffer limit = (.error e, buffer)) (hearly : e.Early) :
    (s.withBackend b).snapshotInto w' buffer limit = (.error e, buffer) := by
  unfold snapshotInto at hs ⊢
  rw [checkedSize_withBackend hsize]
  cases hc : s.checkedSize w limit with
  | error e' =>
    rw [hc] at hs
    exact hs
  | crash t =>
    rw [hc] at hs
    cases hs
  | ok total =>
    simp only [hc] at hs ⊢
    split at hs
    · rename_i hroom
      rw [if_pos hroom]
      exact hs
    · rename_i hroom
      rw [if_neg hroom]
      cases he : s.encode w total with
      | ok bytes | crash t =>
        rw [he] at hs
        cases hs
      | error e' =>
        rw [he] at hs
        cases hs
        rw [encode_withBackend he hearly]

/-- Nothing is written before the whole snapshot is there. -/
theorem snapshotInto_kept {buffer out : Bytes} {o : Outcome SessionError Nat}
    (h : s.snapshotInto w buffer limit = (o, out)) (ho : ∀ n, o ≠ .ok n) : out = buffer := by
  unfold snapshotInto at h
  split at h
  · cases h
    rfl
  · cases h
    rfl
  · split at h
    · cases h
      rfl
    · split at h
      · cases h
        rfl
      · cases h
        rfl
      · cases h
        exact absurd rfl (ho _)

/-- An export crashes only where its backend is asked for its size or its state and crashes. -/
theorem snapshot_eq_crash {t : String} (h : s.snapshot w limit = .crash t) :
    s.fault = none ∧
      (Backend.stateSize w s.backend = .crash t ∨ Backend.serialize w s.backend = .crash t) := by
  rcases Outcome.bind_eq_crash_iff.mp h with hc | ⟨total, hc, he⟩
  · cases hf : s.fault with
    | some fault =>
      rw [checkedSize_of_faulted hf] at hc
      cases hc
    | none =>
      simp only [checkedSize, hf, Outcome.bind_eq_crash_iff, snapshotSize_eq_crash_iff,
        Outcome.guard_eq_crash_iff, Outcome.pure_eq, reduceCtorEq, and_false, exists_false,
        or_false] at hc
      exact ⟨rfl, .inl hc⟩
  · simp only [encode, Outcome.guard_eq_crash_iff, Outcome.bind_eq_crash_iff,
      Outcome.mapError_eq_crash_iff, Outcome.pure_eq, reduceCtorEq, and_false, exists_false,
      or_false] at he
    exact ⟨(checkedSize_eq_ok_iff.mp hc).1, .inr he.2⟩

theorem snapshotInto_eq_crash {buffer out : Bytes} {t : String}
    (h : s.snapshotInto w buffer limit = (.crash t, out)) :
    out = buffer ∧ s.snapshot w limit = .crash t := by
  refine ⟨snapshotInto_kept h nofun, ?_⟩
  unfold snapshotInto at h
  unfold snapshot
  split at h
  · cases h
  · rename_i hc
    cases h
    rw [hc]
    rfl
  · rename_i hc
    rw [hc, Outcome.ok_bind]
    split at h
    · cases h
    · split at h
      · cases h
      · rename_i he
        cases h
        exact he
      · cases h

/-- A snapshot is what its header says: of this version and the session's position, and as long as
the size of its payload, which is all that the backend has written. -/
theorem snapshot_eq_ok_iff_decode {bytes : Bytes} :
    s.snapshot w limit = .ok bytes ↔
      s.fault = none ∧ s.snapshotSize w = .ok bytes.length ∧ bytes.length ≤ min limit maxSize ∧
        ∃ header payload, Header.decode bytes = .ok (header, payload) ∧ header.version = 1 ∧
          header.position.toNat = s.position ∧ header.payloadSize.toNat + 16 = bytes.length ∧
          Backend.serialize w s.backend = .ok payload := by
  have hmax : maxSize < UInt32.size := by decide
  rw [snapshot_eq_ok_iff, snapshotSize_eq_ok_iff]
  constructor
  · rintro ⟨hf, hp, hs, hl, payload, hpay, ⟨size, hsize, hlen⟩, rfl⟩
    rw [List.length_append, Header.length_encode] at hs hl ⊢
    refine ⟨hf, ⟨⟨size, hsize, by rw [hlen]⟩, hs⟩, by omega, _, payload, Header.decode_encode_append .., rfl,
      ?_, ?_, hpay⟩
    · exact UInt32.toNat_ofNat_of_lt' (Nat.lt_succ_of_le hp)
    · change (UInt32.ofNat payload.length).toNat + 16 = 16 + payload.length
      rw [UInt32.toNat_ofNat_of_lt' (by omega), Nat.add_comm]
  · rintro ⟨hf, ⟨⟨size, hreported, hsize⟩, -⟩, hbound, header, payload, hd, -, hposition, hpayload, hpay⟩
    obtain ⟨hv, rfl⟩ := Header.decode_eq_ok_iff.mp hd
    rw [List.length_append, Header.length_encode] at hsize hbound hpayload ⊢
    have hlen : payload.length = header.payloadSize.toNat := by
      unfold headerSize at hpayload
      omega
    refine ⟨hf, ?_, by omega, by omega, payload, hpay, ⟨size, hreported, by omega⟩, ?_⟩
    · have := header.position.toNat_lt
      unfold maxPayload
      omega
    · obtain ⟨version, position, payloadSize⟩ := header
      cases hv
      simp only at hposition hlen
      rw [← hposition, hlen, UInt32.ofNat_toNat, UInt32.ofNat_toNat]
      rfl

/-- Over any backend, truthful or not, an export into a buffer succeeds if and only if the export as
a value does and the buffer has room for it. Then it gives the length of the snapshot, which stands
at the front of the buffer, and leaves the rest of the buffer as it is. A snapshot has the size that
was announced and is within the limit; it is a header that can be read, with the position of the
session and the size of what follows, and what the backend has written. An export that fails or
crashes leaves the buffer as it is, and it crashes only if the backend does. A fault is reported
first, then a size above the bounds, then a buffer that is too small; no backend that reports the
same size makes a difference to these. -/
theorem snapshots_sound (w : ω) (s : Session β) (buffer : Bytes) (limit : Nat) :
    (∀ n out, s.snapshotInto w buffer limit = (.ok n, out) ↔
      ∃ bytes, s.snapshot w limit = .ok bytes ∧ bytes.length ≤ buffer.length ∧ n = bytes.length ∧
        out = bytes ++ buffer.drop n) ∧
    (∀ bytes, s.snapshot w limit = .ok bytes ↔
      s.fault = none ∧ s.snapshotSize w = .ok bytes.length ∧ bytes.length ≤ min limit maxSize ∧
        ∃ header payload, Header.decode bytes = .ok (header, payload) ∧ header.version = 1 ∧
          header.position.toNat = s.position ∧ header.payloadSize.toNat + 16 = bytes.length ∧
          Backend.serialize w s.backend = .ok payload) ∧
    (∀ e out, s.snapshotInto w buffer limit = (.error e, out) → out = buffer) ∧
    (∀ t, s.snapshot w limit = .crash t → s.fault = none ∧
      (Backend.stateSize w s.backend = .crash t ∨ Backend.serialize w s.backend = .crash t)) ∧
    (∀ t out, s.snapshotInto w buffer limit = (.crash t, out) →
      out = buffer ∧ s.snapshot w limit = .crash t) ∧
    (∀ fault, s.fault = some fault → s.snapshot w limit = .error (.faulted fault) ∧
      s.snapshotInto w buffer limit = (.error (.faulted fault), buffer)) ∧
    (∀ reported, s.fault = none → Backend.stateSize w s.backend = .ok reported →
      (min limit maxSize < 16 + reported.toNat →
        ∃ size bound, bound < size ∧ s.snapshot w limit = .error (.limitExceeded size bound) ∧
          s.snapshotInto w buffer limit = (.error (.limitExceeded size bound), buffer)) ∧
      (16 + reported.toNat ≤ min limit maxSize → buffer.length < 16 + reported.toNat →
        s.snapshotInto w buffer limit =
          (.error (.bufferTooSmall (16 + reported.toNat) buffer.length), buffer))) ∧
    ∀ (ω' γ : Type) [Device γ] [Backend ω' γ] (w' : ω') (b : γ),
      Backend.stateSize w' b = Backend.stateSize w s.backend → ∀ e : SessionError, e.Early →
        (s.snapshot w limit = .error e → (s.withBackend b).snapshot w' limit = .error e) ∧
        (s.snapshotInto w buffer limit = (.error e, buffer) →
          (s.withBackend b).snapshotInto w' buffer limit = (.error e, buffer)) := by
  refine ⟨fun n out => ?_, fun bytes => snapshot_eq_ok_iff_decode,
    fun e out h => snapshotInto_kept h nofun, fun t => snapshot_eq_crash,
    fun t out => snapshotInto_eq_crash, fun fault hf => ?_,
    fun reported hf hr => ⟨fun hlarge => ?_, fun hsmall hroom => ?_⟩,
    fun ω' γ _ _ w' b hsize e hearly => ?_⟩
  · rw [snapshotInto_eq_ok_iff]
    constructor
    · rintro ⟨bytes, hs, rfl, hroom, rfl⟩
      exact ⟨bytes, hs, hroom, rfl, rfl⟩
    · rintro ⟨bytes, hs, hroom, rfl, rfl⟩
      exact ⟨bytes, hs, rfl, hroom, rfl⟩
  · rw [snapshot, snapshotInto, checkedSize_of_faulted hf]
    exact ⟨rfl, rfl⟩
  · obtain ⟨size, bound, hlt, hchecked⟩ := checkedSize_of_large hf hr hlarge
    refine ⟨size, bound, hlt, ?_⟩
    rw [snapshot, snapshotInto, hchecked]
    exact ⟨rfl, rfl⟩
  · have hchecked : s.checkedSize w limit = .ok (16 + reported.toNat) :=
      checkedSize_eq_ok_iff.mpr
        ⟨hf, snapshotSize_eq_ok_iff.mpr ⟨⟨reported, hr, rfl⟩, by omega⟩, by omega⟩
    rw [snapshotInto, hchecked]
    exact if_pos hroom
  · exact ⟨fun hs => snapshot_withBackend hsize hs hearly,
      fun hs => snapshotInto_withBackend hsize hs hearly⟩

end Session

end Decoding
