import Decoding.Proofs.Outcome
import Decoding.Proofs.Snapshot.Header
import Decoding.Session.Snapshot

/-!
Snapshots from the outside. A byte string passes the checks on its envelope exactly if it
is a header of this format and as many bytes as it declares, within the limit. An export
that succeeds gives such bytes, with the state of the backend as the payload.
-/

namespace Decoding.Snapshot

/-- An envelope is accepted if it is a header and the payload that it declares, within the limit. -/
theorem checkEnvelope_eq_ok_iff {bytes : Bytes} {limit : Nat} {header : Header} :
    checkEnvelope bytes limit = .ok header ↔
      bytes.length ≤ limit ∧ header.version = formatVersion ∧
        ∃ payload, bytes = header.encode ++ payload ∧
          payload.length = header.payloadSize.toNat := by
  simp only [checkEnvelope, Except.bind_eq_ok_iff, Except.guard_eq_ok_iff,
    Except.mapError_eq_ok_iff, pure, Except.pure, Classical.not_not]
  constructor
  · rintro ⟨hshort, hlimit, ⟨h, rest⟩, hd, htotal, hh⟩
    cases hh
    obtain ⟨hv, hbytes⟩ := Header.decode_eq_ok_iff.mp hd
    have hrest : rest = [] := by
      have := congrArg List.length hbytes
      simp only [List.length_append, List.length_take, Header.length_encode] at this
      exact List.eq_nil_of_length_eq_zero (by omega)
    rw [hrest, List.append_nil] at hbytes
    simp only [Header.totalSize] at htotal
    refine ⟨Nat.le_of_not_lt hlimit, hv, bytes.drop headerSize, ?_, ?_⟩
    · rw [← hbytes, List.take_append_drop]
    · simp only [List.length_drop]
      omega
  · rintro ⟨hlimit, hv, payload, rfl, hlen⟩
    have hsize : (header.encode ++ payload).length = headerSize + payload.length := by
      rw [List.length_append, Header.length_encode]
    refine ⟨by omega, by omega, (header, []), ?_, ?_, rfl⟩
    · rw [take_encode_append]
      exact Header.decode_eq_ok_iff.mpr ⟨hv, (List.append_nil _).symm⟩
    · rw [hsize, Header.totalSize, hlen]

/-- The header that an accepted envelope is read with is the one that was written. -/
theorem eq_of_checkEnvelope {position size : UInt32} {payload : Bytes} {limit : Nat}
    {header : Header}
    (h : checkEnvelope ((Header.current position size).encode ++ payload) limit = .ok header) :
    header = .current position size := by
  obtain ⟨-, hv, payload', hbytes, -⟩ := checkEnvelope_eq_ok_iff.mp h
  have hd := Header.decode_encode_append position size payload
  rw [Header.decode_eq_ok_iff.mpr ⟨hv, hbytes⟩] at hd
  cases hd
  rfl

end Decoding.Snapshot

namespace Decoding.Session

open Snapshot

variable {ω β : Type} [Device β] [Backend ω β]

theorem snapshotSize_eq_ok_iff {w : ω} {s : Session β} {total : Nat} :
    s.snapshotSize w = .ok total ↔
      (∃ size, Backend.stateSize w s.backend = .ok size ∧ total = headerSize + size.toNat) ∧
        total ≤ maxSize := by
  have hmax : maxSize < maxPayload := by decide
  simp only [snapshotSize, Outcome.bind_eq_ok_iff, Outcome.lift_eq_ok_iff, Outcome.guard_eq_ok_iff,
    Outcome.pure_eq, Outcome.ok.injEq]
  constructor
  · rintro ⟨size, hsize, -, hmax, rfl⟩
    exact ⟨⟨size, hsize, rfl⟩, Nat.le_of_not_lt hmax⟩
  · rintro ⟨⟨size, hsize, rfl⟩, hle⟩
    exact ⟨size, hsize, by omega, by omega, rfl⟩

theorem snapshotSize_eq_crash_iff {w : ω} {s : Session β} {text : String} :
    s.snapshotSize w = .crash text ↔ Backend.stateSize w s.backend = .crash text := by
  simp only [snapshotSize, Outcome.bind_eq_crash_iff, Outcome.lift_eq_crash_iff,
    Outcome.guard_eq_crash_iff, Outcome.pure_eq, reduceCtorEq, and_false, exists_false, or_false]

theorem checkedSize_eq_ok_iff {w : ω} {s : Session β} {limit total : Nat} :
    s.checkedSize w limit = .ok total ↔
      s.fault = none ∧ s.snapshotSize w = .ok total ∧ total ≤ limit := by
  unfold checkedSize
  cases s.fault with
  | some fault => simp
  | none =>
    simp only [true_and, Outcome.bind_eq_ok_iff, Outcome.guard_eq_ok_iff, Outcome.pure_eq,
      Outcome.ok.injEq]
    constructor
    · rintro ⟨n, hn, hl, rfl⟩
      exact ⟨hn, Nat.le_of_not_lt hl⟩
    · rintro ⟨hn, hl⟩
      exact ⟨total, hn, Nat.not_lt.mpr hl, rfl⟩

theorem checkedSize_of_faulted {w : ω} {s : Session β} {fault : Fault} {limit : Nat}
    (hf : s.fault = some fault) : s.checkedSize w limit = .error (.faulted fault) := by
  simp only [checkedSize, hf]

theorem encode_eq_ok_iff {w : ω} {s : Session β} {total : Nat} {bytes : Bytes} :
    s.encode w total = .ok bytes ↔
      s.position ≤ maxPayload ∧ ∃ payload, Backend.serialize w s.backend = .ok payload ∧
        headerSize + payload.length = total ∧ bytes =
          (Header.current (.ofNat s.position) (.ofNat payload.length)).encode ++ payload := by
  simp only [encode, Outcome.bind_eq_ok_iff, Outcome.guard_eq_ok_iff, Outcome.mapError_eq_ok_iff,
    Outcome.pure_eq, Outcome.ok.injEq, Classical.not_not, Nat.not_lt, gt_iff_lt]
  constructor
  · rintro ⟨hp, payload, hs, ht, rfl⟩
    rw [← ht, Nat.add_sub_cancel_left]
    exact ⟨hp, payload, hs, rfl, rfl⟩
  · rintro ⟨hp, payload, hs, rfl, rfl⟩
    refine ⟨hp, payload, hs, rfl, ?_⟩
    rw [Nat.add_sub_cancel_left]

/-- An export succeeds if the session is not faulted, the backend writes as many bytes as it reports
and these are within the bounds. -/
theorem snapshot_eq_ok_iff {w : ω} {s : Session β} {limit : Nat} {bytes : Bytes} :
    s.snapshot w limit = .ok bytes ↔
      s.fault = none ∧ s.position ≤ maxPayload ∧ bytes.length ≤ maxSize ∧ bytes.length ≤ limit ∧
        ∃ payload, Backend.serialize w s.backend = .ok payload ∧
          (∃ size, Backend.stateSize w s.backend = .ok size ∧ payload.length = size.toNat) ∧
            bytes =
              (Header.current (.ofNat s.position) (.ofNat payload.length)).encode ++ payload := by
  simp only [snapshot, Outcome.bind_eq_ok_iff, checkedSize_eq_ok_iff, snapshotSize_eq_ok_iff,
    encode_eq_ok_iff]
  constructor
  · rintro ⟨total, ⟨hf, ⟨⟨size, hsize, hn⟩, hs⟩, hl⟩, hp, payload, hpay, ht, rfl⟩
    have hlen : ∀ h : Header, (h.encode ++ payload).length = headerSize + payload.length :=
      fun h => by rw [List.length_append, Header.length_encode]
    rw [hlen]
    exact ⟨hf, hp, by omega, by omega, payload, hpay, ⟨size, hsize, by omega⟩, rfl⟩
  · rintro ⟨hf, hp, hs, hl, payload, hpay, ⟨size, hsize, hlen⟩, rfl⟩
    rw [List.length_append, Header.length_encode] at hs hl
    exact ⟨headerSize + payload.length, ⟨hf, ⟨⟨size, hsize, by omega⟩, hs⟩, hl⟩, hp, payload, hpay,
      rfl, rfl⟩

/-- An export shows the position and what the backend writes, and no more. -/
theorem snapshot_congr {s t : Session β} {w w' : ω} (hfault : s.fault = t.fault)
    (hposition : s.position = t.position)
    (hsize : Backend.stateSize w s.backend = Backend.stateSize w' t.backend)
    (hstate : Backend.serialize w s.backend = Backend.serialize w' t.backend) (limit : Nat) :
    s.snapshot w limit = t.snapshot w' limit := by
  simp only [snapshot, checkedSize, snapshotSize, encode, hfault, hposition, hsize, hstate]

/-- A buffer is written if the export succeeds and has room in it. -/
theorem snapshotInto_eq_ok_iff {w : ω} {s : Session β} {buffer out : Bytes} {limit total : Nat} :
    s.snapshotInto w buffer limit = (.ok total, out) ↔
      ∃ bytes, s.snapshot w limit = .ok bytes ∧ bytes.length = total ∧ total ≤ buffer.length ∧
        out = bytes ++ buffer.drop total := by
  unfold snapshotInto snapshot
  cases hc : s.checkedSize w limit with
  | error e | crash t => simp
  | ok size =>
    simp only [Outcome.ok_bind]
    by_cases hr : size > buffer.length
    · rw [if_pos hr]
      constructor
      · intro h
        cases h
      · rintro ⟨bytes, he, rfl, hroom, -⟩
        obtain ⟨-, payload, -, hsize, rfl⟩ := encode_eq_ok_iff.mp he
        rw [List.length_append, Header.length_encode] at hroom
        omega
    · rw [if_neg hr]
      cases he : s.encode w size with
      | error e | crash t => simp
      | ok bytes =>
        obtain ⟨-, payload, -, hsize, hb⟩ := encode_eq_ok_iff.mp he
        have hlen : bytes.length = size := by
          rw [hb, List.length_append, Header.length_encode, hsize]
        simp only [Prod.mk.injEq, Outcome.ok.injEq]
        constructor
        · rintro ⟨rfl, rfl⟩
          exact ⟨bytes, rfl, hlen, by omega, rfl⟩
        · rintro ⟨_, rfl, rfl, -, rfl⟩
          rw [hlen]
          exact ⟨rfl, rfl⟩

end Decoding.Session
