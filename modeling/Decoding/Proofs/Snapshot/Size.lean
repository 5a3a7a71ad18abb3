import Decoding.Proofs.Snapshot.Export
import Decoding.Simulation.Engine

/-!
The size of a snapshot before it is written. A session answers with the header and what the backend
reports, or that a limit has been exceeded, and it decides between the two by the reported sum. A
backend over an engine adds its parts up in 64 bits, so the sum may have wrapped before the session
sees it. The answer is right exactly where it has not, or where what is left of it is still too
large.
-/

namespace Decoding

open Snapshot

/-- The bytes of a payload over an engine, as a number without bounds: the context, the logits
behind their count, and the state that the engine reports behind its size. -/
def EngineBackend.payloadSize {ε : Type} (b : EngineBackend ε) (reported : UInt64) : Nat :=
  b.context.encode.length + (4 + (Score.toBytes b.logits).length) + 4 + reported.toNat

/-- A 64-bit machine reports what is left of the sum when it has wrapped. -/
theorem EngineBackend.exists_stateSize {ω ε : Type} [Engine ω ε] {w : ω} {b : EngineBackend ε}
    {reported : UInt64} (hr : Engine.stateSize w b.engine = .ok reported) :
    ∃ size, Backend.stateSize w b = .ok size ∧
      size.toNat = b.payloadSize reported % UInt64.size := by
  have hfour : (4 : UInt64).toNat = 4 := rfl
  refine ⟨_, congrArg (Outcome.map _) hr, ?_⟩
  simp only [payloadSize, UInt64.toNat_add, UInt64.toNat_ofNat', hfour, TokenContext.length_encode,
    Score.length_toBytes, UInt64.size]
  omega

theorem Stub.exists_stateSize {ω : Type} (w : ω) (b : Stub) :
    ∃ size, Backend.stateSize w b = .ok size ∧
      size.toNat = b.context.encode.length % UInt64.size := by
  refine ⟨_, rfl, ?_⟩
  rw [TokenContext.length_encode]
  exact UInt64.toNat_ofNat'

namespace Session

/-- How a size is to be answered: a size that a signed 32-bit integer holds with itself, and any
other with the limit that it exceeds. -/
inductive Announces (total : Nat) : Outcome SessionError Nat → Prop
  | counted (h : total ≤ maxSize) : Announces total (.ok total)
  | refused {size limit : Nat} (h : maxSize < total) (hlt : limit < size) :
    Announces total (.error (.limitExceeded size limit))

variable {ω β : Type} [Device β] [Backend ω β] {w : ω} {s : Session β} {payload total : Nat}
  {reported : UInt64}

theorem announces_ok_iff {n : Nat} : Announces total (.ok n) ↔ n = total ∧ total ≤ maxSize := by
  constructor
  · intro h
    cases h with
    | counted h => exact ⟨rfl, h⟩
  · rintro ⟨rfl, h⟩
    exact .counted h

/-- What is reported is answered as it is to be, over any backend. -/
theorem announces_reported (hr : Backend.stateSize w s.backend = .ok reported) :
    Announces (headerSize + reported.toNat) (s.snapshotSize w) := by
  by_cases h : headerSize + reported.toNat ≤ maxSize
  · rw [snapshotSize_eq_ok_iff.mpr ⟨⟨reported, hr, rfl⟩, h⟩]
    exact .counted h
  · obtain ⟨size, limit, hlt, hsize⟩ := snapshotSize_of_large hr (Nat.lt_of_not_le h)
    rw [hsize]
    exact .refused (Nat.lt_of_not_le h) hlt

/-- What is left of a sum in 64 bits is answered as if it were the sum. -/
theorem snapshotSize_of_reported (hr : Backend.stateSize w s.backend = .ok reported)
    (hreported : reported.toNat = payload % UInt64.size) (n : Nat) :
    s.snapshotSize w = .ok n ↔ n = headerSize + payload % UInt64.size ∧ n ≤ maxSize := by
  simp only [snapshotSize_eq_ok_iff, hr, Outcome.ok.injEq, exists_eq_left', hreported]

/-- If the reported size is a sum in 64 bits, the sum itself is answered as it is to be unless it
has wrapped and come out small. -/
theorem announces_iff (hr : Backend.stateSize w s.backend = .ok reported)
    (hreported : reported.toNat = payload % UInt64.size) :
    Announces (headerSize + payload) (s.snapshotSize w) ↔
      payload < UInt64.size ∨ maxSize < headerSize + payload % UInt64.size := by
  have hmax : maxSize < UInt64.size := by decide
  by_cases hwrapped : payload < UInt64.size
  · have hexact := announces_reported hr
    rw [hreported, Nat.mod_eq_of_lt hwrapped] at hexact
    exact iff_of_true hexact (.inl hwrapped)
  · have htotal : maxSize < headerSize + payload := by omega
    by_cases hlarge : maxSize < headerSize + payload % UInt64.size
    · obtain ⟨size, limit, hlt, hsize⟩ := snapshotSize_of_large hr (hreported ▸ hlarge)
      rw [hsize]
      exact iff_of_true (.refused htotal hlt) (.inr hlarge)
    · have hsize := (snapshotSize_of_reported hr hreported _).mpr ⟨rfl, Nat.le_of_not_lt hlarge⟩
      rw [hsize, announces_ok_iff]
      exact iff_of_false (fun h => absurd h.2 (Nat.not_le.mpr htotal)) (by omega)

end Session

open Session

/-- Over every backend the size that is reported is announced with the header, or it is refused for
the limit that it exceeds, and there is no third answer unless the backend crashes. What a stub or a
backend over an engine reports is the sum of its parts in 64 bits, whatever 64-bit size the engine
reports of itself. So the sum is announced or refused as it is to be if and only if it is a 64-bit
number, or what is left of it is too large as well. What is left of it is announced as if it were
the sum. -/
theorem sizes_announced {ω : Type} (w : ω) :
    (∀ (β : Type) [Device β] [Backend ω β] (s : Session β),
      (∀ reported, Backend.stateSize w s.backend = .ok reported →
        Announces (16 + reported.toNat) (s.snapshotSize w)) ∧
      ∀ text, Backend.stateSize w s.backend = .crash text → s.snapshotSize w = .crash text) ∧
    (∀ s : Session Stub,
      let payload := s.backend.context.encode.length
      (Announces (16 + payload) (s.snapshotSize w) ↔
        payload < 18446744073709551616 ∨ 2147483647 < 16 + payload % 18446744073709551616) ∧
      ∀ n, s.snapshotSize w = .ok n ↔
        n = 16 + payload % 18446744073709551616 ∧ n ≤ 2147483647) ∧
    ∀ (ε : Type) [Engine ω ε] (s : Session (EngineBackend ε)) (reported : UInt64),
      Engine.stateSize w s.backend.engine = .ok reported →
      let payload := s.backend.payloadSize reported
      (Announces (16 + payload) (s.snapshotSize w) ↔
        payload < 18446744073709551616 ∨ 2147483647 < 16 + payload % 18446744073709551616) ∧
      ∀ n, s.snapshotSize w = .ok n ↔
        n = 16 + payload % 18446744073709551616 ∧ n ≤ 2147483647 := by
  refine ⟨fun β _ _ s => ⟨fun reported => announces_reported, fun text ht => ?_⟩, fun s => ?_,
    fun ε _ s reported hengine => ?_⟩
  · exact snapshotSize_eq_crash_iff.mpr ht
  · obtain ⟨size, hr, hreported⟩ := s.backend.exists_stateSize w
    exact ⟨announces_iff hr hreported, snapshotSize_of_reported hr hreported⟩
  · obtain ⟨size, hr, hreported⟩ := EngineBackend.exists_stateSize hengine
    exact ⟨announces_iff hr hreported, snapshotSize_of_reported hr hreported⟩

/-- An engine that reports four bytes less than 2^64 makes the sum wrap: a fresh session
announces a snapshot of 24 bytes. -/
theorem wrapped_size_announced :
    let w : Simulation.World := { switches := { stateSize := some 18446744073709551612 } }
    let s : Session (EngineBackend Simulation.Engine) := .fresh (.fresh ⟨[], 4⟩ 8)
    let reported : UInt64 := 18446744073709551612
    Engine.stateSize w s.backend.engine = .ok reported ∧
      s.backend.payloadSize reported = 18446744073709551624 ∧ s.snapshotSize w = .ok 24 ∧
        ¬ Announces (16 + s.backend.payloadSize reported) (s.snapshotSize w) := by
  intro w s reported
  have hpayload : s.backend.payloadSize reported = 18446744073709551624 := by decide
  have hsize : s.snapshotSize w = .ok 24 := by decide
  refine ⟨rfl, hpayload, hsize, ?_⟩
  rw [hpayload, hsize, announces_ok_iff]
  intro h
  exact absurd h.1 (by decide)

end Decoding
