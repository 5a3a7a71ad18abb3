import Decoding.Proofs.Backend.Contract
import Decoding.Proofs.Session.Transitions
import Decoding.Proofs.Snapshot.Envelope

/-!
What sessions count. A step that succeeds counts the tokens it was given, a rollback those it has
undone, and a call that fills a buffer the entries it has written.
-/

namespace Decoding.Session

/-- The count that a reply of a session is. To have restored a state counts for nothing. -/
def Reply.count? : Session.Reply → Option Nat
  | .count n => some n
  | .done => some 0
  | .scoreBuffer (.ok n) _ | .byteBuffer (.ok n) _ => some n
  | _ => none

theorem Reply.count?_scoreBuffer {result : Except SessionError Nat} {front : List Score} {n : Nat} :
    (scoreBuffer result front).count? = some n ↔ result = .ok n := by
  cases result <;> simp [count?]

theorem Reply.count?_byteBuffer {result : Except SessionError Nat} {front : Bytes} {n : Nat} :
    (byteBuffer result front).count? = some n ↔ result = .ok n := by
  cases result <;> simp [count?]

variable {ω β : Type} [Device β] [Backend ω β] {w : ω} {s : Session β} {n : Nat}

theorem step_count {tokens : List UInt32} (h : (s.step w tokens).1 = .ok n) :
    n = tokens.length := by
  have hs := s.step_stepped w tokens
  generalize s.step w tokens = r at h hs
  cases hs with
  | idle hf ht =>
    cases h
    rw [ht]
    rfl
  | advanced hf ht he =>
    cases h
    rfl
  | refused | failed | crashed => cases h

theorem rollback_count {steps : Nat} (h : (s.rollback w steps).1 = .ok n) :
    n = min steps s.position := by
  have hr := s.rollback_rolledBack w steps
  generalize s.rollback w steps = r at h hr
  cases hr with
  | idle hf hu =>
    cases h
    exact hu.symm
  | evicted ha he =>
    cases h
    rfl
  | failed | crashed => cases h

/-- The ways the filling of a buffer with scores can end. Only a refusal is sure to leave the buffer
as it was. -/
inductive Peeked (buffer : List Score) : Outcome SessionError Nat × List Score → Prop
  | refused {e : SessionError} : Peeked buffer (.error e, buffer)
  | filled {front : List Score} (hl : front.length = buffer.length) :
    Peeked buffer (.ok buffer.length, front)
  | crashed {t : String} {front : List Score} (hl : front.length = buffer.length) :
    Peeked buffer (.crash t, front)

theorem peekInto_peeked (w : ω) (s : Session β) (buffer : List Score) :
    Peeked buffer (s.peekInto w buffer) := by
  unfold peekInto
  split
  · exact .refused
  · split
    · exact .refused
    · split
      · exact .filled (length_overlay ..)
      · exact .crashed (length_written ..)

theorem peekInto_count {buffer : List Score} (h : (s.peekInto w buffer).1 = .ok n) :
    n = buffer.length := by
  have hp := s.peekInto_peeked w buffer
  generalize s.peekInto w buffer = r at h hp
  cases hp with
  | filled =>
    cases h
    rfl
  | refused | crashed => cases h

theorem snapshotInto_count {buffer : Bytes} {limit : Nat}
    (h : (s.snapshotInto w buffer limit).1 = .ok n) : n ≤ Snapshot.maxSize := by
  obtain ⟨bytes, hbytes, rfl, -⟩ := snapshotInto_eq_ok_iff.mp (Prod.ext h rfl)
  exact (snapshot_eq_ok_iff.mp hbytes).2.2.1

end Decoding.Session
