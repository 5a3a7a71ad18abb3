import Decoding.Backend.Error
import Decoding.Score

/-!
Reading the fields of a state payload: a word, a run of words, a stretch of bytes.
Every reader takes its field off the front and returns the bytes behind it. A run is
checked against the bytes there are before any of it is read, so its length, which
comes from the payload, is never trusted.
-/

namespace Decoding.Payload

/-- The largest size that a 64-bit machine can express. -/
def maxSize : Nat := UInt64.size - 1

def takeWord (bs : Bytes) : Except BackendError (UInt32 × Bytes) :=
  match Bytes.takeWord bs with
  | some r => .ok r
  | none => .error (.truncated 4)

/-- Take `n` bytes. A short read is reported by the size of the whole field. -/
def takeBytes (n : Nat) (bs : Bytes) : Except BackendError (Bytes × Bytes) :=
  if n ≤ bs.length then .ok (bs.take n, bs.drop n) else .error (.truncated n)

/-- Check that `n` words can follow. Their size stops at `maxSize`, which no byte string has. -/
def checkRun (n : Nat) (bs : Bytes) : Except BackendError Unit :=
  let wanted := min (4 * n) maxSize
  if wanted > bs.length then .error (.truncated (wanted - bs.length)) else .ok ()

/-- Take `n` words one by one. -/
def takeWords : Nat → Bytes → Except BackendError (List UInt32 × Bytes)
  | 0, bs => .ok ([], bs)
  | n + 1, bs => do
    let (w, rest) ← takeWord bs
    let (ws, rest) ← takeWords n rest
    return (w :: ws, rest)

/-- Take a run of `n` words after checking that it is there. -/
def takeRun (n : Nat) (bs : Bytes) : Except BackendError (List UInt32 × Bytes) := do
  checkRun n bs
  takeWords n bs

def takeScores (n : Nat) (bs : Bytes) : Except BackendError (List Score × Bytes) :=
  (takeRun n bs).map fun r => (r.1.map Score.mk, r.2)

@[simp] theorem takeWord_ofWord_append (w : UInt32) (rest : Bytes) :
    takeWord (Bytes.ofWord w ++ rest) = .ok (w, rest) := by
  simp [takeWord]

theorem takeWord_eq_ok_iff {bs rest : Bytes} {w : UInt32} :
    takeWord bs = .ok (w, rest) ↔ bs = Bytes.ofWord w ++ rest := by
  rw [← Bytes.takeWord_eq_some_iff, takeWord]
  cases Bytes.takeWord bs <;> simp

theorem takeWords_ofWords_append (ws : List UInt32) (rest : Bytes) :
    takeWords ws.length (Bytes.ofWords ws ++ rest) = .ok (ws, rest) := by
  induction ws with
  | nil => rfl
  | cons w ws ih =>
    simp only [Bytes.ofWords, List.flatMap_cons, List.append_assoc, List.length_cons, takeWords,
      takeWord_ofWord_append, bind, Except.bind, pure, Except.pure] at *
    rw [ih]

/-- A run of words that was read is the bytes of these words. -/
theorem takeWords_eq_ok_iff {n : Nat} {bs rest : Bytes} {ws : List UInt32} :
    takeWords n bs = .ok (ws, rest) ↔ ws.length = n ∧ bs = Bytes.ofWords ws ++ rest := by
  constructor
  · intro h
    induction n generalizing bs ws with
    | zero =>
      cases h
      exact ⟨rfl, rfl⟩
    | succ n ih =>
      rw [takeWords] at h
      cases hw : takeWord bs with
      | error e => rw [hw] at h; cases h
      | ok p =>
        obtain ⟨w, more⟩ := p
        rw [hw] at h
        change (takeWords n more >>= fun q => pure (w :: q.1, q.2)) = _ at h
        cases hr : takeWords n more with
        | error e => rw [hr] at h; cases h
        | ok q =>
          rw [hr] at h
          cases h
          obtain ⟨hlen, hmore⟩ := ih hr
          refine ⟨congrArg (· + 1) hlen, ?_⟩
          rw [takeWord_eq_ok_iff.mp hw, hmore]
          exact (List.append_assoc ..).symm
  · rintro ⟨rfl, rfl⟩
    exact takeWords_ofWords_append ws rest

theorem checkRun_of_le {n : Nat} {bs : Bytes} (h : 4 * n ≤ bs.length) : checkRun n bs = .ok () := by
  rw [checkRun, if_neg (by omega)]

theorem takeRun_ofWords_append (ws : List UInt32) (rest : Bytes) :
    takeRun ws.length (Bytes.ofWords ws ++ rest) = .ok (ws, rest) := by
  rw [takeRun, checkRun_of_le (by simp), ← takeWords_ofWords_append ws rest]
  rfl

end Decoding.Payload
