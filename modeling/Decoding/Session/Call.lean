import Decoding.Session.Snapshot

/-!
The calls of a session as data, for callers that keep, send or replay them.
`Session.perform` makes one call and `Session.run` a sequence of calls, each in a world
of its own.
-/

namespace Decoding.Session

inductive Call where
  | step (tokens : List UInt32)
  | peek (count : Nat)
  | peekInto (buffer : List Score)
  | rollback (steps : Nat)
  | snapshotSize
  | snapshot (limit : Nat)
  | snapshotInto (buffer : Bytes) (limit : Nat)
  | restore (bytes : Bytes) (limit : Nat)
  | tokenize (text : String)
  | piece (token : UInt32)
  | memory
  | name
  | describe
  | idle
  /-- The caller itself crashes while it holds the session. -/
  | crash (text : String)
  deriving DecidableEq, Repr

inductive Reply where
  | done
  | count (n : Nat)
  | scores (scores : List Score)
  | bytes (bytes : Bytes)
  | tokens (tokens : List UInt32)
  | text (text : String)
  /-- How filling a buffer of scores ended, and the buffer after it. -/
  | scoreBuffer (result : Except SessionError Nat) (buffer : List Score)
  /-- How filling a buffer of bytes ended, and the buffer after it. -/
  | byteBuffer (result : Except SessionError Nat) (buffer : Bytes)

variable {ω β : Type} [Device β] [Backend ω β]

/-- Make one call. -/
def perform (w : ω) (s : Session β) : Call → Outcome SessionError Reply × Session β
  | .step tokens => (s.step w tokens).map (Outcome.map .count) id
  | .peek count => ((s.peek w count).map .scores, s)
  | .peekInto buffer =>
    let (result, buffer) := s.peekInto w buffer
    (result.attempt.map fun result => .scoreBuffer result buffer, s)
  | .rollback steps => (s.rollback w steps).map (Outcome.map .count) id
  | .snapshotSize => ((s.snapshotSize w).map .count, s)
  | .snapshot limit => ((s.snapshot w limit).map .bytes, s)
  | .snapshotInto buffer limit =>
    let (result, buffer) := s.snapshotInto w buffer limit
    (result.attempt.map fun result => .byteBuffer result buffer, s)
  | .restore bytes limit => (s.restore w bytes limit).map (Outcome.map fun _ => .done) id
  | .tokenize text => ((s.tokenize w text).map .tokens, s)
  | .piece token => ((s.piece w token).map .bytes, s)
  | .memory => ((s.memory w).map .count, s)
  | .name => (.ok (.text s.backendName), s)
  | .describe => (.ok (.text s.describe), s)
  | .idle => (.ok .done, s)
  | .crash text => (.crash text, s)

/-- Make calls one after another, each in its world, and collect how they end. -/
def run (s : Session β) : List (ω × Call) → List (Outcome SessionError Reply) × Session β
  | [] => ([], s)
  | (w, call) :: rest =>
    let (outcome, s) := s.perform w call
    let (outcomes, s) := run s rest
    (outcome :: outcomes, s)

end Decoding.Session
