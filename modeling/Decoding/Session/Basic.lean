import Decoding.Backend.Basic
import Decoding.Buffer
import Decoding.Session.Error

/-!
Sessions. A session drives one backend and keeps the token history in step with it:
`step` adds tokens, `rollback` takes them back, `peek` looks at the scores. When the
cache of the backend may hold positions that are not in the history, the session is
faulted and refuses to go on until a rollback has evicted them.
-/

namespace Decoding

structure Session (β : Type) where
  backend : β
  /-- The number of committed tokens. -/
  position : Nat := 0
  committed : List UInt32 := []
  /-- The tokens of the last step. -/
  staged : List UInt32 := []
  fault : Option Session.Fault := none

namespace Session

variable {ω β : Type} [Device β] [Backend ω β]

/-- A session over a backend with an empty context. -/
def fresh (backend : β) : Session β := { backend }

def backendName (s : Session β) : String := Device.name s.backend

/-- Advance by some tokens. No tokens are no step. If the backend could not clean up after a
failure, the session is faulted; otherwise a failed step leaves no trace. -/
def step (w : ω) (s : Session β) (tokens : List UInt32) :
    Outcome SessionError Nat × Session β :=
  match s.fault with
  | some fault => (.error (.faulted fault), s)
  | none =>
    if tokens = [] then (.ok 0, s)
    else
      match Backend.evaluate w s.backend s.position tokens with
      | (.ok (), backend) =>
        (.ok tokens.length,
          { backend
            position := s.position + tokens.length
            committed := s.committed ++ tokens
            staged := tokens
            fault := none })
      | (.error e, backend) =>
        (.error (.evaluation e),
          { s with backend, fault := if e.leavesCacheDirty then some (.staleCache e) else none })
      | (.crash t, backend) => (.crash t, { s with backend })

/-- Undo up to `steps` of the last tokens and give the number undone. The history is shortened
whatever happens; the backend evicts what was undone, and a faulted session retries the eviction
even if nothing is. -/
def rollback (w : ω) (s : Session β) (steps : Nat) : Outcome SessionError Nat × Session β :=
  let undone := min steps s.position
  let position := s.position - undone
  let s := { s with position, committed := s.committed.take position, staged := [] }
  if undone = 0 ∧ s.fault = none then (.ok 0, s)
  else
    match Backend.evict w s.backend position with
    | (.ok (), backend) => (.ok undone, { s with backend, fault := none })
    | (.error e, backend) => (.error (.eviction e), { s with backend, fault := some (.staleCache e) })
    | (.crash t, backend) => (.crash t, { s with backend })

/-- A buffer after scores were written to its front. -/
def written (scores buffer : List Score) : List Score :=
  scores.take buffer.length ++ buffer.drop scores.length

/-- A buffer after scores were written to its front, with zeros from entry `reported` on. -/
def overlay (scores : List Score) (reported : Nat) (buffer : List Score) : List Score :=
  (written scores buffer).take reported ++ List.replicate (buffer.length - reported) .zero

@[simp] theorem length_written (scores buffer : List Score) :
    (written scores buffer).length = buffer.length := by
  simp only [written, List.length_append, List.length_take, List.length_drop]
  omega

@[simp] theorem length_overlay (scores : List Score) (reported : Nat) (buffer : List Score) :
    (overlay scores reported buffer).length = buffer.length := by
  simp only [overlay, List.length_append, List.length_take, length_written, List.length_replicate]
  omega

/-- Fill a buffer with the scores, zeros behind them, and give its size. A crash leaves what has been
written by then. -/
def peekInto (w : ω) (s : Session β) (buffer : List Score) :
    Outcome SessionError Nat × List Score :=
  if buffer = [] then (.error (.invalidArgument .emptyScoreBuffer), buffer)
  else
    match s.fault with
    | some fault => (.error (.faulted fault), buffer)
    | none =>
      match Backend.scores w s.backend buffer with
      | (.ok reported, scores) => (.ok buffer.length, overlay scores reported buffer)
      | (.crash t, scores) => (.crash t, written scores buffer)

/-- The first `count` scores in a buffer of their own, zeros where the backend has none. -/
def peek (w : ω) (s : Session β) (count : Nat) : Outcome SessionError (List Score) :=
  if count = 0 then .error (.invalidArgument .zeroScores)
  else Buffer.make (Score.size * count) fun _ =>
    let (result, scores) := s.peekInto w (List.replicate count .zero)
    result.map fun _ => scores

def tokenize (w : ω) (s : Session β) (text : String) : Outcome SessionError (List UInt32) :=
  (Backend.tokenize w s.backend text).mapError fun e => .invalidArgument (.conversion e)

/-- The bytes of text that a token stands for. -/
def piece (w : ω) (s : Session β) (token : UInt32) : Outcome SessionError Bytes :=
  (Backend.piece w s.backend token).mapError fun e => .invalidArgument (.conversion e)

/-- The device memory in use, in MiB. -/
def memory (w : ω) (s : Session β) : Outcome SessionError Nat := (Backend.memory w s.backend).lift

/-- A one-line account of a session. -/
def describe (s : Session β) : String :=
  let fault := match s.fault with
    | none => "None"
    | some fault => "Some(" ++ Text.quoted fault.message ++ ")"
  "Session \x7b backend: " ++ Text.quoted s.backendName ++
    ", position: " ++ toString s.position ++ ", staged: " ++ toString s.staged.length ++
    ", fault: " ++ fault ++ " \x7d"

end Session

end Decoding
