import Decoding.Boundary.Calls
import Decoding.Session.Call

/-!
The requests to a boundary as data. A request creates or frees a session, makes a call with a
handle, takes the text of the last error or registers a family. `Boundary.serve` answers one
request, and `Boundary.run` answers a sequence of them, together with everything that happened to
families and backends on the way.
-/

namespace Decoding.Boundary

/-- A call with a handle, by its other arguments. Buffers are given as they are before the call. -/
inductive Call where
  | eval (tokens : Option (List Int32)) (count : Int32)
  | scores (buffer : Option (List Score)) (count : Int32)
  | rollback (steps : Int32)
  | snapshotSize
  | snapshot (buffer : Option Bytes) (capacity limit : Int32)
  | restore (bytes : Option Bytes) (size limit : Int32)
  | tokenize (text : Option Bytes) (buffer : Option (List Int32)) (limit : Int32)
  | piece (token : Int32) (buffer : Option Bytes) (capacity : Int32)
  | memory
  deriving DecidableEq, Repr

/-- The buffer that a caller gave to be filled. -/
inductive Output where
  | none
  | scores (buffer : List Score)
  | bytes (buffer : Bytes)
  | tokens (buffer : List Int32)
  deriving DecidableEq, Repr

inductive Request (ω β : Type) where
  | init (reference : Option Bytes)
  | free (handle : UInt64)
  | call (handle : UInt64) (call : Call)
  | takeError
  | register (family : Family ω β)

inductive Reply where
  /-- The handle of a new session, or zero. -/
  | handle (raw : UInt64)
  | done
  /-- The answer to a call, and the caller's buffer after it. -/
  | answer (answer : Int) (output : Output)
  | text (text : Option String)
  | registered (result : Except SessionError Unit)

variable {ω β : Type} [Device β] [Backend ω β]

/-- Make a call with a handle. -/
def perform (w : ω) (b : Boundary ω β) (handle : UInt64) : Call → Int × Output × Boundary ω β
  | .eval tokens count =>
    let (answer, b) := b.eval w handle tokens count
    (answer, .none, b)
  | .scores buffer count =>
    let (answer, buffer, b) := b.scores w handle buffer count
    (answer, .scores buffer, b)
  | .rollback steps =>
    let (answer, b) := b.rollback w handle steps
    (answer, .none, b)
  | .snapshotSize =>
    let (answer, b) := b.snapshotSize w handle
    (answer, .none, b)
  | .snapshot buffer capacity limit =>
    let (answer, buffer, b) := b.snapshot w handle buffer capacity limit
    (answer, .bytes buffer, b)
  | .restore bytes size limit =>
    let (answer, b) := b.restore w handle bytes size limit
    (answer, .none, b)
  | .tokenize text buffer limit =>
    let (answer, buffer, b) := b.tokenize w handle text buffer limit
    (answer, .tokens buffer, b)
  | .piece token buffer capacity =>
    let (answer, buffer, b) := b.piece w handle token buffer capacity
    (answer, .bytes buffer, b)
  | .memory =>
    let (answer, b) := b.memory w handle
    (answer, .none, b)

/-- Answer one request. -/
def serve (w : ω) (b : Boundary ω β) :
    Request ω β → Reply × Boundary ω β × List Host.Event
  | .init reference =>
    let (raw, b, events) := b.init w reference
    (.handle raw, b, events)
  | .free handle =>
    let (b, events) := b.free w handle
    (.done, b, events)
  | .call handle call =>
    let (answer, output, b) := b.perform w handle call
    (.answer answer output, b, [])
  | .takeError =>
    let (text, b) := b.takeError
    (.text text, b, [])
  | .register family =>
    match b.register family with
    | .ok b => (.registered (.ok ()), b, [])
    | .error e => (.registered (.error e), b, [])

/-- Answer requests one after another, each in its world. -/
def run (b : Boundary ω β) :
    List (ω × Request ω β) → List Reply × Boundary ω β × List Host.Event
  | [] => ([], b, [])
  | (w, request) :: rest =>
    let (reply, b, events) := b.serve w request
    let (replies, b, later) := run b rest
    (reply :: replies, b, events ++ later)

end Decoding.Boundary
