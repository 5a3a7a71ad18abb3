import Decoding.Boundary.Status
import Decoding.Host.Sessions

/-!
The boundary to callers that know only integers, buffers and strings that end at a NUL.
Sessions are raw numbers, counts are signed 32-bit integers, and a pointer may be null
(`none`). A call answers with a count or with a negative status, whose text it leaves
in the error slot; crashes end here and have the status of an internal error.
-/

namespace Decoding

structure Boundary (ω β : Type) where
  host : Host ω β
  /-- The text of the last error that has not been taken. -/
  lastError : Option String := none

namespace Boundary

variable {ω β α γ : Type}

/-- A text without NUL: a backslash and a zero take its place. -/
def escapeNul (text : String) : String :=
  .ofList (text.toList.flatMap fun c => if c = '\x00' then ['\\', '0'] else [c])

def setError (b : Boundary ω β) (text : String) : Boundary ω β :=
  { b with lastError := some (escapeNul text) }

/-- The text of the last error, which is then gone. -/
def takeError (b : Boundary ω β) : Option String × Boundary ω β :=
  (b.lastError, { b with lastError := none })

def fail (b : Boundary ω β) (e : SessionError) : Int × Boundary ω β :=
  (e.status.code, b.setError e.message)

/-- The text of a crash that ended at the boundary. -/
def crashText : String := "internal panic"

def contain (b : Boundary ω β) : Boundary ω β := b.setError crashText

/-- Answer with how a call ended. A count that is too large for an integer is an error. -/
def answer (b : Boundary ω β) : Outcome SessionError Nat → Int × Boundary ω β
  | .ok n =>
    if n ≤ Config.maxCount then (n, b) else b.fail (.limitExceeded n Config.maxCount)
  | .error e => b.fail e
  | .crash _ => (Status.internal.code, b.contain)

/-- A count that must not be negative, under the name that callers know it by. -/
def natural (argument : String) (n : Int32) : Except SessionError Nat :=
  if n.toInt < 0 then .error (.invalidArgument (.negative argument)) else .ok n.toInt.toNat

def tokenId (n : Int32) : Except SessionError UInt32 :=
  if n.toInt < 0 then .error (.invalidArgument (.negativeToken n)) else .ok n.toUInt32

/-- The text of a string that ends at its first NUL. -/
def readText (argument : String) (bytes : Bytes) : Except SessionError String :=
  (Text.Utf8.decode (bytes.takeWhile (· ≠ 0))).mapError fun fault =>
    .invalidArgument (.notUtf8 argument fault)

/-- Make a call on the session of a handle. -/
def withHandle (b : Boundary ω β) (handle : UInt64)
    (call : Session β → Outcome SessionError α × Session β) :
    Outcome SessionError α × Boundary ω β :=
  match SessionId.ofRaw? handle with
  | none => (.error (.invalidArgument .nullHandle), b)
  | some id =>
    let (outcome, host) := b.host.withSession id call
    (outcome, { b with host })

/-- Make a call that changes a session and answer with its count. -/
def change (b : Boundary ω β) (handle : UInt64)
    (call : Session β → Outcome SessionError Nat × Session β) : Int × Boundary ω β :=
  let (outcome, b) := b.withHandle handle call
  b.answer outcome

/-- Make a call that only looks at a session and answer with its count. -/
def look (b : Boundary ω β) (handle : UInt64) (call : Session β → Outcome SessionError Nat) :
    Int × Boundary ω β :=
  b.change handle fun s => (call s, s)

/-- Make a call that looks at a session and fills a buffer, and answer with its count. -/
def fill (b : Boundary ω β) (handle : UInt64) (buffer : List γ)
    (call : Session β → Outcome SessionError Nat × List γ) : Int × List γ × Boundary ω β :=
  -- The buffer belongs to the caller: what has been written stays in it even after a crash.
  let filled := (b.withHandle handle fun s => (.ok (call s).2, s)).1.toOption.getD buffer
  let (answer, b) := b.look handle fun s => (call s).1
  (answer, filled, b)

/-- Refuse a call that fills a buffer; the buffer stays as it is. -/
def refuse (b : Boundary ω β) (buffer : List γ) (e : SessionError) :
    Int × List γ × Boundary ω β :=
  let (answer, b) := b.fail e
  (answer, buffer, b)

variable [Device β]

/-- Create a session and answer with its handle, or with zero. -/
def init (w : ω) (b : Boundary ω β) (reference : Option Bytes) :
    UInt64 × Boundary ω β × List Host.Event :=
  match reference with
  | none => (0, b.setError (SessionError.invalidArgument (.null "model reference")).message, [])
  | some bytes =>
    match readText "model reference" bytes with
    | .error e => (0, b.setError e.message, [])
    | .ok text =>
      let (outcome, host, events) := b.host.create w text
      let b := { b with host }
      match outcome with
      | .ok id => (id.toRaw, b, events)
      | .error e => (0, b.setError e.message, events)
      | .crash _ => (0, b.contain, events)

/-- Destroy a session. A handle that stands for none is ignored. -/
def free (w : ω) (b : Boundary ω β) (handle : UInt64) : Boundary ω β × List Host.Event :=
  match SessionId.ofRaw? handle with
  | none => (b, [])
  | some id =>
    let (outcome, host, events) := b.host.destroy w id
    let b := { b with host }
    match outcome with
    | .ok _ => (b, events)
    | .crash _ => (b.contain, events)

omit [Device β] in
/-- Make a family known while it has no sessions. -/
def register (b : Boundary ω β) (family : Family ω β) :
    Except SessionError (Boundary ω β) :=
  (b.host.register family).map fun host => { b with host }

end Boundary

end Decoding
