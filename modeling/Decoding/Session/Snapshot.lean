import Decoding.Session.Basic

/-!
Snapshots of a session: a header and the state of the backend. Export checks every
size before it asks the backend for its state, and writes nothing unless it can write
all. Import is all or nothing: the state of the backend is saved first and put back if
the payload turns out to be bad; if that fails too, the session is faulted. The buffer
for the saved state has the size that the backend reports.
-/

namespace Decoding

namespace Snapshot

/-- The largest payload that a header can declare. -/
def maxPayload : Nat := 4294967295

/-- The largest snapshot, whose size must fit a signed 32-bit integer. -/
def maxSize : Nat := Config.maxCount

/-- The checks on a snapshot before its payload is looked at: it has a header, is within the
limit, is of this format and is as long as its header says. -/
def checkEnvelope (bytes : Bytes) (limit : Nat) : Except SessionError Header := do
  if bytes.length < headerSize then throw (.invalidArgument (.shortSnapshot bytes.length))
  if bytes.length > limit then throw (.limitExceeded bytes.length limit)
  let (header, _) ← (Header.decode (bytes.take headerSize)).mapError SessionError.ofHeader
  if header.totalSize ≠ bytes.length then
    throw (.corrupted (.payloadSize header.payloadSize.toNat (bytes.length - headerSize)))
  return header

end Snapshot

namespace Session

open Snapshot

variable {ω β : Type} [Device β] [Backend ω β]

/-- The size of the snapshot that an export would write now. -/
def snapshotSize (w : ω) (s : Session β) : Outcome SessionError Nat := do
  let reported ← (Backend.stateSize w s.backend).lift
  let payload := reported.toNat
  if payload > maxPayload then .error (.limitExceeded payload maxPayload)
  else if headerSize + payload > maxSize then
    .error (.limitExceeded (headerSize + payload) maxSize)
  else return headerSize + payload

/-- The size of a snapshot within the limit, of a session that is not faulted. -/
def checkedSize (w : ω) (s : Session β) (limit : Nat) : Outcome SessionError Nat :=
  match s.fault with
  | some fault => .error (.faulted fault)
  | none => do
    let total ← s.snapshotSize w
    if total > limit then .error (.limitExceeded total limit) else return total

/-- The snapshot, which must have the size that was announced. -/
def encode (w : ω) (s : Session β) (total : Nat) : Outcome SessionError Bytes :=
  if s.position > maxPayload then .error (.limitExceeded s.position maxPayload)
  else do
    let header := Header.current (.ofNat s.position) (.ofNat (total - headerSize))
    let payload ← (Backend.serialize w s.backend).mapError fun e => .internal (.serializing e)
    if headerSize + payload.length ≠ total then
      .error (.internal (.payloadSize (total - headerSize) payload.length))
    else return header.encode ++ payload

/-- A snapshot of at most `limit` bytes. -/
def snapshot (w : ω) (s : Session β) (limit : Nat) : Outcome SessionError Bytes := do
  let total ← s.checkedSize w limit
  s.encode w total

/-- Write a snapshot of at most `limit` bytes to the front of a buffer and give its size. -/
def snapshotInto (w : ω) (s : Session β) (buffer : Bytes) (limit : Nat) :
    Outcome SessionError Nat × Bytes :=
  match s.checkedSize w limit with
  | .error e => (.error e, buffer)
  | .crash t => (.crash t, buffer)
  | .ok total =>
    if total > buffer.length then (.error (.bufferTooSmall total buffer.length), buffer)
    else
      match s.encode w total with
      | .error e => (.error e, buffer)
      | .crash t => (.crash t, buffer)
      | .ok bytes => (.ok total, bytes ++ buffer.drop total)

/-- Put a payload into a backend, which must take all of it and then hold as many tokens as the
header says. -/
def takePayload (w : ω) (backend : β) (payload : Bytes) (position : Nat) :
    Outcome SessionError Unit × β :=
  match Backend.deserialize w backend payload with
  | (.crash t, backend) => (.crash t, backend)
  | (.error e, backend) => (.error (.corrupted (.backend e)), backend)
  | (.ok consumed, backend) =>
    let held := (Device.context backend).length
    if consumed ≠ payload.length then
      (.error (.corrupted (.leftover consumed payload.length)), backend)
    else if held ≠ position then (.error (.corrupted (.position held position)), backend)
    else (.ok (), backend)

/-- Put the former state back into the backend of a session whose import failed with `error`. -/
def putBack (w : ω) (s : Session β) (backup : Bytes) (error : SessionError) :
    Outcome SessionError Unit × Session β :=
  match Backend.deserialize w s.backend backup with
  | (.ok n, backend) =>
    (.error error,
      { s with backend, fault := if n = backup.length then s.fault else some .restoreShort })
  | (.error e, backend) => (.error error, { s with backend, fault := some (.restoreFailed e) })
  | (.crash t, backend) => (.crash t, { s with backend })

/-- The state of the backend, saved before an import. -/
def backup (w : ω) (s : Session β) : Outcome SessionError Bytes := do
  let reported ← (Backend.stateSize w s.backend).lift
  Buffer.make reported.toNat fun _ =>
    (Backend.serialize w s.backend).mapError fun e => .internal (.backup e)

/-- Replace the state of a session by that of a snapshot of at most `limit` bytes. -/
def restore (w : ω) (s : Session β) (bytes : Bytes) (limit : Nat) :
    Outcome SessionError Unit × Session β :=
  match checkEnvelope bytes limit with
  | .error e => (.error e, s)
  | .ok header =>
    match s.backup w with
    | .error e => (.error e, s)
    | .crash t => (.crash t, s)
    | .ok backup =>
      match takePayload w s.backend (bytes.drop headerSize) header.position.toNat with
      | (.ok (), backend) =>
        (.ok (),
          { backend
            position := header.position.toNat
            committed := Device.context backend
            staged := []
            fault := none })
      | (.error e, backend) => putBack w { s with backend } backup e
      | (.crash t, backend) => (.crash t, { s with backend })

end Session

end Decoding
