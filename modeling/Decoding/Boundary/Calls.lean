import Decoding.Boundary.Basic
import Decoding.Session.Snapshot

/-!
The calls on sessions across the boundary. Pointers and signs are checked before the
handle is looked at. Buffers are given as they are before a call and come back as they
are after it.
-/

namespace Decoding.Boundary

variable {ω β : Type} [Device β] [Backend ω β]

/-- The first `count` tokens at a pointer. -/
def readTokens (tokens : Option (List Int32)) (count : Int32) :
    Except SessionError (List UInt32) :=
  match tokens with
  | none => .error (.invalidArgument (.null "tokens"))
  | some tokens => do
    let n ← natural "num_tokens" count
    (tokens.take n).mapM tokenId

def eval (w : ω) (b : Boundary ω β) (handle : UInt64) (tokens : Option (List Int32))
    (count : Int32) : Int × Boundary ω β :=
  match readTokens tokens count with
  | .error e => b.fail e
  | .ok tokens => b.change handle fun s => s.step w tokens

/-- Write the scores to the first `count` entries of a buffer. -/
def scores (w : ω) (b : Boundary ω β) (handle : UInt64) (buffer : Option (List Score))
    (count : Int32) : Int × List Score × Boundary ω β :=
  match buffer with
  | none => b.refuse [] (.invalidArgument .scoreBuffer)
  | some buffer =>
    if count.toInt ≤ 0 then b.refuse buffer (.invalidArgument .scoreBuffer)
    else
      let n := count.toInt.toNat
      b.fill handle buffer fun s =>
        let (result, front) := s.peekInto w (buffer.take n)
        (result, front ++ buffer.drop n)

def rollback (w : ω) (b : Boundary ω β) (handle : UInt64) (steps : Int32) :
    Int × Boundary ω β :=
  match natural "steps" steps with
  | .error e => b.fail e
  | .ok steps => b.change handle fun s => s.rollback w steps

def snapshotSize (w : ω) (b : Boundary ω β) (handle : UInt64) : Int × Boundary ω β :=
  b.look handle fun s => s.snapshotSize w

/-- Write a snapshot to the first `capacity` bytes of a buffer. -/
def snapshot (w : ω) (b : Boundary ω β) (handle : UInt64) (buffer : Option Bytes)
    (capacity limit : Int32) : Int × Bytes × Boundary ω β :=
  match buffer with
  | none => b.refuse [] (.invalidArgument (.null "out_buffer"))
  | some buffer =>
    match natural "out_buffer_size" capacity, natural "max_snapshot_bytes" limit with
    | .error e, _ | .ok _, .error e => b.refuse buffer e
    | .ok capacity, .ok limit =>
      b.fill handle buffer fun s =>
        let (result, front) := s.snapshotInto w (buffer.take capacity) limit
        (result, front ++ buffer.drop capacity)

/-- Replace a session's state by that of the snapshot in the first `size` bytes of a buffer. -/
def restore (w : ω) (b : Boundary ω β) (handle : UInt64) (bytes : Option Bytes)
    (size limit : Int32) : Int × Boundary ω β :=
  match bytes with
  | none => b.fail (.invalidArgument (.null "snapshot_data"))
  | some bytes =>
    match natural "snapshot_size" size, natural "max_snapshot_bytes" limit with
    | .error e, _ | .ok _, .error e => b.fail e
    | .ok size, .ok limit =>
      b.change handle fun s =>
        (s.restore w (bytes.take size) limit).map (Outcome.map fun _ => 0) id

/-- Write token ids to the front of a buffer one by one, up to the first that is too large for
an integer. -/
def storeTokens : List UInt32 → List Int32 → Except SessionError Unit × List Int32
  | [], buffer => (.ok (), buffer)
  | _ :: _, [] => (.ok (), [])
  | id :: ids, slot :: buffer =>
    if id.toNat > Config.maxCount then
      (.error (.internal (.tokenOverflow id)), slot :: buffer)
    else
      let (result, buffer) := storeTokens ids buffer
      (result, id.toInt32 :: buffer)

/-- Write the tokens of a text, at most `limit` of them, to a buffer. -/
def tokenize (w : ω) (b : Boundary ω β) (handle : UInt64) (text : Option Bytes)
    (buffer : Option (List Int32)) (limit : Int32) : Int × List Int32 × Boundary ω β :=
  match text, buffer with
  | none, buffer => b.refuse (buffer.getD []) (.invalidArgument .nullText)
  | some _, none => b.refuse [] (.invalidArgument .nullText)
  | some bytes, some buffer =>
    match natural "max_tokens" limit, readText "text" bytes with
    | .error e, _ | .ok _, .error e => b.refuse buffer e
    | .ok limit, .ok text =>
      b.fill handle buffer fun s =>
        match s.tokenize w text with
        | .error e => (.error e, buffer)
        | .crash t => (.crash t, buffer)
        | .ok ids =>
          if ids.length > limit then (.error (.bufferTooSmall ids.length limit), buffer)
          else
            let (result, buffer) := storeTokens ids buffer
            ((Outcome.ofExcept result).map fun _ => ids.length, buffer)

/-- Write the bytes that a token stands for, at most `capacity` of them, to a buffer. -/
def piece (w : ω) (b : Boundary ω β) (handle : UInt64) (token : Int32) (buffer : Option Bytes)
    (capacity : Int32) : Int × Bytes × Boundary ω β :=
  match buffer with
  | none => b.refuse [] (.invalidArgument (.null "out_buffer"))
  | some buffer =>
    match tokenId token, natural "buffer_size" capacity with
    | .error e, _ | .ok _, .error e => b.refuse buffer e
    | .ok token, .ok capacity =>
      b.fill handle buffer fun s =>
        match s.piece w token with
        | .error e => (.error e, buffer)
        | .crash t => (.crash t, buffer)
        | .ok piece =>
          if piece.length > capacity then (.error (.bufferTooSmall piece.length capacity), buffer)
          else (.ok piece.length, piece ++ buffer.drop piece.length)

/-- The device memory of a session in MiB. -/
def memory (w : ω) (b : Boundary ω β) (handle : UInt64) : Int × Boundary ω β :=
  b.look handle fun s => s.memory w

/-- The size of a snapshot's header. -/
def headerSize : Int := Snapshot.headerSize

end Decoding.Boundary
