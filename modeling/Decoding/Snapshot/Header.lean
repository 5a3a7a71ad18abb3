import Decoding.Bytes
import Decoding.Outcome

/-!
The header of a snapshot: the letters SHKV and three words, the format version, the
session's position and the size of the payload behind the header. A magic or version
that does not fit is reported even where the header is cut off after it.
-/

namespace Decoding

/-- How bytes can fail to be a snapshot of this format. -/
inductive FormatMismatch where
  | magic (found : Bytes)
  | version (found : UInt32)
  deriving DecidableEq, Repr

namespace Snapshot

def magic : Bytes := [0x53, 0x48, 0x4b, 0x56]

/-- The only version there is. -/
def formatVersion : UInt32 := 1

def headerSize : Nat := 16

/-- The limit for callers that have no stricter one. -/
def defaultLimit : Nat := 64 * 1024 * 1024

end Snapshot

def FormatMismatch.message : FormatMismatch → String
  | .magic found =>
    "expected magic " ++ Bytes.describe Snapshot.magic ++ ", got " ++ Bytes.describe found
  | .version found =>
    s!"unsupported snapshot version {found.toNat} (expected {Snapshot.formatVersion.toNat})"

namespace Snapshot

structure Header where
  version : UInt32
  position : UInt32
  payloadSize : UInt32
  deriving DecidableEq, Repr

namespace Header

/-- Why no header could be read. -/
inductive Fault where
  | mismatch (cause : FormatMismatch)
  | short
  deriving DecidableEq, Repr

/-- A header of the present version. -/
def current (position payloadSize : UInt32) : Header := ⟨formatVersion, position, payloadSize⟩

def encode (h : Header) : Bytes :=
  magic ++ Bytes.ofWord h.version ++ Bytes.ofWord h.position ++ Bytes.ofWord h.payloadSize

/-- The size of the header and its payload. -/
def totalSize (h : Header) : Nat := headerSize + h.payloadSize.toNat

def takeWord (bs : Bytes) : Except Fault (UInt32 × Bytes) :=
  match Bytes.takeWord bs with
  | some r => .ok r
  | none => .error .short

/-- Read a header and leave the bytes behind it. -/
def decode (bs : Bytes) : Except Fault (Header × Bytes) := do
  if bs.length < 4 then throw .short
  if bs.take 4 ≠ magic then throw (.mismatch (.magic (bs.take 4)))
  let (version, rest) ← takeWord (bs.drop 4)
  if version ≠ formatVersion then throw (.mismatch (.version version))
  let (position, rest) ← takeWord rest
  let (payloadSize, rest) ← takeWord rest
  return (⟨version, position, payloadSize⟩, rest)

@[simp] theorem length_encode (h : Header) : h.encode.length = headerSize := rfl

/-- A header of the present version is read back, whatever follows. -/
theorem decode_encode_append (position payloadSize : UInt32) (rest : Bytes) :
    decode ((current position payloadSize).encode ++ rest) =
      .ok (current position payloadSize, rest) := by
  simp only [decode, encode, List.append_assoc]
  simp [takeWord, current, bind, Except.bind, pure, Except.pure, magic]

end Header

end Snapshot

end Decoding
