import Decoding.Bytes

/-!
UTF-8. A text has one encoding, and bytes that encode no text are refused with the
place of the first sequence that is wrong. A sequence is broken where a byte comes
that cannot stand there, and cut short where the bytes end inside it.
-/

namespace Decoding.Text.Utf8

def encode (s : String) : Bytes := s.toByteArray.data.toList

/-- What is wrong with bytes that encode no text. -/
inductive Fault where
  /-- The `length` bytes from `index` on are the start of no sequence. -/
  | broken (length index : Nat)
  /-- The bytes end inside the sequence that starts at `index`. -/
  | cutShort (index : Nat)
  deriving DecidableEq, Repr

def Fault.message : Fault → String
  | .broken length index => s!"invalid utf-8 sequence of {length} bytes from index {index}"
  | .cutShort index => s!"incomplete utf-8 byte sequence from index {index}"

/-- How far the bytes at the front make up one sequence. -/
inductive Sequence where
  | whole (width : Nat)
  | broken (length : Nat)
  | cutShort

/-- The number of bytes that a first byte announces; 0 for a byte that starts nothing. -/
def width (b : UInt8) : Nat :=
  if b < 0x80 then 1
  else if b < 0xc2 then 0
  else if b < 0xe0 then 2
  else if b < 0xf0 then 3
  else if b < 0xf5 then 4
  else 0

/-- The bounds of the second byte. They shut out long forms, surrogates and code points above
U+10FFFF. -/
def secondByte (first : UInt8) : UInt8 × UInt8 :=
  if first = 0xe0 then (0xa0, 0xbf)
  else if first = 0xed then (0x80, 0x9f)
  else if first = 0xf0 then (0x90, 0xbf)
  else if first = 0xf4 then (0x80, 0x8f)
  else (0x80, 0xbf)

/-- Follow a sequence that has `seen` bytes so far and lacks `missing`, the next one within
`bounds`. -/
def follow : (missing seen : Nat) → (bounds : UInt8 × UInt8) → Bytes → Sequence
  | 0, seen, _, _ => .whole seen
  | _ + 1, _, _, [] => .cutShort
  | n + 1, seen, bounds, b :: rest =>
    if bounds.1 ≤ b ∧ b ≤ bounds.2 then follow n (seen + 1) (0x80, 0xbf) rest
    else .broken seen

def sequence (first : UInt8) (rest : Bytes) : Sequence :=
  match width first with
  | 0 => .broken 1
  | n + 1 => follow n 1 (secondByte first) rest

/-- The first fault in bytes of which `index` came before. -/
def firstFault (index : Nat) : Bytes → Option Fault
  | [] => none
  | b :: rest =>
    match sequence b rest with
    | .broken length => some (.broken length index)
    | .cutShort => some (.cutShort index)
    | .whole w => firstFault (index + w) (rest.drop (w - 1))
termination_by bs => bs.length
decreasing_by simp only [List.length_drop, List.length_cons]; omega

/-- The text that bytes encode. -/
def decode (bs : Bytes) : Except Fault String :=
  match String.fromUTF8? ⟨bs.toArray⟩ with
  | some s => .ok s
  | none => .error ((firstFault 0 bs).getD (.broken 1 0))

theorem decode_encode (s : String) : decode (encode s) = .ok s := by
  have h : (⟨(encode s).toArray⟩ : ByteArray) = s.toByteArray := by simp [encode]
  rw [decode, h, String.fromUTF8?, dif_pos s.isValidUTF8]
  rfl

/-- What decodes to a text is its encoding. -/
theorem eq_encode_of_decode {bs : Bytes} {s : String} (h : decode bs = .ok s) :
    bs = encode s := by
  unfold decode String.fromUTF8? at h
  split at h
  · rename_i t ht
    split at ht
    · cases ht
      cases h
      simp [encode, String.fromUTF8]
    · cases ht
  · cases h

end Decoding.Text.Utf8
