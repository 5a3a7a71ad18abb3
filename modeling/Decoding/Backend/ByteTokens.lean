import Decoding.Backend.Error
import Decoding.Text.Utf8

/-!
Tokens of single bytes: a text becomes the bytes of its UTF-8 encoding, one token
each, and a token below 256 stands for that byte.
-/

namespace Decoding.ByteTokens

def vocab : Nat := 256

def tokenize (text : String) : List UInt32 := (Text.Utf8.encode text).map UInt8.toUInt32

def piece (token : UInt32) : Except BackendError Bytes :=
  if token.toNat < vocab then .ok [token.toUInt8] else .error (.unknownToken token)

/-- The piece of a byte's token is that byte. -/
theorem piece_toUInt32 (b : UInt8) : piece b.toUInt32 = .ok [b] := by
  have := b.toNat_lt
  simp [piece, vocab, this]

end Decoding.ByteTokens
