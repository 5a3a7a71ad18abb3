import Decoding.Bytes

/-!
Scores are single-precision numbers that pass through sessions, snapshots and
buffers untouched, so they are kept as bit patterns: a NaN keeps its payload.
Arithmetic happens only where a backend makes scores.
-/

namespace Decoding

/-- A score, by its IEEE 754 single-precision bit pattern. -/
structure Score where
  bits : UInt32
  deriving DecidableEq, Repr

namespace Score

/-- The number of bytes of a score. -/
def size : Nat := 4

/-- Positive zero, the score of an entry that no backend has written. -/
def zero : Score := ⟨0⟩

def ofFloat (x : Float32) : Score := ⟨x.toBits⟩
def toFloat (s : Score) : Float32 := .ofBits s.bits

/-- The nearest single-precision number to a 64-bit natural. -/
def ofCount (n : Nat) : Float32 := n.toUInt64.toFloat32

def toBytes (ss : List Score) : Bytes := Bytes.ofWords (ss.map bits)

@[simp] theorem length_toBytes (ss : List Score) : (toBytes ss).length = 4 * ss.length := by
  simp [toBytes]

end Score

end Decoding
