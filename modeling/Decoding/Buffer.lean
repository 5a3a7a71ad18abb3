import Decoding.Outcome

/-!
The largest buffer. The size of a buffer is counted by a signed 64-bit number, and a
call that asks for a larger one crashes before any of it is made, whatever memory there
is. Only sizes that callers choose or backends report can come near the bound.
-/

namespace Decoding.Buffer

/-- The most bytes that a buffer can have. -/
def maxBytes : Nat := 9223372036854775807

/-- The text of the crash of a call that asks for a larger buffer. -/
def overflowText : String := "capacity overflow"

/-- Make what fills a buffer of the given size. -/
def make {ε α : Type} (bytes : Nat) (fill : Unit → Outcome ε α) : Outcome ε α :=
  if bytes ≤ maxBytes then fill () else .crash overflowText

theorem make_of_le {ε α : Type} {bytes : Nat} {fill : Unit → Outcome ε α}
    (h : bytes ≤ maxBytes) : make bytes fill = fill () := if_pos h

theorem make_of_lt {ε α : Type} {bytes : Nat} {fill : Unit → Outcome ε α}
    (h : maxBytes < bytes) : make bytes fill = .crash overflowText := if_neg (by omega)

end Decoding.Buffer
