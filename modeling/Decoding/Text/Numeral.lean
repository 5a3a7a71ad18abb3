/-!
Unsigned decimal numerals: one or more ASCII digits with an optional plus sign in
front. There is no other sign, no separator and no blank, and a value at or above
the given bound is refused. What is written is read back (`readNumeral?_numeral`).
-/

namespace Decoding.Text

/-- A text without the plus sign in front of it, if there is one. -/
def withoutPlus : List Char → List Char
  | '+' :: rest => rest
  | cs => cs

/-- Read a whole text as a numeral below `bound`. -/
def readNumeral? (bound : Nat) (cs : List Char) : Option Nat :=
  let digits := withoutPlus cs
  if digits = [] ∨ ¬ digits.all Char.isDigit then none
  else
    let n := Nat.ofDigitChars 10 digits 0
    if n < bound then some n else none

/-- The decimal digits of a number, without leading zeros. -/
def numeral (n : Nat) : List Char := Nat.toDigits 10 n

theorem isDigit_of_mem_numeral {n : Nat} {c : Char} (h : c ∈ numeral n) : c.isDigit :=
  Nat.isDigit_of_mem_toDigits (by omega) (by omega) h

theorem withoutPlus_numeral (n : Nat) : withoutPlus (numeral n) = numeral n := by
  unfold withoutPlus
  split
  · rename_i rest h
    have hplus : '+'.isDigit := isDigit_of_mem_numeral (h ▸ List.mem_cons_self)
    exact absurd hplus (by decide)
  · rfl

theorem readNumeral?_numeral {bound n : Nat} (h : n < bound) :
    readNumeral? bound (numeral n) = some n := by
  have hdigits : (numeral n).all Char.isDigit :=
    List.all_eq_true.mpr fun _ hc => isDigit_of_mem_numeral hc
  have hvalue : Nat.ofDigitChars 10 (numeral n) 0 = n := Nat.ofDigitChars_ten_toDigits
  rw [readNumeral?, withoutPlus_numeral, if_neg, hvalue, if_pos h]
  rw [not_or]
  exact ⟨Nat.toDigits_ne_nil, not_not_intro hdigits⟩

end Decoding.Text
