/-!
Blanks, and texts taken apart at a character. Blanks are the characters with the
Unicode property White_Space, which are more than the blanks of ASCII.
-/

namespace Decoding.Text

/-- The code points of the blanks, as ranges in rising order. -/
def blankRanges : List (Nat × Nat) := [
  (0x9, 0xd), (0x20, 0x20), (0x85, 0x85), (0xa0, 0xa0), (0x1680, 0x1680), (0x2000, 0x200a),
  (0x2028, 0x2029), (0x202f, 0x202f), (0x205f, 0x205f), (0x3000, 0x3000)]

def isBlank (c : Char) : Bool :=
  blankRanges.any fun r => r.1 ≤ c.toNat && c.toNat ≤ r.2

/-- A text without the blanks at its two ends. -/
def trim (cs : List Char) : List Char :=
  ((cs.dropWhile isBlank).reverse.dropWhile isBlank).reverse

/-- The parts before and after the first occurrence of a character, if it occurs. -/
def cut? (sep : Char) : List Char → Option (List Char × List Char)
  | [] => none
  | c :: rest =>
    if c = sep then some ([], rest)
    else (cut? sep rest).map fun p => (c :: p.1, p.2)

/-- The parts between the occurrences of a character: one more than there are occurrences. -/
def parts (sep : Char) : List Char → List (List Char)
  | [] => [[]]
  | c :: rest =>
    if c = sep then [] :: parts sep rest
    else match parts sep rest with
      | [] => [[c]]
      | p :: ps => (c :: p) :: ps

theorem parts_of_not_mem {sep : Char} {cs : List Char} (h : sep ∉ cs) : parts sep cs = [cs] := by
  induction cs with
  | nil => rfl
  | cons c rest ih =>
    rw [List.mem_cons, not_or] at h
    rw [parts, if_neg (Ne.symm h.1), ih h.2]

/-- What stands before the first separator is the first part. -/
theorem parts_append_cons {sep : Char} {part rest : List Char} (h : sep ∉ part) :
    parts sep (part ++ sep :: rest) = part :: parts sep rest := by
  induction part with
  | nil => simp [parts]
  | cons c cs ih =>
    rw [List.mem_cons, not_or] at h
    rw [List.cons_append, parts, if_neg (Ne.symm h.1), ih h.2]

/-- A text that was cut is its first part, the character and its second part, and the character
is not in the first part. -/
theorem cut?_eq_some_iff {sep : Char} {cs before after : List Char} :
    cut? sep cs = some (before, after) ↔ cs = before ++ sep :: after ∧ sep ∉ before := by
  induction cs generalizing before with
  | nil => simp [cut?]
  | cons c rest ih =>
    by_cases h : c = sep
    · subst h
      cases before with
      | nil => simp [cut?]
      | cons b bs =>
        simp only [cut?, ↓reduceIte, Option.some.injEq, Prod.mk.injEq, List.nil_eq, reduceCtorEq,
          false_and, List.cons_append, List.cons.injEq, List.mem_cons, not_or, false_iff, not_and]
        intro hb
        exact fun hne => absurd hb.1 hne
    · cases before with
      | nil => simp [cut?, h]
      | cons b bs =>
        simp only [cut?, h, ↓reduceIte, Option.map_eq_some_iff, Prod.exists, Prod.mk.injEq,
          List.cons.injEq, List.cons_append, List.mem_cons, not_or]
        constructor
        · rintro ⟨x, y, hxy, ⟨rfl, rfl⟩, rfl⟩
          have := ih.mp hxy
          exact ⟨⟨rfl, this.1⟩, Ne.symm h, this.2⟩
        · rintro ⟨⟨rfl, hrest⟩, _, hbs⟩
          exact ⟨bs, after, ih.mpr ⟨hrest, hbs⟩, ⟨rfl, rfl⟩, rfl⟩

end Decoding.Text
