/-!
Bytes and 32-bit words. A word is written as four bytes, least significant
first. Reading undoes writing whatever follows (`takeWord_ofWord_append`), and
what was read was written (`takeWord_eq_some_iff`).
-/

namespace Decoding

abbrev Bytes := List UInt8

namespace Bytes

/-- The four bytes of a word, least significant first. -/
def ofWord (w : UInt32) : Bytes :=
  [.ofNat w.toNat, .ofNat (w.toNat / 0x100), .ofNat (w.toNat / 0x10000), .ofNat (w.toNat / 0x1000000)]

def toWord (a b c d : UInt8) : UInt32 :=
  .ofNat (a.toNat + 0x100 * b.toNat + 0x10000 * c.toNat + 0x1000000 * d.toNat)

/-- Read one word and leave the rest; nothing is read from fewer than four bytes. -/
def takeWord : Bytes → Option (UInt32 × Bytes)
  | a :: b :: c :: d :: rest => some (toWord a b c d, rest)
  | _ => none

/-- The bytes of a run of words, in order. -/
def ofWords (ws : List UInt32) : Bytes := ws.flatMap ofWord

/-- A byte string as it stands in messages: decimal numbers between brackets. -/
def describe (bs : Bytes) : String :=
  "[" ++ ", ".intercalate (bs.map fun b => toString b.toNat) ++ "]"

@[simp] theorem length_ofWord (w : UInt32) : (ofWord w).length = 4 := rfl

theorem toWord_ofWord (w : UInt32) :
    toWord (.ofNat w.toNat) (.ofNat (w.toNat / 0x100)) (.ofNat (w.toNat / 0x10000))
      (.ofNat (w.toNat / 0x1000000)) = w := by
  apply UInt32.toNat_inj.mp
  have := w.toNat_lt
  simp only [toWord, UInt32.toNat_ofNat', UInt8.toNat_ofNat']
  omega

theorem ofWord_toWord (a b c d : UInt8) : ofWord (toWord a b c d) = [a, b, c, d] := by
  have ha := a.toNat_lt
  have hb := b.toNat_lt
  have hc := c.toNat_lt
  have hd := d.toNat_lt
  simp only [ofWord, List.cons.injEq, and_true]
  refine ⟨?_, ?_, ?_, ?_⟩ <;>
    (apply UInt8.toNat_inj.mp
     simp only [toWord, UInt32.toNat_ofNat', UInt8.toNat_ofNat']
     omega)

@[simp] theorem takeWord_ofWord_append (w : UInt32) (rest : Bytes) :
    takeWord (ofWord w ++ rest) = some (w, rest) :=
  congrArg (fun v => some (v, rest)) (toWord_ofWord w)

theorem takeWord_eq_some_iff {bs rest : Bytes} {w : UInt32} :
    takeWord bs = some (w, rest) ↔ bs = ofWord w ++ rest := by
  constructor
  · intro h
    match bs, h with
    | a :: b :: c :: d :: tail, h =>
      simp only [takeWord, Option.some.injEq, Prod.mk.injEq] at h
      rw [← h.1, ← h.2, ofWord_toWord]
      rfl
  · rintro rfl
    exact takeWord_ofWord_append w rest

theorem takeWord_eq_none_iff {bs : Bytes} : takeWord bs = none ↔ bs.length < 4 := by
  match bs with
  | [] | [_] | [_, _] | [_, _, _] => simp [takeWord]
  | _ :: _ :: _ :: _ :: _ => simp [takeWord]

theorem exists_word (bs : Bytes) (h : 4 ≤ bs.length) : ∃ w rest, bs = ofWord w ++ rest := by
  cases hw : takeWord bs with
  | none =>
    have := takeWord_eq_none_iff.mp hw
    omega
  | some r => exact ⟨r.1, r.2, takeWord_eq_some_iff.mp hw⟩

theorem ofWord_injective : ofWord.Injective := by
  intro v w h
  have ht := congrArg (fun bs => takeWord (bs ++ [])) h
  simp only [takeWord_ofWord_append, Option.some.injEq, Prod.mk.injEq, and_true] at ht
  exact ht

@[simp] theorem length_ofWords (ws : List UInt32) : (ofWords ws).length = 4 * ws.length := by
  induction ws with
  | nil => rfl
  | cons w ws ih => simp only [ofWords, List.flatMap_cons, List.length_append] at *; simp [ih]; omega

theorem ofWords_injective : ofWords.Injective := by
  intro vs
  induction vs with
  | nil =>
    intro ws h
    have := congrArg List.length h
    simp only [length_ofWords, List.length_nil] at this
    exact (List.eq_nil_of_length_eq_zero (by omega)).symm
  | cons v vs ih =>
    intro ws h
    cases ws with
    | nil => cases congrArg List.length h
    | cons w ws =>
      obtain ⟨hw, hs⟩ := List.append_inj (h : ofWord v ++ ofWords vs = ofWord w ++ ofWords ws) rfl
      rw [ofWord_injective hw, ih hs]

end Bytes

end Decoding
