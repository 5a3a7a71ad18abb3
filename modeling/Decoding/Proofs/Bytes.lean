import Decoding.Bytes
import Mathlib.Data.Nat.Digits.Defs

/-!
The numbers that stand in a byte string, each given by the place of its first byte. What was written
is read back from its place, and a run of words is determined by its numbers.
-/

namespace Decoding

namespace Bytes

/-- The number that the four bytes from a place on stand for, least significant first. -/
def field (bs : Bytes) (place : Nat) : Nat :=
  Nat.ofDigits 256 (((bs.drop place).take 4).map UInt8.toNat)

theorem field_drop (bs : Bytes) (n place : Nat) :
    field (bs.drop n) place = field bs (n + place) := by
  rw [field, field, List.drop_drop]

theorem ofDigits_ofWord (w : UInt32) : Nat.ofDigits 256 ((ofWord w).map UInt8.toNat) = w.toNat := by
  have := w.toNat_lt
  simp only [ofWord, List.map_cons, List.map_nil, Nat.ofDigits_cons, Nat.ofDigits_nil,
    UInt8.toNat_ofNat']
  omega

/-- The number behind some bytes is the word that was written there. -/
theorem field_append (front : Bytes) {place : Nat} (h : front.length = place) (w : UInt32)
    (rest : Bytes) : field (front ++ (ofWord w ++ rest)) place = w.toNat := by
  have htake : (ofWord w ++ rest).take 4 = ofWord w := rfl
  rw [field, List.drop_left' h, htake, ofDigits_ofWord]

theorem field_append_add (front : Bytes) {n : Nat} (h : front.length = n) (rest : Bytes)
    (place : Nat) : field (front ++ rest) (n + place) = field rest place := by
  subst h
  rw [field, field, List.drop_length_add_append]

/-- A run of words is read number by number, whatever follows. -/
theorem field_ofWords_append :
    ∀ {ws : List UInt32} {i : Nat} (h : i < ws.length) (rest : Bytes),
      field (ofWords ws ++ rest) (4 * i) = ws[i].toNat
  | w :: ws, 0, _, rest => by
    change field ((ofWord w ++ ofWords ws) ++ rest) 0 = _
    rw [List.append_assoc]
    exact field_append [] rfl w (ofWords ws ++ rest)
  | w :: ws, i + 1, h, rest => by
    change field ((ofWord w ++ ofWords ws) ++ rest) (4 * (i + 1)) = _
    rw [List.append_assoc, Nat.mul_succ, Nat.add_comm, field_append_add _ (length_ofWord w),
      field_ofWords_append (Nat.lt_of_succ_lt_succ h) rest]
    rfl

theorem field_ofWords {ws : List UInt32} {i : Nat} (h : i < ws.length) :
    field (ofWords ws) (4 * i) = ws[i].toNat := by
  rw [← field_ofWords_append h [], List.append_nil]

/-- Bytes in which these numbers stand, and nothing else, are the run of words. -/
theorem eq_ofWords {bs : Bytes} {ws : List UInt32} (hlength : bs.length = 4 * ws.length)
    (hfield : ∀ i (h : i < ws.length), field bs (4 * i) = ws[i].toNat) : bs = ofWords ws := by
  induction ws generalizing bs with
  | nil => exact List.eq_nil_of_length_eq_zero hlength
  | cons w ws ih =>
    rw [List.length_cons] at hlength
    obtain ⟨first, rest, rfl⟩ := exists_word bs (by omega)
    have hfirst : first = w := by
      apply UInt32.toNat_inj.mp
      rw [← field_append [] rfl first rest]
      exact hfield 0 (Nat.succ_pos _)
    have hrest : rest = ofWords ws := by
      apply ih
      · rw [List.length_append, length_ofWord] at hlength
        omega
      · intro i hi
        rw [← field_append_add _ (length_ofWord first), Nat.add_comm, ← Nat.mul_succ]
        exact hfield (i + 1) (Nat.succ_lt_succ hi)
    rw [hfirst, hrest]
    rfl

theorem exists_toNat_eq_field {bs : Bytes} (h : 4 ≤ bs.length) :
    ∃ w : UInt32, w.toNat = field bs 0 := by
  obtain ⟨w, rest, rfl⟩ := exists_word bs h
  exact ⟨w, (field_append [] rfl w rest).symm⟩

/-- A word is read off the front if four bytes are there, and is the number that stands there. -/
theorem takeWord_eq_some_iff_field {bs rest : Bytes} {w : UInt32} :
    takeWord bs = some (w, rest) ↔ 4 ≤ bs.length ∧ w.toNat = field bs 0 ∧ rest = bs.drop 4 := by
  have hfield : ∀ (v : UInt32) (more : Bytes), field (ofWord v ++ more) 0 = v.toNat :=
    field_append [] rfl
  rw [takeWord_eq_some_iff]
  constructor
  · rintro rfl
    rw [hfield, List.length_append, length_ofWord]
    exact ⟨Nat.le_add_right _ _, rfl, rfl⟩
  · rintro ⟨h, hw, rfl⟩
    obtain ⟨v, more, rfl⟩ := exists_word bs h
    rw [hfield] at hw
    rw [UInt32.toNat_inj.mp hw]
    rfl

end Bytes

end Decoding
