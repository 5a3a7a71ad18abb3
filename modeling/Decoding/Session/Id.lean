/-!
Session ids. An id is a slot number and the generation of the slot's occupant, which
is never zero; as a raw number the generation stands in the upper half. Packing is
undone by unpacking, and zero is no id.
-/

namespace Decoding

structure SessionId where
  index : UInt32
  generation : UInt32
  deriving DecidableEq, Repr

namespace SessionId

def toRaw (id : SessionId) : UInt64 := .ofNat (id.generation.toNat * UInt32.size + id.index.toNat)

/-- The id of a raw number; there is none of generation zero. -/
def ofRaw? (raw : UInt64) : Option SessionId :=
  let generation : UInt32 := .ofNat (raw.toNat / UInt32.size)
  if generation = 0 then none else some ⟨.ofNat raw.toNat, generation⟩

/-- The text of an id: the slot, the letter v and the generation. -/
def text (id : SessionId) : String := s!"{id.index.toNat}v{id.generation.toNat}"

theorem toNat_toRaw (id : SessionId) :
    id.toRaw.toNat = id.generation.toNat * UInt32.size + id.index.toNat := by
  have := id.generation.toNat_lt
  have := id.index.toNat_lt
  simp only [toRaw, UInt64.toNat_ofNat', UInt32.size]
  omega

theorem ofRaw?_toRaw {id : SessionId} (h : id.generation ≠ 0) : ofRaw? id.toRaw = some id := by
  have hg := id.generation.toNat_lt
  have hi := id.index.toNat_lt
  have h1 : (UInt32.ofNat (id.toRaw.toNat / UInt32.size)) = id.generation := by
    apply UInt32.toNat_inj.mp
    simp only [toNat_toRaw, UInt32.toNat_ofNat', UInt32.size]
    omega
  have h2 : (UInt32.ofNat id.toRaw.toNat) = id.index := by
    apply UInt32.toNat_inj.mp
    simp only [toNat_toRaw, UInt32.toNat_ofNat', UInt32.size]
    omega
  simp only [ofRaw?, h1, h2, if_neg h]

theorem toRaw_ne_zero {id : SessionId} (h : id.generation ≠ 0) : id.toRaw ≠ 0 := by
  intro hzero
  have hread := ofRaw?_toRaw h
  rw [hzero] at hread
  cases hread

end SessionId

end Decoding
