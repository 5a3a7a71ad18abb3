import Decoding.Backend.Family
import Decoding.Session.Basic

/-!
A host owns sessions behind ids, and the families they are opened from. A family is
set up when its first session is created and torn down when its last one is gone;
`live` counts the sessions between. Slots are reused, and a slot's generation grows
with every occupant, so an id that has been destroyed reaches nobody.
-/

namespace Decoding

/-- A family that has been registered. -/
structure Registration (ω β : Type) where
  family : Family ω β
  /-- The sessions of the family that exist. -/
  live : Nat
  /-- The number of the registration: no two are equal. -/
  serial : Nat

structure Occupant (β : Type) where
  session : Session β
  poisoned : Bool
  family : String
  /-- The number of the backend: no two are equal. -/
  serial : Nat

structure Slot (β : Type) where
  generation : UInt32
  occupant : Option (Occupant β)

structure Host (ω β : Type) where
  families : List (Registration ω β) := []
  slots : List (Slot β) := []
  /-- The slots without occupant, last freed first. -/
  free : List UInt32 := []
  /-- The registrations made so far. -/
  registered : Nat := 0
  /-- The backends opened so far. -/
  opened : Nat := 0

namespace Host

/-- What a call did to families and backends. -/
inductive Event where
  | bootstrapped (family : Nat)
  | opened (family backend : Nat)
  | released (backend : Nat)
  | tornDown (family : Nat)
  /-- A line that a family or backend wrote to the log. -/
  | logged (line : String)
  deriving DecidableEq, Repr

variable {ω β : Type}

def registration? (h : Host ω β) (name : String) : Option (Registration ω β) :=
  h.families.find? fun r => r.family.name = name

/-- The sessions of a family that exist; none of an unknown one. -/
def refcount (h : Host ω β) (name : String) : Nat :=
  ((h.registration? name).map Registration.live).getD 0

/-- The sessions that exist. -/
def liveSessions (h : Host ω β) : Nat :=
  (h.slots.filter fun slot => slot.occupant.isSome).length

/-- The occupant that an id stands for. -/
def occupant? (h : Host ω β) (id : SessionId) : Option (Occupant β) :=
  match h.slots[id.index.toNat]? with
  | some slot => if slot.generation = id.generation then slot.occupant else none
  | none => none

/-- A one-line account of a host. -/
def describe (h : Host ω β) : String :=
  "Runtime \x7b live_sessions: " ++ toString h.liveSessions ++ " \x7d"

end Host

end Decoding
