import Decoding.Backend.Basic

/-!
A backend of one of two kinds. Every call goes to the backend that is there, and the
kind never changes.
-/

namespace Decoding

variable {ω α β : Type} [Device α] [Device β]

instance : Device (α ⊕ β) where
  name := Sum.elim Device.name Device.name
  context := Sum.elim Device.context Device.context
  release := Sum.elim Device.release Device.release

instance [Backend ω α] [Backend ω β] : Backend ω (α ⊕ β) where
  evaluate w b held tokens :=
    match b with
    | .inl a => (Backend.evaluate w a held tokens).map id .inl
    | .inr b => (Backend.evaluate w b held tokens).map id .inr
  scores w := Sum.elim (Backend.scores w) (Backend.scores w)
  evict w b n :=
    match b with
    | .inl a => (Backend.evict w a n).map id .inl
    | .inr b => (Backend.evict w b n).map id .inr
  stateSize w := Sum.elim (Backend.stateSize w) (Backend.stateSize w)
  serialize w := Sum.elim (Backend.serialize w) (Backend.serialize w)
  deserialize w b payload :=
    match b with
    | .inl a => (Backend.deserialize w a payload).map id .inl
    | .inr b => (Backend.deserialize w b payload).map id .inr
  tokenize w := Sum.elim (Backend.tokenize w) (Backend.tokenize w)
  piece w := Sum.elim (Backend.piece w) (Backend.piece w)
  memory w := Sum.elim (Backend.memory w) (Backend.memory w)

end Decoding
