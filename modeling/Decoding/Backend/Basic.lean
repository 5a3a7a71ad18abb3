import Decoding.Backend.Context
import Decoding.Outcome

/-!
What a session asks of a backend. A backend owns the physical context and the scores
of the last evaluation. Its calls depend on a surrounding world `ω`, which the caller
passes in and which may differ from call to call: a device may be busy, a switch may
be thrown. Any of them may crash. Calls that change the backend return its new state
however they end, since a failed or crashed call may leave traces.
-/

namespace Decoding

/-- The part of a backend that no world affects. -/
class Device (β : Type) where
  name : β → String
  /-- The tokens held, oldest first. -/
  context : β → List UInt32
  /-- The lines that the backend writes to the log when it is given up. -/
  release : β → List String

/-- The calls of a backend in a world. -/
class Backend (ω β : Type) [Device β] where
  /-- Evaluate tokens after the first positions of the context, which must be all it has. -/
  evaluate : ω → β → (held : Nat) → (tokens : List UInt32) → Outcome BackendError Unit × β
  /-- Write the scores into a buffer, and say how many they are. What is returned stands at the
  front of the buffer afterwards, even if the call crashes. -/
  scores : ω → β → (buffer : List Score) → Outcome Empty Nat × List Score
  /-- Discard every position from the given one on. -/
  evict : ω → β → Nat → Outcome BackendError Unit × β
  /-- The number of bytes that `serialize` will give, as the backend reports it. -/
  stateSize : ω → β → Outcome Empty UInt64
  serialize : ω → β → Outcome BackendError Bytes
  /-- Replace the state by a serialized one, and say how many bytes it took. -/
  deserialize : ω → β → Bytes → Outcome BackendError Nat × β
  tokenize : ω → β → String → Outcome BackendError (List UInt32)
  /-- The bytes of text that a token stands for. -/
  piece : ω → β → UInt32 → Outcome BackendError Bytes
  /-- The device memory in use, in MiB. -/
  memory : ω → β → Outcome Empty Nat

namespace Backend

/-- The first token at or above the vocabulary, if any, is refused. -/
def checkVocab (vocab : Nat) (tokens : List UInt32) : Except BackendError Unit :=
  match tokens.find? fun t => vocab ≤ t.toNat with
  | some t => .error (.tokenOutOfRange t vocab)
  | none => .ok ()

end Backend

end Decoding
