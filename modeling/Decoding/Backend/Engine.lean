import Decoding.Backend.Basic
import Decoding.Config
import Decoding.Model.File

/-!
Backends that drive an inference engine. The engine has the weights and a cache of
evaluated positions; the backend keeps the context beside it and the logits of the
last evaluation. A state payload is the encoded context, the logits behind their
count, and the engine's own state behind its size.
-/

namespace Decoding

/-- The calls of an engine in a world. Any of them may crash. -/
class Engine (ω ε : Type) where
  /-- Evaluate tokens after the first positions of the cache, and give the logits of the last. -/
  eval : ω → ε → (held : Nat) → (tokens : List UInt32) → Outcome BackendError (List Score) × ε
  /-- Drop every cached position from the given one on. -/
  removeFrom : ω → ε → Nat → Outcome BackendError Unit × ε
  /-- The number of bytes that `save` will give, as the engine reports it. -/
  stateSize : ω → ε → Outcome Empty UInt64
  save : ω → ε → Outcome BackendError Bytes
  /-- Restore a saved state, and say how many bytes it took. -/
  load : ω → ε → Bytes → Outcome BackendError Nat × ε
  tokenize : ω → ε → String → Outcome BackendError (List UInt32)
  piece : ω → ε → UInt32 → Outcome BackendError Bytes
  /-- The number of logits. -/
  vocab : ω → ε → Outcome Empty Nat
  memory : ω → ε → Outcome Empty Nat

/-- An engine with its context and the logits of the last position. -/
structure EngineBackend (ε : Type) where
  engine : ε
  context : TokenContext
  logits : List Score
  deriving DecidableEq, Repr

namespace EngineBackend

variable {ω ε : Type} [Engine ω ε]

def fresh (engine : ε) (window : Nat) : EngineBackend ε := ⟨engine, .empty window, []⟩

/-- Evaluate tokens. An engine that fails may have written some positions, so they are removed;
if that fails too, the error says so. -/
def evaluate (w : ω) (b : EngineBackend ε) (held : Nat) (tokens : List UInt32) :
    Outcome BackendError Unit × EngineBackend ε :=
  match b.context.checkAppend held tokens with
  | .error e => (.error e, b)
  | .ok () =>
    match Engine.eval w b.engine held tokens with
    | (.ok logits, engine) =>
      match b.context.append held tokens with
      | .ok context => (.ok (), { engine, context, logits })
      | .error e => (.error e, { b with engine })
    | (.error e, engine) =>
      match Engine.removeFrom w engine held with
      | (.ok (), engine) => (.error e, { b with engine })
      | (.error cleanup, engine) => (.error (.partialEvaluation e cleanup), { b with engine })
      | (.crash t, engine) => (.crash t, { b with engine })
    | (.crash t, engine) => (.crash t, { b with engine })

/-- Discard positions. The logits belong to the last position and go with it. The context is
shortened even if the engine fails. -/
def evict (w : ω) (b : EngineBackend ε) (n : Nat) :
    Outcome BackendError Unit × EngineBackend ε :=
  let logits := if n < b.context.length then [] else b.logits
  let (result, engine) := Engine.removeFrom w b.engine n
  (result, { engine, context := b.context.truncate n, logits })

/-- The reported size, in the arithmetic of a 64-bit machine. -/
def stateSize (w : ω) (b : EngineBackend ε) : Outcome Empty UInt64 :=
  (Engine.stateSize w b.engine).map fun reported =>
    .ofNat b.context.encodedSize + 4 + .ofNat (4 * b.logits.length) + 4 + reported

def serialize (w : ω) (b : EngineBackend ε) : Outcome BackendError Bytes := do
  let reported ← (Engine.stateSize w b.engine).lift
  let state ← Engine.save w b.engine
  if state.length ≠ reported.toNat then
    .error (.mismatch (.engineWrote reported.toNat state.length))
  else
    return b.context.encode ++ Bytes.ofWord (.ofNat b.logits.length) ++ Score.toBytes b.logits ++
      Bytes.ofWord (.ofNat reported.toNat) ++ state

/-- A payload taken apart. -/
structure Sections where
  context : TokenContext
  logits : List Score
  /-- The state of the engine. -/
  engine : Bytes
  /-- What follows the payload. -/
  rest : Bytes
  deriving DecidableEq, Repr

/-- Take a payload apart for a window and a vocabulary, which is asked for when the count of the
logits has been read. -/
def Sections.decode (window : Nat) (vocab : Outcome Empty Nat) (payload : Bytes) :
    Outcome BackendError Sections := do
  let (context, rest) ← .ofExcept (TokenContext.decode window payload)
  let (count, rest) ← .ofExcept (Payload.takeWord rest)
  let vocab ← vocab.lift
  if count.toNat > vocab then
    .error (.mismatch (.tooManyLogits count.toNat vocab))
  else
    let (logits, rest) ← .ofExcept (Payload.takeScores count.toNat rest)
    let (size, rest) ← .ofExcept (Payload.takeWord rest)
    if size.toNat > rest.length then
      .error (.truncated (size.toNat - rest.length))
    else
      let (engine, rest) ← .ofExcept (Payload.takeBytes size.toNat rest)
      return { context, logits, engine, rest }

/-- Restore a payload. The engine is given its state only once the whole payload has been taken
apart, and context and logits change only if it takes its section to the last byte. -/
def deserialize (w : ω) (b : EngineBackend ε) (payload : Bytes) :
    Outcome BackendError Nat × EngineBackend ε :=
  match Sections.decode b.context.window (Engine.vocab w b.engine) payload with
  | .error e => (.error e, b)
  | .crash t => (.crash t, b)
  | .ok parts =>
    match Engine.load w b.engine parts.engine with
    | (.ok consumed, engine) =>
      if consumed = parts.engine.length then
        (.ok (payload.length - parts.rest.length),
          { engine, context := parts.context, logits := parts.logits })
      else
        (.error (.mismatch (.engineConsumed consumed parts.engine.length)), { b with engine })
    | (.error e, engine) => (.error e, { b with engine })
    | (.crash t, engine) => (.crash t, { b with engine })

instance : Device (EngineBackend ε) where
  name _ := "engine"
  context b := b.context.tokens
  release _ := []

instance : Backend ω (EngineBackend ε) where
  evaluate := evaluate
  scores _ b buffer :=
    (.ok (min buffer.length b.logits.length), b.logits.take buffer.length)
  evict := evict
  stateSize := stateSize
  serialize := serialize
  deserialize := deserialize
  tokenize w b := Engine.tokenize w b.engine
  piece w b := Engine.piece w b.engine
  memory w b := Engine.memory w b.engine

end EngineBackend

end Decoding
