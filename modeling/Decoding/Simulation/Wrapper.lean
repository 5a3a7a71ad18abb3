import Decoding.Backend.Basic
import Decoding.Simulation.World

/-!
A backend around another one that can be made to fail, crash and misreport. What no
switch touches goes to the inner backend. A labelled wrapper logs when it is given up.
-/

namespace Decoding.Simulation

structure Wrapper (β : Type) where
  inner : β
  /-- The deserializations so far. -/
  deserialized : Nat := 0
  label : Option String := none
  deriving DecidableEq, Repr

namespace Wrapper

variable {β : Type}

def lift {α : Type} (b : Wrapper β) (r : Outcome BackendError α × β) :
    Outcome BackendError α × Wrapper β :=
  (r.1, { b with inner := r.2 })

variable [Device β]

instance : Device (Wrapper β) where
  name _ := "wrapped"
  context b := Device.context b.inner
  release b :=
    match b.label with
    | some label => ["drop " ++ label]
    | none => []

variable [Backend World β]

def evaluate (w : World) (b : Wrapper β) (held : Nat) (tokens : List UInt32) :
    Outcome BackendError Unit × Wrapper β :=
  match w.switches.wrapperEvaluateCrash with
  | some t => (.crash t, b)
  | none =>
    match w.switches.wrapperPartial, tokens with
    | some _, [] => (.crash noFirstToken, b)
    | some text, first :: _ =>
      (.error (.partialEvaluation (.engine text) (.unknownToken first)), b)
    | none, tokens =>
      match w.switches.wrapperEvaluateError with
      | some text => (.error (.engine text), b)
      | none => b.lift (Backend.evaluate w b.inner held tokens)

def scores (w : World) (b : Wrapper β) (buffer : List Score) : Outcome Empty Nat × List Score :=
  let (reported, scores) := Backend.scores w b.inner buffer
  (reported.map w.switches.wrapperScores.getD, scores)

def stateSize (w : World) (b : Wrapper β) : Outcome Empty UInt64 :=
  match w.switches.wrapperStateSize with
  | some size => .ok size
  | none => Backend.stateSize w b.inner

def evict (w : World) (b : Wrapper β) (n : Nat) : Outcome BackendError Unit × Wrapper β :=
  match w.switches.wrapperEvictCrash, w.switches.wrapperEvictError with
  | some t, _ => (.crash t, b)
  | none, some text => (.error (.engine text), b)
  | none, none => b.lift (Backend.evict w b.inner n)

def serialize (w : World) (b : Wrapper β) : Outcome BackendError Bytes :=
  match w.switches.wrapperSerializeError with
  | some text => .error (.engine text)
  | none =>
    (Backend.serialize w b.inner).map fun bytes =>
      bytes ++ List.replicate w.switches.wrapperSerializeExtra padding

def deserialize (w : World) (b : Wrapper β) (payload : Bytes) :
    Outcome BackendError Nat × Wrapper β :=
  let b := { b with deserialized := b.deserialized + 1 }
  if w.switches.wrapperDeserializeFailure = some b.deserialized then
    (.error (.engine "device lost"), b)
  else b.lift (Backend.deserialize w b.inner payload)

def memory (w : World) (b : Wrapper β) : Outcome Empty Nat :=
  match w.switches.wrapperMemory with
  | some mib => .ok mib
  | none => Backend.memory w b.inner

instance : Backend World (Wrapper β) where
  evaluate := evaluate
  scores := scores
  evict := evict
  stateSize := stateSize
  serialize := serialize
  deserialize := deserialize
  tokenize w b := Backend.tokenize w b.inner
  piece w b := Backend.piece w b.inner
  memory := memory

end Wrapper

end Decoding.Simulation
