import Decoding.Model.FileTable

/-!
The world of the simulated engine, backends and families: the files there are, and
switches that make calls fail, crash or report something else. A switch that is not
set has no effect.
-/

namespace Decoding.Simulation

/-- A text makes the call that it is named for fail or crash with that text; a number takes the
place of what the call would report, or says how much is added to it. -/
structure Switches where
  evalCrash : Option String := none
  evalError : Option String := none
  /-- The number of logits that an evaluation gives. -/
  evalWidth : Option Nat := none
  removeCrash : Option String := none
  removeError : Option String := none
  stateSize : Option UInt64 := none
  saveError : Option String := none
  /-- The number of bytes written behind a saved state. -/
  saveExtra : Nat := 0
  loadCrash : Option String := none
  loadError : Option String := none
  tokenizeError : Option String := none
  memory : Option Nat := none
  startCrash : Option String := none
  startError : Option String := none
  stopCrash : Option String := none
  factoryCrash : Option String := none
  factoryError : Option String := none
  wrapperEvaluateCrash : Option String := none
  wrapperPartial : Option String := none
  wrapperEvaluateError : Option String := none
  wrapperScores : Option Nat := none
  wrapperEvictCrash : Option String := none
  wrapperEvictError : Option String := none
  wrapperStateSize : Option UInt64 := none
  wrapperSerializeError : Option String := none
  wrapperSerializeExtra : Nat := 0
  /-- The number of the deserialization that fails, counted from one. -/
  wrapperDeserializeFailure : Option Nat := none
  wrapperMemory : Option Nat := none
  bootstrapCrash : Option String := none
  bootstrapError : Option String := none
  teardownCrash : Option String := none
  openCrash : Option String := none
  openError : Option String := none
  deriving DecidableEq, Repr

structure World where
  switches : Switches := {}
  files : FileTable := {}

/-- The byte that pads states which are longer than reported. -/
def padding : UInt8 := 0xee

/-- The text of the crash of a call that needs a first token and gets none. -/
def noFirstToken : String := "index out of bounds: the len is 0 but the index is 0"

end Decoding.Simulation
