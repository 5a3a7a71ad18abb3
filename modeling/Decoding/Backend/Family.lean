import Decoding.Backend.Engine
import Decoding.Backend.Stub

/-!
Families of backends. A family has a name, is set up before its first backend is
opened and torn down after its last one is given up. Each of its calls may write
lines to the log.
-/

namespace Decoding

structure Family (ω β : Type) where
  /-- The scheme that selects this family. -/
  name : String
  bootstrap : ω → Outcome BackendError Unit × List String
  /-- Undo `bootstrap`. This cannot fail, but it can crash. -/
  teardown : ω → Outcome Empty Unit × List String
  /-- A fresh backend with an empty context. -/
  load : ω → Config → Outcome BackendError β × List String

namespace Family

variable {ω α β : Type}

/-- The same family with its backends put into another type. -/
def map (f : α → β) (fam : Family ω α) : Family ω β :=
  { name := fam.name
    bootstrap := fam.bootstrap
    teardown := fam.teardown
    load := fun w c =>
      let (result, log) := fam.load w c
      (result.map f, log) }

/-- A family without process setup that makes a backend of any valid configuration. -/
def plain (name : String) (make : Config → Outcome BackendError β) : Family ω β :=
  { name
    bootstrap := fun _ => (.ok (), [])
    teardown := fun _ => (.ok (), [])
    load := fun _ c =>
      match c.validate with
      | .ok () => (make c, [])
      | .error e => (.error (.config e.message), []) }

def deterministic : Family ω Stub := plain "deterministic" fun c => .ok (.deterministic c)
def fixed : Family ω Stub := plain "fixed" Stub.fixed

end Family

/-- Loads engines from model files and owns their process-wide setup. -/
structure EngineFactory (ω ε : Type) where
  start : ω → Outcome BackendError Unit × List String
  stop : ω → Outcome Empty Unit × List String
  load : ω → ModelFile → Config → Outcome BackendError ε × List String

/-- The family of backends over the engines of a factory, with the files that a world shows. -/
def EngineFactory.family {ω ε : Type} (files : ω → FileTable) (f : EngineFactory ω ε) :
    Family ω (EngineBackend ε) :=
  { name := "engine"
    bootstrap := fun w =>
      let (result, log) := f.start w
      (result.mapError fun e => .bootstrap e.message, log)
    teardown := f.stop
    load := fun w c =>
      match c.validate with
      | .error e => (.error (.config e.message), [])
      | .ok () =>
        match ModelFile.load (files w) c.model with
        | .error e => (.error e, [])
        | .ok model =>
          let (result, log) := f.load w model c
          (result.map fun engine => .fresh engine c.window, log) }

end Decoding
