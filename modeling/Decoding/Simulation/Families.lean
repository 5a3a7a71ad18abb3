import Decoding.Backend.Either
import Decoding.Boundary.Calls
import Decoding.Simulation.Engine
import Decoding.Simulation.Wrapper

/-!
Every simulated backend as one type, and the families that open them.
-/

namespace Decoding.Simulation

/-- A stub or a backend over a simulated engine. -/
abbrev Plain := Stub ⊕ EngineBackend Engine

/-- A plain backend, bare or wrapped. -/
abbrev Any := Plain ⊕ Wrapper Plain

def ofStub (b : Stub) : Any := .inl (.inl b)
def ofEngine (b : EngineBackend Engine) : Any := .inl (.inr b)

/-- A family that logs each of its calls. Its backends are wrapped deterministic stubs, whose
configuration is not checked, labelled with their model. -/
def loggingFamily (name : String) : Family World (Wrapper Plain) :=
  { name
    bootstrap := fun w =>
      match w.switches.bootstrapCrash, w.switches.bootstrapError with
      | some t, _ => (.crash t, [])
      | none, some text => (.error (.bootstrap text), [])
      | none, none => (.ok (), ["bootstrap " ++ name])
    teardown := fun w =>
      match w.switches.teardownCrash with
      | some t => (.crash t, ["teardown " ++ name])
      | none => (.ok (), ["teardown " ++ name])
    load := fun w c =>
      match w.switches.openCrash, w.switches.openError with
      | some t, _ => (.crash t, [])
      | none, some text => (.error (.config text), [])
      | none, none =>
        (.ok { inner := .inl (.deterministic c), label := some c.model },
          ["open " ++ c.model ++ " " ++ toString c.vocab ++ " " ++ toString c.window ++ " " ++
            toString c.seed.toNat]) }

/-- The kinds of families. -/
inductive Kind where
  | logging (name : String)
  | engine
  | fixed
  | deterministic
  deriving DecidableEq, Repr

def Kind.family : Kind → Family World Any
  | .logging name => (loggingFamily name).map .inr
  | .engine => engineFamily.map ofEngine
  | .fixed => Family.fixed.map ofStub
  | .deterministic => Family.deterministic.map ofStub

/-- The host that knows the two stub families. -/
def host : Host World Any := .standard ofStub

/-- The boundary of a new process in which the engine family is known. -/
def boundary : Boundary World Any :=
  let engine := Kind.engine.family
  { host := (host.register engine).toOption.getD host }

/-- Open a bare backend of a scheme, or make a stub of an unchecked configuration. -/
def openPlain (w : World) (scheme : Scheme) (unchecked : Bool) (c : Config) :
    Outcome BackendError Plain :=
  match scheme with
  | .deterministic =>
    if unchecked then .ok (.inl (.deterministic c))
    else (Family.deterministic.load w c).1.map .inl
  | .fixed =>
    if unchecked then (Stub.fixed c).map .inl else (Family.fixed.load w c).1.map .inl
  | .engine => (engineFamily.load w c).1.map .inr

end Decoding.Simulation
