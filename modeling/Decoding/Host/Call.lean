import Decoding.Host.Sessions
import Decoding.Session.Call

/-!
The calls of a host as data. `Host.perform` makes one call; `Host.run` makes a sequence
of them and keeps how each ended, together with everything that happened to families
and backends on the way.
-/

namespace Decoding.Host

inductive Call (ω β : Type) where
  | create (reference : String)
  | destroy (id : SessionId)
  /-- Act on the session of an id. The action may make many calls, and it may crash. -/
  | act (id : SessionId) (action : Session β → Outcome SessionError Session.Reply × Session β)
  | register (family : Family ω β)

inductive Reply where
  | created (id : SessionId)
  /-- Whether there was a session to destroy. -/
  | destroyed (existed : Bool)
  | acted (reply : Session.Reply)
  | registered

variable {ω β : Type} [Device β]

/-- Make one call. -/
def perform (w : ω) (h : Host ω β) :
    Call ω β → Outcome SessionError Reply × Host ω β × List Event
  | .create reference =>
    let (outcome, h, events) := h.create w reference
    (outcome.map .created, h, events)
  | .destroy id =>
    let (outcome, h, events) := h.destroy w id
    ((outcome.map .destroyed).mapError nofun, h, events)
  | .act id action =>
    let (outcome, h) := h.withSession id action
    (outcome.map .acted, h, [])
  | .register family =>
    match h.register family with
    | .ok h => (.ok .registered, h, [])
    | .error e => (.error e, h, [])

/-- Make calls one after another, each in its world. -/
def run (h : Host ω β) :
    List (ω × Call ω β) → List (Outcome SessionError Reply) × Host ω β × List Event
  | [] => ([], h, [])
  | (w, call) :: rest =>
    let (outcome, h, events) := h.perform w call
    let (outcomes, h, later) := run h rest
    (outcome :: outcomes, h, events ++ later)

end Decoding.Host
