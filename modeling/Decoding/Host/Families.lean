import Decoding.Host.Basic

/-!
The families of a host, counted by their sessions: `acquire` and `release` set a
family up and tear it down at the edges between none and one. Calls that reach
families report what they did as a list of events.
-/

namespace Decoding.Host

variable {ω β : Type}

/-- Make a family known by its name. It takes the place of one of the same name, which must not
have sessions. -/
def register (h : Host ω β) (family : Family ω β) : Except SessionError (Host ω β) :=
  let entry : Registration ω β := { family, live := 0, serial := h.registered }
  match h.registration? family.name with
  | none =>
    .ok { h with families := h.families ++ [entry], registered := h.registered + 1 }
  | some old =>
    if old.live > 0 then .error (.invalidArgument (.busyFamily family.name old.live))
    else
      .ok { h with
        families := h.families.map fun r => if r.family.name = family.name then entry else r
        registered := h.registered + 1 }

/-- A host that knows the two families of stubs, with their backends put into `β`. -/
def standard (embed : Stub → β) : Host ω β :=
  { families := [
      { family := Family.deterministic.map embed, live := 0, serial := 0 },
      { family := Family.fixed.map embed, live := 0, serial := 1 }]
    registered := 2 }

def setLive (h : Host ω β) (name : String) (live : Nat) : Host ω β :=
  { h with families := h.families.map fun r => if r.family.name = name then { r with live } else r }

/-- Count one more session of a family, which is set up first if it has none. -/
def acquire (w : ω) (h : Host ω β) (name : String) :
    Outcome SessionError (Registration ω β) × Host ω β × List Event :=
  match h.registration? name with
  | none => (.error (.initialization (.noFamily name)), h, [])
  | some r =>
    if r.live = 0 then
      match r.family.bootstrap w with
      | (.ok (), log) => (.ok r, h.setLive name 1, log.map .logged ++ [.bootstrapped r.serial])
      | (.error e, log) => (.error (.initialization (.backend e)), h, log.map .logged)
      | (.crash t, log) => (.crash t, h, log.map .logged)
    else (.ok r, h.setLive name (r.live + 1), [])

/-- Count one session of a family less. A family without sessions is torn down, which may
crash. -/
def release (w : ω) (h : Host ω β) (name : String) :
    Outcome Empty Unit × Host ω β × List Event :=
  match h.registration? name with
  | none => (.ok (), h, [])
  | some r =>
    let h := h.setLive name (r.live - 1)
    if r.live - 1 = 0 then
      let (result, log) := r.family.teardown w
      (result, h, log.map .logged ++ [.tornDown r.serial])
    else (.ok (), h, [])

/-- Tear down every family that has sessions, up to the first crash. -/
def teardownAll (w : ω) : List (Registration ω β) → Outcome Empty Unit × List Event
  | [] => (.ok (), [])
  | r :: rest =>
    if r.live = 0 then teardownAll w rest
    else
      let (result, log) := r.family.teardown w
      let events := log.map .logged ++ [.tornDown r.serial]
      match result with
      | .crash t => (.crash t, events)
      | .ok () =>
        let (result, more) := teardownAll w rest
        (result, events ++ more)

end Decoding.Host
