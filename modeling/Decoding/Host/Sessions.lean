import Decoding.Host.Families
import Decoding.Reference

/-!
The sessions of a host: `create`, `destroy`, `withSession`, and `close` for all of
them. A slot that was freed is used again, last freed first. A session during whose
call the caller or the backend crashed is poisoned: it can only be destroyed.
-/

namespace Decoding.Host

variable {ω α β : Type}

/-- Slots are numbered with 32 bits. -/
def maxSlots : Nat := UInt32.size

/-- Put a session into the slot that was freed last, or into a new one. -/
def insert (h : Host ω β) (occupant : Occupant β) :
    Except SessionError (SessionId × Host ω β) :=
  match h.free with
  | index :: free =>
    match h.slots[index.toNat]? with
    | some slot =>
      .ok (⟨index, slot.generation⟩,
        { h with free, slots := h.slots.set index.toNat { slot with occupant := some occupant } })
    | none => .error (.internal .tableFull)
  | [] =>
    if h.slots.length < maxSlots then
      .ok (⟨.ofNat h.slots.length, 1⟩,
        { h with slots := h.slots ++ [{ generation := 1, occupant := some occupant }] })
    else .error (.internal .tableFull)

/-- The generation after another, which is never zero. -/
def nextGeneration (g : UInt32) : UInt32 := if g + 1 = 0 then 1 else g + 1

/-- Make a call on a session. A crash poisons the session, and a poisoned session is not
called. -/
def withSession (h : Host ω β) (id : SessionId)
    (call : Session β → Outcome SessionError α × Session β) :
    Outcome SessionError α × Host ω β :=
  match h.occupant? id with
  | none => (.error (.invalidArgument (.unknownSession id)), h)
  | some occupant =>
    if occupant.poisoned then (.error .poisoned, h)
    else
      let (outcome, session) := call occupant.session
      let poisoned := match outcome with
        | .crash _ => true
        | _ => false
      let slot : Slot β :=
        { generation := id.generation, occupant := some { occupant with session, poisoned } }
      (outcome, { h with slots := h.slots.set id.index.toNat slot })

/-- Give a family back after a create that failed or crashed. A crash of the teardown wins. -/
def abandon (w : ω) (h : Host ω β) (name : String) (events : List Event)
    (outcome : Outcome SessionError SessionId) :
    Outcome SessionError SessionId × Host ω β × List Event :=
  match h.release w name with
  | (.crash t, h, log) => (.crash t, h, events ++ log)
  | (_, h, log) => (outcome, h, events ++ log)

variable [Device β]

/-- The events of giving up a backend. -/
def giveUp (o : Occupant β) : List Event :=
  (Device.release o.session.backend).map .logged ++ [.released o.serial]

/-- Create a session from the text of a reference. If that fails or crashes at any point, there
is no new session and the family's count is as before. -/
def create (w : ω) (h : Host ω β) (reference : String) :
    Outcome SessionError SessionId × Host ω β × List Event :=
  match Reference.parse reference with
  | .error fault => (.error (.initialization (.reference fault)), h, [])
  | .ok reference =>
    let name := reference.scheme.name
    match h.acquire w name with
    | (.error e, h, events) => (.error e, h, events)
    | (.crash t, h, events) => (.crash t, h, events)
    | (.ok r, h, events) =>
      match r.family.load w reference.config with
      | (.error e, log) =>
        abandon w h name (events ++ log.map .logged) (.error (.initialization (.backend e)))
      | (.crash t, log) => abandon w h name (events ++ log.map .logged) (.crash t)
      | (.ok backend, log) =>
        let occupant : Occupant β :=
          { session := .fresh backend, poisoned := false, family := name, serial := h.opened }
        let events := events ++ log.map .logged ++ [.opened r.serial occupant.serial]
        match { h with opened := h.opened + 1 }.insert occupant with
        | .ok (id, h) => (.ok id, h, events)
        | .error e =>
          abandon w { h with opened := h.opened + 1 } name (events ++ giveUp occupant) (.error e)

/-- Destroy a session, poisoned or not; there may be none, or no more, of the id. The backend is
given up before its family can be torn down, and all is in order even if the teardown crashes. -/
def destroy (w : ω) (h : Host ω β) (id : SessionId) :
    Outcome Empty Bool × Host ω β × List Event :=
  match h.occupant? id with
  | none => (.ok false, h, [])
  | some occupant =>
    let slot : Slot β := { generation := nextGeneration id.generation, occupant := none }
    let h := { h with
      slots := h.slots.set id.index.toNat slot
      free := id.index :: h.free }
    let (result, h, events) := h.release w occupant.family
    (result.map fun _ => true, h, giveUp occupant ++ events)

/-- Close the host: give up every backend in the order of the slots, then tear down the
families. -/
def close (w : ω) (h : Host ω β) : Outcome Empty Unit × List Event :=
  let given := (h.slots.filterMap Slot.occupant).flatMap giveUp
  let (result, events) := teardownAll w h.families
  (result, given ++ events)

end Decoding.Host
