import Decoding.Host.Call
import Decoding.Proofs.Outcome

/-!
What one call can do to a host. Families are acquired and released, occupants are seated
in slots and leave them; each of these steps, and each call made of them, has a few ways
to end, which are listed once here. Whatever holds along runs is derived from these
lists.
-/

namespace Decoding.Host

variable {ω α β : Type}

/-- The hosts that runs start from. -/
inductive New : Host ω β → Prop
  | bare : New {}
  | standard (embed : Stub → β) : New (standard embed)

section Families

variable {w : ω} {h : Host ω β} {name other : String} {r : Registration ω β} {live : Nat}

theorem mem_of_registration? (hr : h.registration? name = some r) : r ∈ h.families :=
  List.mem_of_find?_eq_some hr

theorem name_of_registration? (hr : h.registration? name = some r) : r.family.name = name := by
  simpa using List.find?_some hr

theorem refcount_of_registration? (hr : h.registration? name = some r) :
    h.refcount name = r.live := by
  simp [refcount, hr]

theorem refcount_of_unregistered (hr : h.registration? name = none) : h.refcount name = 0 := by
  simp [refcount, hr]

@[simp] theorem setLive_setLive (live' : Nat) :
    (h.setLive name live).setLive name live' = h.setLive name live' := by
  simp only [setLive, List.map_map]
  congr 1
  refine List.map_congr_left fun r _ => ?_
  simp only [Function.comp_apply]
  split <;> simp [*]

theorem registration?_setLive :
    (h.setLive name live).registration? other =
      (h.registration? other).map fun r => if r.family.name = name then { r with live } else r := by
  simp only [registration?, setLive, List.find?_map]
  congr 2
  funext r
  simp only [Function.comp_apply]
  split <;> rfl

theorem refcount_setLive (hr : h.registration? name = some r) :
    (h.setLive name live).refcount other = if other = name then live else h.refcount other := by
  rw [refcount, registration?_setLive]
  split
  · rename_i he
    simp [he, hr, name_of_registration? hr]
  · rename_i hne
    rw [refcount]
    cases ho : h.registration? other with
    | none => rfl
    | some r' => simp [name_of_registration? ho, hne]

/-- Whatever does not depend on the counts stays as it was. -/
theorem map_setLive {γ : Type} (f : Registration ω β → γ)
    (hf : ∀ (r : Registration ω β) (n : Nat), f { r with live := n } = f r) :
    (h.setLive name live).families.map f = h.families.map f := by
  simp only [setLive, List.map_map]
  refine List.map_congr_left fun r _ => ?_
  simp only [Function.comp_apply]
  split
  · exact hf r live
  · rfl

/-- A family whose count is set to what it is stays as it was. -/
theorem setLive_self (hn : (h.families.map (·.family.name)).Nodup)
    (hr : h.registration? name = some r) : h.setLive name r.live = h := by
  have hsame : ∀ r' ∈ h.families,
      (if r'.family.name = name then { r' with live := r.live } else r') = r' := by
    intro r' hr'
    split
    · rename_i he
      rw [← List.inj_on_of_nodup_map hn hr' (mem_of_registration? hr)
        (he.trans (name_of_registration? hr).symm)]
    · rfl
  simp only [setLive]
  rw [List.map_congr_left hsame, List.map_id']

end Families

/-- The ways to register a family. -/
inductive Registered (h : Host ω β) (family : Family ω β) : Except SessionError (Host ω β) → Prop
  | added (hr : h.registration? family.name = none) :
    Registered h family (.ok { h with
      families := h.families ++ [{ family, live := 0, serial := h.registered }]
      registered := h.registered + 1 })
  | replaced {old : Registration ω β} (hr : h.registration? family.name = some old)
      (hl : old.live = 0) :
    Registered h family (.ok { h with
      families := h.families.map fun r =>
        if r.family.name = family.name then { family, live := 0, serial := h.registered } else r
      registered := h.registered + 1 })
  | refused {old : Registration ω β} (hr : h.registration? family.name = some old)
      (hl : 0 < old.live) :
    Registered h family (.error (.invalidArgument (.busyFamily family.name old.live)))

theorem register_registered (h : Host ω β) (family : Family ω β) :
    Registered h family (h.register family) := by
  unfold register
  simp only
  split
  · exact .added (by assumption)
  · split
    · exact .refused (by assumption) (by assumption)
    · exact .replaced (by assumption) (by omega)

/-- Registering a family changes no counts. -/
theorem Registered.refcount {h h' : Host ω β} {family : Family ω β}
    (hf : Registered h family (.ok h')) (name : String) : h'.refcount name = h.refcount name := by
  cases hf with
  | added hr =>
    simp only [Host.refcount, registration?, List.find?_append]
    cases hn : h.families.find? fun r => r.family.name = name with
    | some r => rfl
    | none => by_cases he : family.name = name <;> simp [he]
  | replaced hr hl =>
    simp only [Host.refcount, registration?, List.find?_map]
    have hname : ((fun r : Registration ω β => decide (r.family.name = name)) ∘ fun r =>
        if r.family.name = family.name then { family, live := 0, serial := h.registered } else r) =
        fun r => decide (r.family.name = name) := by
      funext r
      simp only [Function.comp_apply]
      split <;> simp_all
    rw [hname]
    cases hn : h.families.find? fun r => r.family.name = name with
    | none => rfl
    | some r =>
      have he := name_of_registration? hn
      simp only [Option.map_some, Option.getD_some]
      split
      · rename_i hsame
        rw [he] at hsame
        rw [← hsame, registration?, hn] at hr
        cases hr
        exact hl.symm
      · rfl

/-- The ways to acquire a family. -/
inductive Acquired (w : ω) (h : Host ω β) (name : String) :
    Outcome SessionError (Registration ω β) × Host ω β × List Event → Prop
  | unknown (hr : h.registration? name = none) :
    Acquired w h name (.error (.initialization (.noFamily name)), h, [])
  | failed {r : Registration ω β} {e : BackendError} {log : List String}
      (hr : h.registration? name = some r) (hl : r.live = 0)
      (hb : r.family.bootstrap w = (.error e, log)) :
    Acquired w h name (.error (.initialization (.backend e)), h, log.map .logged)
  | crashed {r : Registration ω β} {t : String} {log : List String}
      (hr : h.registration? name = some r) (hl : r.live = 0)
      (hb : r.family.bootstrap w = (.crash t, log)) :
    Acquired w h name (.crash t, h, log.map .logged)
  | first {r : Registration ω β} {log : List String} (hr : h.registration? name = some r)
      (hl : r.live = 0) (hb : r.family.bootstrap w = (.ok (), log)) :
    Acquired w h name
      (.ok r, h.setLive name 1, log.map .logged ++ [.bootstrapped r.serial])
  | again {r : Registration ω β} (hr : h.registration? name = some r) (hl : r.live ≠ 0) :
    Acquired w h name (.ok r, h.setLive name (r.live + 1), [])

theorem acquire_acquired (w : ω) (h : Host ω β) (name : String) :
    Acquired w h name (h.acquire w name) := by
  unfold acquire
  split
  · exact .unknown (by assumption)
  · split
    · split
      · exact .first (by assumption) (by assumption) (by assumption)
      · exact .failed (by assumption) (by assumption) (by assumption)
      · exact .crashed (by assumption) (by assumption) (by assumption)
    · exact .again (by assumption) (by assumption)

/-- The ways to release a family. It is counted down before it is torn down. -/
inductive Released (w : ω) (h : Host ω β) (name : String) :
    Outcome Empty Unit × Host ω β × List Event → Prop
  | unknown (hr : h.registration? name = none) : Released w h name (.ok (), h, [])
  | last {r : Registration ω β} {o : Outcome Empty Unit} {log : List String}
      (hr : h.registration? name = some r) (hl : r.live ≤ 1)
      (ht : r.family.teardown w = (o, log)) :
    Released w h name (o, h.setLive name 0, log.map .logged ++ [.tornDown r.serial])
  | kept {r : Registration ω β} (hr : h.registration? name = some r) (hl : 1 < r.live) :
    Released w h name (.ok (), h.setLive name (r.live - 1), [])

theorem release_released (w : ω) (h : Host ω β) (name : String) :
    Released w h name (h.release w name) := by
  unfold release
  split
  · exact .unknown (by assumption)
  · rename_i r hr
    by_cases hl : r.live - 1 = 0
    · simp only [hl, if_pos]
      exact .last hr (by omega) rfl
    · simp only [hl, if_false]
      exact .kept hr (by omega)

/-- Releasing a family leaves the slots alone. -/
theorem Released.slots {w : ω} {h h' : Host ω β} {name : String} {t : Outcome Empty Unit}
    {events : List Event} (hr : Released w h name (t, h', events)) : h'.slots = h.slots := by
  cases hr <;> rfl

theorem Released.ok_of_quiet {w : ω} {h h' : Host ω β} {name : String} {t : Outcome Empty Unit}
    {events : List Event} (hr : Released w h name (t, h', events))
    (hquiet : ∀ r ∈ h.families, (r.family.teardown w).1 = .ok ()) : t = .ok () := by
  cases hr with
  | unknown | kept => rfl
  | last hr hl ht =>
    have hok := hquiet _ (mem_of_registration? hr)
    rwa [ht] at hok

section Slots

/-- A host with an occupant in the slot of an id. -/
def seat (h : Host ω β) (id : SessionId) (o : Occupant β) : Host ω β :=
  { h with slots := h.slots.set id.index.toNat { generation := id.generation, occupant := some o } }

/-- A host whose slot of an id has been freed. -/
def vacate (h : Host ω β) (id : SessionId) : Host ω β :=
  { h with
    slots := h.slots.set id.index.toNat
      { generation := nextGeneration id.generation, occupant := none }
    free := id.index :: h.free }

variable {h : Host ω β} {id : SessionId} {o : Occupant β}

theorem occupant?_eq_some_iff :
    h.occupant? id = some o ↔
      h.slots[id.index.toNat]? = some { generation := id.generation, occupant := some o } := by
  unfold occupant?
  cases h.slots[id.index.toNat]? with
  | none => simp
  | some slot =>
    obtain ⟨generation, occupant⟩ := slot
    simp only [Option.some.injEq, Slot.mk.injEq]
    split <;> simp_all

/-- The ways to insert an occupant. -/
inductive Inserted (h : Host ω β) (o : Occupant β) :
    Except SessionError (SessionId × Host ω β) → Prop
  | reused {index : UInt32} {free : List UInt32} {slot : Slot β} (hf : h.free = index :: free)
      (hs : h.slots[index.toNat]? = some slot) :
    Inserted h o (.ok (⟨index, slot.generation⟩,
      { h.seat ⟨index, slot.generation⟩ o with free }))
  | appended (hf : h.free = []) (hl : h.slots.length < maxSlots) :
    Inserted h o (.ok (⟨.ofNat h.slots.length, 1⟩,
      { h with slots := h.slots ++ [{ generation := 1, occupant := some o }] }))
  | full (hf : h.free = []) (hl : maxSlots ≤ h.slots.length) :
    Inserted h o (.error (.internal .tableFull))
  | dangling {index : UInt32} {free : List UInt32} (hf : h.free = index :: free)
      (hs : h.slots[index.toNat]? = none) : Inserted h o (.error (.internal .tableFull))

theorem insert_inserted (h : Host ω β) (o : Occupant β) : Inserted h o (h.insert o) := by
  unfold insert
  split
  · split
    · exact .reused (by assumption) (by assumption)
    · exact .dangling (by assumption) (by assumption)
  · split
    · exact .appended (by assumption) (by assumption)
    · exact .full (by assumption) (by omega)

/-- The ways to call a session through its host. -/
inductive Called (h : Host ω β) (id : SessionId)
    (call : Session β → Outcome SessionError α × Session β) :
    Outcome SessionError α × Host ω β → Prop
  | unknown (ho : h.occupant? id = none) :
    Called h id call (.error (.invalidArgument (.unknownSession id)), h)
  | poisoned {o : Occupant β} (ho : h.occupant? id = some o) (hp : o.poisoned) :
    Called h id call (.error .poisoned, h)
  | completed {o : Occupant β} {outcome : Outcome SessionError α} {s : Session β}
      (ho : h.occupant? id = some o) (hp : ¬ o.poisoned)
      (hc : call o.session = (outcome, s)) (hd : outcome.Completed) :
    Called h id call (outcome, h.seat id { o with session := s, poisoned := false })
  | crashed {o : Occupant β} {t : String} {s : Session β} (ho : h.occupant? id = some o)
      (hp : ¬ o.poisoned) (hc : call o.session = (.crash t, s)) :
    Called h id call (.crash t, h.seat id { o with session := s, poisoned := true })

theorem withSession_called (h : Host ω β) (id : SessionId)
    (call : Session β → Outcome SessionError α × Session β) :
    Called h id call (h.withSession id call) := by
  unfold withSession
  split
  · exact .unknown (by assumption)
  · rename_i o ho
    split
    · exact .poisoned ho (by assumption)
    · rename_i hp
      cases hc : call o.session with
      | mk outcome s =>
        cases outcome with
        | ok a => exact .completed ho hp hc trivial
        | error e => exact .completed ho hp hc trivial
        | crash t => exact .crashed ho hp hc

end Slots

/-- A family that is released after a failure does not turn it into a session. -/
theorem abandon_released (w : ω) (h : Host ω β) (name : String) (events : List Event)
    {o : Outcome SessionError SessionId} (ho : ∀ id, o ≠ .ok id) :
    ∃ o' t h' ended, h.abandon w name events o = (o', h', events ++ ended) ∧
      (∀ id, o' ≠ .ok id) ∧ Released w h name (t, h', ended) := by
  unfold abandon
  have hr := h.release_released w name
  split
  · rename_i heq
    rw [heq] at hr
    exact ⟨_, _, _, _, rfl, nofun, hr⟩
  · rename_i heq
    rw [heq] at hr
    exact ⟨_, _, _, _, rfl, ho, hr⟩

variable [Device β]

/-- The ways to create a session. Whatever was acquired on the way to a failure is released. -/
inductive Created (w : ω) (h : Host ω β) (reference : String) :
    Outcome SessionError SessionId × Host ω β × List Event → Prop
  | unparsed {fault : Reference.Fault} (hp : Reference.parse reference = .error fault) :
    Created w h reference (.error (.initialization (.reference fault)), h, [])
  | unacquired {parsed : Reference} {o : Outcome SessionError SessionId} {log : List String}
      (hp : Reference.parse reference = .ok parsed) (ho : ∀ id, o ≠ .ok id) :
    Created w h reference (o, h, log.map .logged)
  | unopened {parsed : Reference} {r : Registration ω β} {h₁ h₂ : Host ω β}
      {begun ended : List Event} {log : List String} {o : Outcome SessionError SessionId}
      {t : Outcome Empty Unit}
      (hp : Reference.parse reference = .ok parsed)
      (ha : Acquired w h parsed.scheme.name (.ok r, h₁, begun))
      (hr : Released w h₁ parsed.scheme.name (t, h₂, ended)) (ho : ∀ id, o ≠ .ok id) :
    Created w h reference (o, h₂, begun ++ log.map .logged ++ ended)
  | full {parsed : Reference} {r : Registration ω β} {h₁ h₂ : Host ω β} {begun ended : List Event}
      {log : List String} {backend : β} {e : SessionError} {o : Outcome SessionError SessionId}
      {t : Outcome Empty Unit} (hp : Reference.parse reference = .ok parsed)
      (ha : Acquired w h parsed.scheme.name (.ok r, h₁, begun))
      (hb : r.family.load w parsed.config = (.ok backend, log))
      (hi : Inserted { h₁ with opened := h₁.opened + 1 }
        ⟨.fresh backend, false, parsed.scheme.name, h₁.opened⟩ (.error e))
      (hr : Released w { h₁ with opened := h₁.opened + 1 } parsed.scheme.name (t, h₂, ended))
      (ho : ∀ id, o ≠ .ok id) :
    Created w h reference (o, h₂,
      begun ++ log.map .logged ++ [.opened r.serial h₁.opened] ++
        giveUp ⟨.fresh backend, false, parsed.scheme.name, h₁.opened⟩ ++ ended)
  | created {parsed : Reference} {r : Registration ω β} {h₁ h₂ : Host ω β} {begun : List Event}
      {log : List String} {backend : β} {id : SessionId}
      (hp : Reference.parse reference = .ok parsed)
      (ha : Acquired w h parsed.scheme.name (.ok r, h₁, begun))
      (hb : r.family.load w parsed.config = (.ok backend, log))
      (hi : Inserted { h₁ with opened := h₁.opened + 1 }
        ⟨.fresh backend, false, parsed.scheme.name, h₁.opened⟩ (.ok (id, h₂))) :
    Created w h reference (.ok id, h₂,
      begun ++ log.map .logged ++ [.opened r.serial h₁.opened])

theorem create_created (w : ω) (h : Host ω β) (reference : String) :
    Created w h reference (h.create w reference) := by
  unfold create
  split
  · exact .unparsed (by assumption)
  · rename_i parsed hp
    have ha := h.acquire_acquired w parsed.scheme.name
    simp only
    split
    · rename_i hacq
      rw [hacq] at ha
      cases ha with
      | unknown =>
        have hnone : ∀ id, (.error (.initialization (.noFamily parsed.scheme.name)) :
            Outcome SessionError SessionId) ≠ .ok id := nofun
        exact (Created.unacquired hp hnone :
          Created w h reference (_, h, ([] : List String).map .logged))
      | failed => exact .unacquired hp nofun
    · rename_i hacq
      rw [hacq] at ha
      cases ha with
      | crashed => exact .unacquired hp nofun
    · rename_i r h₁ begun hacq
      rw [hacq] at ha
      split
      · rename_i e log hb
        obtain ⟨o, t, h₂, ended, heq, ho, hr⟩ :=
          h₁.abandon_released w parsed.scheme.name (begun ++ log.map .logged)
            (o := .error (.initialization (.backend e))) nofun
        rw [heq]
        exact .unopened hp ha hr ho
      · rename_i t log hb
        obtain ⟨o, t, h₂, ended, heq, ho, hr⟩ :=
          h₁.abandon_released w parsed.scheme.name (begun ++ log.map .logged) (o := .crash t) nofun
        rw [heq]
        exact .unopened hp ha hr ho
      · rename_i backend log hb
        have hi := insert_inserted { h₁ with opened := h₁.opened + 1 }
          ⟨.fresh backend, false, parsed.scheme.name, h₁.opened⟩
        split
        · rename_i hins
          rw [hins] at hi
          exact .created hp ha hb hi
        · rename_i e hins
          rw [hins] at hi
          obtain ⟨o, t, h₂, ended, heq, ho, hr⟩ := abandon_released w _ parsed.scheme.name _
            (o := .error e) nofun
          rw [heq]
          exact .full hp ha hb hi hr ho

/-- The ways to destroy a session. Its slot is free again before its family is released. -/
inductive Destroyed (w : ω) (h : Host ω β) (id : SessionId) :
    Outcome Empty Bool × Host ω β × List Event → Prop
  | unknown (ho : h.occupant? id = none) : Destroyed w h id (.ok false, h, [])
  | destroyed {o : Occupant β} {t : Outcome Empty Unit} {h' : Host ω β} {ended : List Event}
      (ho : h.occupant? id = some o) (hr : Released w (h.vacate id) o.family (t, h', ended)) :
    Destroyed w h id (t.map fun _ => true, h', giveUp o ++ ended)

theorem destroy_destroyed (w : ω) (h : Host ω β) (id : SessionId) :
    Destroyed w h id (h.destroy w id) := by
  unfold destroy
  split
  · exact .unknown (by assumption)
  · rename_i o ho
    exact .destroyed ho (release_released w (h.vacate id) o.family)

/-- What every call keeps, runs keep. -/
theorem run_keeps {P : Host ω β → Prop} (hstep : ∀ w h call, P h → P (h.perform w call).2.1) :
    ∀ (calls : List (ω × Call ω β)) {h : Host ω β}, P h → P (h.run calls).2.1
  | [], _, hp => hp
  | (w, call) :: rest, h, hp => run_keeps hstep rest (hstep w h call hp)

end Decoding.Host
