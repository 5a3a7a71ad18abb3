import Decoding.Proofs.Host.Freshness

/-!
What calls do to the occupant of an id. An id stands for the occupant of one slot: a call that is
not made with the id leaves it in place, and so a run does to it what the actions made with the id
do, one after another.
-/

namespace Decoding

variable {ω α β : Type}

/-- What is done with a session during one call. -/
abbrev Session.Action (β : Type) := Session β → Outcome SessionError Session.Reply × Session β

namespace Occupant

/-- What an action does to an occupant: nothing if it is poisoned, and a crash poisons it. -/
def act (o : Occupant β) (action : Session β → Outcome SessionError α × Session β) :
    Outcome SessionError α × Occupant β :=
  if o.poisoned then (.error .poisoned, o)
  else
    let (outcome, session) := action o.session
    (outcome, { o with session, poisoned := outcome.isCrash })

def actAll (o : Occupant β) :
    List (Session.Action β) → List (Outcome SessionError Session.Reply) × Occupant β
  | [] => ([], o)
  | action :: rest =>
    let (outcome, o) := o.act action
    let (outcomes, o) := actAll o rest
    (outcome :: outcomes, o)

variable {o : Occupant β}

theorem act_of_poisoned (hp : o.poisoned)
    (action : Session β → Outcome SessionError α × Session β) :
    o.act action = (.error .poisoned, o) := if_pos hp

theorem actAll_of_poisoned (hp : o.poisoned) (actions : List (Session.Action β)) :
    o.actAll actions = (List.replicate actions.length (.error .poisoned), o) := by
  induction actions with
  | nil => rfl
  | cons action rest ih =>
    simp only [actAll, act_of_poisoned hp, ih, List.length_cons, List.replicate_succ]

end Occupant

namespace Host

section Frame

variable {h h' : Host ω β} {id other : SessionId} {o o' : Occupant β}

theorem occupant?_congr (hs : h'.slots = h.slots) : h'.occupant? id = h.occupant? id := by
  rw [occupant?, occupant?, hs]

theorem occupant?_set {i : Nat} {slot : Slot β} (hs : h.slots[i]? = some slot) (slot' : Slot β) :
    ({ h with slots := h.slots.set i slot' } : Host ω β).occupant? id =
      if i = id.index.toNat then
        if slot'.generation = id.generation then slot'.occupant else none
      else h.occupant? id := by
  simp only [occupant?, getElem?_set_of_some hs]
  by_cases he : i = id.index.toNat <;> simp [he]

/-- Two ids that stand for somebody have slots of their own. -/
theorem index_ne (ho : h.occupant? id = some o) (ho' : h.occupant? other = some o')
    (hne : other ≠ id) : other.index.toNat ≠ id.index.toNat := by
  intro he
  have hslot := occupant?_eq_some_iff.mp ho
  have hslot' := occupant?_eq_some_iff.mp ho'
  rw [he, hslot, Option.some.injEq, Slot.mk.injEq] at hslot'
  exact hne (SessionId.eq_of_toNat he hslot'.1.symm)

theorem occupant?_seat (ho : h.occupant? id = some o) : (h.seat id o').occupant? id = some o' := by
  rw [seat, occupant?_set (occupant?_eq_some_iff.mp ho), if_pos rfl, if_pos rfl]

theorem occupant?_seat_of_ne {seated : Occupant β} (ho : h.occupant? id = some o)
    (ho' : h.occupant? other = some o') (hne : other ≠ id) :
    (h.seat other seated).occupant? id = some o := by
  rw [seat, occupant?_set (occupant?_eq_some_iff.mp ho'), if_neg (index_ne ho ho' hne), ho]

theorem occupant?_vacate_of_ne (ho : h.occupant? id = some o) (ho' : h.occupant? other = some o')
    (hne : other ≠ id) : (h.vacate other).occupant? id = some o :=
  (occupant?_set (occupant?_eq_some_iff.mp ho') _).trans
    ((if_neg (index_ne ho ho' hne)).trans ho)

theorem seat_self (ho : h.occupant? id = some o) : h.seat id o = h := by
  have hslot := occupant?_eq_some_iff.mp ho
  obtain ⟨hlt, hget⟩ := List.getElem?_eq_some_iff.mp hslot
  rw [seat, ← hget, List.set_getElem_self]

/-- A host calls the occupant of an id and changes nothing else. -/
theorem withSession_eq (ho : h.occupant? id = some o)
    (action : Session β → Outcome SessionError α × Session β) :
    h.withSession id action = ((o.act action).1, h.seat id (o.act action).2) := by
  have hc := h.withSession_called id action
  generalize h.withSession id action = result at hc ⊢
  cases hc with
  | unknown hn =>
    rw [ho] at hn
    cases hn
  | poisoned ho' hp =>
    rw [ho] at ho'
    cases ho'
    rw [Occupant.act_of_poisoned hp, seat_self ho]
  | @completed _ outcome s ho' hp hcall hd =>
    rw [ho] at ho'
    cases ho'
    have hcrash : outcome.isCrash = false := by
      cases outcome with
      | ok | error => rfl
      | crash t => exact False.elim hd
    simp [Occupant.act, hp, hcall, hcrash]
  | crashed ho' hp hcall =>
    rw [ho] at ho'
    cases ho'
    simp [Occupant.act, hp, hcall, Outcome.isCrash]

theorem Called.occupant?_of_ne {call : Session β → Outcome SessionError α × Session β}
    {outcome : Outcome SessionError α} (hc : Called h other call (outcome, h'))
    (ho : h.occupant? id = some o) (hne : other ≠ id) : h'.occupant? id = some o := by
  cases hc with
  | unknown | poisoned => exact ho
  | completed ho' | crashed ho' => exact occupant?_seat_of_ne ho ho' hne

/-- A session that is inserted takes a slot in which there is nobody. -/
theorem Listed.occupant?_inserted {seated : Occupant β} (hl : h.Listed)
    (hi : Inserted h seated (.ok (other, h'))) :
    h'.occupant? other = some seated ∧
      ∀ ⦃id : SessionId⦄ ⦃o : Occupant β⦄, h.occupant? id = some o → h'.occupant? id = some o := by
  cases hi with
  | @reused index free slot hf hs =>
    refine ⟨(occupant?_set hs _).trans (by simp), fun id o ho => ?_⟩
    have hfree : index ∈ h.free := hf ▸ List.mem_cons_self
    refine (occupant?_set hs _).trans ((if_neg fun he => ?_).trans ho)
    exact hl.not_mem_free ho (UInt32.toNat_inj.mp he ▸ hfree)
  | appended hf hlt =>
    have hindex : (UInt32.ofNat h.slots.length).toNat = h.slots.length :=
      UInt32.toNat_ofNat_of_lt hlt
    refine ⟨?_, fun id o ho => ?_⟩
    · rw [occupant?_eq_some_iff, hindex]
      exact List.getElem?_concat_length
    · have hslot := occupant?_eq_some_iff.mp ho
      obtain ⟨hi, -⟩ := List.getElem?_eq_some_iff.mp hslot
      rw [occupant?_eq_some_iff, List.getElem?_append_left hi]
      exact hslot

end Frame

section Calls

variable [Device β] {w : ω} {h h' : Host ω β} {id : SessionId} {o : Occupant β}

/-- A create leaves the sessions that there are in place. -/
theorem Created.occupant?_of_some {reference : String} {outcome : Outcome SessionError SessionId}
    {events : List Event} (hc : Created w h reference (outcome, h', events)) (hb : h.Balanced [])
    (ho : h.occupant? id = some o) : h'.occupant? id = some o := by
  have hundone (hnone : ∀ id, outcome ≠ .ok id) : h'.occupant? id = some o := by
    obtain ⟨_, rfl⟩ := hc.undone hnone hb.names
    exact ho
  cases hc with
  | created hp ha hl hi =>
    have hkeep := (((hb.acquired ha).counted _).toListed.occupant?_inserted hi).2
    obtain ⟨-, rfl⟩ := ha.eq_setLive
    exact hkeep ho
  | unparsed => exact ho
  | unacquired _ hnone | unopened _ _ _ hnone | full _ _ _ _ _ hnone => exact hundone hnone

theorem created_of_ok {reference : String} (hid : (h.create w reference).1 = .ok id) :
    Created w h reference (.ok id, (h.create w reference).2) := by
  rw [← hid]
  exact h.create_created w reference

/-- A session that is created is fresh, over a backend that its family made. -/
theorem Created.occupant?_created {reference : String} {events : List Event}
    (hc : Created w h reference (.ok id, h', events)) (hb : h.Balanced []) :
    ∃ parsed r backend serial, Reference.parse reference = .ok parsed ∧
      h.registration? parsed.scheme.name = some r ∧
      (r.family.load w parsed.config).1 = .ok backend ∧
      h'.occupant? id = some ⟨.fresh backend, false, parsed.scheme.name, serial⟩ := by
  cases hc with
  | unacquired _ hnone | unopened _ _ _ hnone | full _ _ _ _ _ hnone => exact absurd rfl (hnone id)
  | @created parsed r h₁ _ _ _ backend _ hp ha hl hi =>
    have hnew := (((hb.acquired ha).counted _).toListed.occupant?_inserted hi).1
    exact ⟨parsed, r, backend, h₁.opened, hp, ha.eq_setLive.1, congrArg Prod.fst hl, hnew⟩

theorem Destroyed.occupant?_of_ne {other : SessionId} {outcome : Outcome Empty Bool}
    {events : List Event} (hd : Destroyed w h other (outcome, h', events))
    (ho : h.occupant? id = some o) (hne : other ≠ id) : h'.occupant? id = some o := by
  cases hd with
  | unknown => exact ho
  | destroyed ho' hr =>
    rw [occupant?_congr hr.slots]
    exact occupant?_vacate_of_ne ho ho' hne

/-- The action that a call makes on the session of an id. -/
def Call.actionOn (id : SessionId) : Call ω β → Option (Session.Action β)
  | .act other action => if other = id then some action else none
  | _ => none

omit [Device β] in
theorem Call.actionOn_eq_some_iff {call : Call ω β} {action : Session.Action β} :
    call.actionOn id = some action ↔ call = .act id action := by
  cases call with
  | act other action' =>
    by_cases he : other = id <;> simp [Call.actionOn, he]
  | create | destroy | register => simp [Call.actionOn]

/-- The actions of a run on the session of an id. -/
def actionsOn (id : SessionId) (calls : List (ω × Call ω β)) : List (Session.Action β) :=
  calls.filterMap fun made => made.2.actionOn id

/-- How the actions on the session of an id ended. -/
def answersTo (id : SessionId) (past : List (Call ω β × Outcome SessionError Reply)) :
    List (Outcome SessionError Reply) :=
  (past.filter fun made => (made.1.actionOn id).isSome).map Prod.snd

/-- A call that is not made with an id leaves its session in place. -/
theorem occupant?_perform (hb : h.Balanced []) (ho : h.occupant? id = some o) {call : Call ω β}
    (hdestroy : call ≠ .destroy id) (hact : call.actionOn id = none) :
    (h.perform w call).2.1.occupant? id = some o := by
  cases call with
  | create reference => exact (h.create_created w reference).occupant?_of_some hb ho
  | destroy other =>
    exact (h.destroy_destroyed w other).occupant?_of_ne ho fun he => hdestroy (he ▸ rfl)
  | act other action =>
    have hne : other ≠ id := by
      intro he
      simp [Call.actionOn, he] at hact
    exact (h.withSession_called other action).occupant?_of_ne ho hne
  | register family =>
    have hr := h.register_registered family
    simp only [perform]
    cases hreg : h.register family with
    | error e => exact ho
    | ok h' =>
      rw [hreg] at hr
      cases hr <;> exact ho

/-- While a session is not destroyed, a run does to it what its own actions do. -/
theorem run_of_occupant (calls : List (ω × Call ω β)) (hb : h.Balanced [])
    (ho : h.occupant? id = some o) (hkept : ∀ made ∈ calls, made.2 ≠ .destroy id) :
    answersTo id (h.history calls) =
        (o.actAll (actionsOn id calls)).1.map (Outcome.map .acted) ∧
      (h.run calls).2.1.occupant? id = some (o.actAll (actionsOn id calls)).2 := by
  induction calls generalizing h o with
  | nil => exact ⟨rfl, ho⟩
  | cons made rest ih =>
    obtain ⟨w, call⟩ := made
    obtain ⟨hfirst, hrest⟩ := List.forall_mem_cons.mp hkept
    have hb' := hb.perform w h call
    have hhistory : h.history ((w, call) :: rest) =
        (call, (h.perform w call).1) :: (h.perform w call).2.1.history rest := rfl
    have hrun : (h.run ((w, call) :: rest)).2.1 = ((h.perform w call).2.1.run rest).2.1 := rfl
    rw [hhistory, hrun]
    cases hact : call.actionOn id with
    | none =>
      -- the call is made with another id, or with none
      have hskip := ih hb' (occupant?_perform hb ho hfirst hact) hrest
      simpa [answersTo, actionsOn, hact] using hskip
    | some action =>
      obtain rfl := Call.actionOn_eq_some_iff.mp hact
      have hperform : h.perform w (.act id action) =
          ((o.act action).1.map .acted, h.seat id (o.act action).2, []) := by
        simp only [perform, withSession_eq ho]
      have hseated : (h.perform w (.act id action)).2.1.occupant? id = some (o.act action).2 := by
        rw [hperform]
        exact occupant?_seat ho
      have hnext := ih hb' hseated hrest
      rw [hperform] at hnext ⊢
      simp only [answersTo, actionsOn] at hnext
      simp [answersTo, actionsOn, Occupant.actAll, hact, hnext]

end Calls

end Host

end Decoding
