import Decoding.Proofs.Host.Occupants

/-!
Poison. The session of an id is poisoned exactly when an action on it has crashed since the id was
given out, and then nothing sees it any more: whatever is called, it stays as the crash left it
until it is destroyed, which gives back all it holds.
-/

namespace Decoding

variable {ω α β : Type}

namespace Occupant

/-- A crash poisons, and poison stays. -/
theorem poisoned_act (o : Occupant β)
    (action : Session β → Outcome SessionError α × Session β) :
    (o.act action).2.poisoned = (o.poisoned || (o.act action).1.isCrash) := by
  cases hp : o.poisoned with
  | true => simp [act_of_poisoned hp, hp]
  | false => simp [act, hp]

theorem poisoned_actAll (o : Occupant β) (actions : List (Session.Action β)) :
    (o.actAll actions).2.poisoned = (o.poisoned || (o.actAll actions).1.any Outcome.isCrash) := by
  induction actions generalizing o with
  | nil => simp [actAll]
  | cons action rest ih => simp [actAll, ih, poisoned_act, Bool.or_assoc]

end Occupant

namespace Host

section Called

variable {h : Host ω β} {id other : SessionId} {o : Occupant β}

theorem withSession_of_poisoned (ho : h.occupant? id = some o) (hp : o.poisoned)
    (action : Session β → Outcome SessionError α × Session β) :
    h.withSession id action = (.error .poisoned, h) := by
  rw [withSession_eq ho, Occupant.act_of_poisoned hp, seat_self ho]

/-- Calls are refused without being made if and only if the session is poisoned. -/
theorem refused_iff_poisoned (ho : h.occupant? id = some o) :
    (∀ (α : Type) (action : Session β → Outcome SessionError α × Session β),
      h.withSession id action = (.error .poisoned, h)) ↔ o.poisoned = true := by
  constructor
  · intro hrefused
    cases hp : o.poisoned with
    | true => rfl
    | false =>
      -- A call that gives its unit back tells the two apart.
      have hunit := congrArg Prod.fst (hrefused Unit fun s => (.ok (), s))
      rw [withSession_of_some ho, hp] at hunit
      cases hunit
  · intro hp α action
    exact withSession_of_poisoned ho hp action

/-- Calls on a session leave the others as they are. -/
theorem occupant?_withSession_of_ne (ho : h.occupant? id = some o) (hne : other ≠ id)
    (action : Session β → Outcome SessionError α × Session β) :
    (h.withSession other action).2.occupant? id = h.occupant? id :=
  ((h.withSession_called other action).occupant?_of_ne ho hne).trans ho.symm

end Called

section History

variable [Device β]

theorem history_cons (h : Host ω β) (w : ω) (call : Call ω β) (rest : List (ω × Call ω β)) :
    h.history ((w, call) :: rest) =
      (call, (h.perform w call).1) :: (h.perform w call).2.1.history rest := rfl

theorem run_append (h : Host ω β) (calls more : List (ω × Call ω β)) :
    (h.run (calls ++ more)).2.1 = ((h.run calls).2.1.run more).2.1 := by
  induction calls generalizing h with
  | nil => rfl
  | cons made rest ih => exact ih (h.perform made.1 made.2).2.1

/-- What was called is what the history says. -/
theorem mem_history_of_mem (h : Host ω β) {calls : List (ω × Call ω β)} {made : ω × Call ω β}
    (hmade : made ∈ calls) : ∃ outcome, (made.2, outcome) ∈ h.history calls := by
  induction calls generalizing h with
  | nil => cases hmade
  | cons first rest ih =>
    obtain ⟨w, call⟩ := first
    rw [history_cons]
    rcases List.mem_cons.mp hmade with rfl | hrest
    · exact ⟨_, List.mem_cons_self⟩
    · obtain ⟨outcome, hmem⟩ := ih (h.perform w call).2.1 hrest
      exact ⟨outcome, List.mem_cons_of_mem _ hmem⟩

/-- An entry of the history is a call that was made between two runs. -/
theorem exists_of_history_eq {h : Host ω β} {calls : List (ω × Call ω β)}
    {before after : List (Call ω β × Outcome SessionError Reply)}
    {made : Call ω β × Outcome SessionError Reply}
    (hpast : h.history calls = before ++ made :: after) :
    ∃ first w rest, calls = first ++ (w, made.1) :: rest ∧
      made.2 = ((h.run first).2.1.perform w made.1).1 ∧
      after = ((h.run first).2.1.perform w made.1).2.1.history rest := by
  -- The entries before and the calls before are taken off together.
  induction before generalizing h calls with
  | nil =>
    cases calls with
    | nil => cases hpast
    | cons first rest =>
      obtain ⟨w, call⟩ := first
      rw [history_cons, List.nil_append, List.cons.injEq] at hpast
      obtain ⟨rfl, rfl⟩ := hpast
      exact ⟨[], w, rest, rfl, rfl, rfl⟩
  | cons entry before ih =>
    cases calls with
    | nil => cases hpast
    | cons first rest =>
      obtain ⟨w, call⟩ := first
      rw [history_cons, List.cons_append, List.cons.injEq] at hpast
      obtain ⟨first, w', rest', rfl, houtcome, hafter⟩ := ih hpast.2
      exact ⟨(w, call) :: first, w', rest', rfl, houtcome, hafter⟩

/-- An action on the session of an id has crashed since the id was given out, and the session has
not been destroyed since. -/
def Crashed (past : List (Call ω β × Outcome SessionError Reply)) (id : SessionId) : Prop :=
  ∃ before reference after, past = before ++ (.create reference, .ok (.created id)) :: after ∧
    (∀ made ∈ after, made.1 ≠ .destroy id) ∧
    ∃ action text, (.act id action, .crash text) ∈ after

omit [Device β] in
theorem any_isCrash_answersTo (id : SessionId)
    (past : List (Call ω β × Outcome SessionError Reply)) :
    (answersTo id past).any Outcome.isCrash = true ↔
      ∃ action text, (.act id action, .crash text) ∈ past := by
  constructor
  · intro hany
    obtain ⟨outcome, hmem, hcrash⟩ := List.any_eq_true.mp hany
    obtain ⟨⟨call, _⟩, hmade, rfl⟩ := List.mem_map.mp hmem
    obtain ⟨hpast, hown⟩ := List.mem_filter.mp hmade
    obtain ⟨action, haction⟩ := Option.isSome_iff_exists.mp hown
    obtain rfl := Call.actionOn_eq_some_iff.mp haction
    obtain ⟨text, rfl⟩ := Outcome.isCrash_iff.mp hcrash
    exact ⟨action, text, hpast⟩
  · rintro ⟨action, text, hpast⟩
    have hown : (Call.act id action : Call ω β).actionOn id = some action :=
      Call.actionOn_eq_some_iff.mpr rfl
    refine List.any_eq_true.mpr
      ⟨.crash text, List.mem_map.mpr ⟨(.act id action, .crash text), ?_, rfl⟩, rfl⟩
    exact List.mem_filter.mpr ⟨hpast, by simp [hown]⟩

variable {h₀ : Host ω β} {id : SessionId}

/-- From the create that gave out its id, a session is poisoned by a crash and by nothing else. -/
theorem New.poisoned_iff (hnew : h₀.New) {calls : List (ω × Call ω β)} {reference : String}
    {before after : List (Call ω β × Outcome SessionError Reply)}
    (hpast : h₀.history calls = before ++ (.create reference, .ok (.created id)) :: after)
    (hkept : ∀ made ∈ after, made.1 ≠ .destroy id) :
    ∃ o, (h₀.run calls).2.1.occupant? id = some o ∧
      (o.poisoned = true ↔ ∃ action text, (.act id action, .crash text) ∈ after) := by
  obtain ⟨first, w, rest, rfl, houtcome, rfl⟩ := exists_of_history_eq hpast
  have hb : ((h₀.run first).2.1).Balanced [] := run_keeps Balanced.perform first hnew.balanced
  have hcreate : ((h₀.run first).2.1.create w reference).1 = .ok id := by
    simp only [perform] at houtcome
    cases hc : ((h₀.run first).2.1.create w reference).1 with
    | ok id' =>
      rw [hc] at houtcome
      cases houtcome
      rfl
    | error | crash =>
      rw [hc] at houtcome
      cases houtcome
  obtain ⟨_, _, _, _, -, -, -, ho⟩ := (created_of_ok hcreate).occupant?_created hb
  -- From here on the fresh occupant goes its own way.
  have hrest : ∀ made ∈ rest, made.2 ≠ .destroy id := by
    intro made hmade
    obtain ⟨outcome, hmem⟩ := mem_history_of_mem _ hmade
    exact hkept _ hmem
  obtain ⟨hanswers, ho'⟩ := run_of_occupant rest (hb.perform w _ (.create reference)) ho hrest
  rw [run_append]
  refine ⟨_, ho', ?_⟩
  rw [Occupant.poisoned_actAll, Bool.false_or, ← any_isCrash_answersTo, hanswers, List.any_map]
  simp [Function.comp_def]

/-- A session that its id still stands for is poisoned if and only if it has crashed. -/
theorem New.poisoned_iff_crashed (hnew : h₀.New) {calls : List (ω × Call ω β)}
    (hlive : Live (h₀.history calls) id) :
    ∃ o, (h₀.run calls).2.1.occupant? id = some o ∧
      (o.poisoned = true ↔ Crashed (h₀.history calls) id) := by
  obtain ⟨before, reference, after, hpast, hkept⟩ := hlive
  obtain ⟨o, ho, hpoisoned⟩ := hnew.poisoned_iff hpast hkept
  refine ⟨o, ho, ?_, ?_⟩
  · intro hp
    exact ⟨before, reference, after, hpast, hkept, hpoisoned.mp hp⟩
  · rintro ⟨before', reference', after', hpast', hkept', hcrash⟩
    obtain ⟨o', ho', hpoisoned'⟩ := hnew.poisoned_iff hpast' hkept'
    obtain rfl := Option.some.inj (ho.symm.trans ho')
    exact hpoisoned'.mpr hcrash

end History

section Destroy

variable [Device β] {w : ω} {h h' : Host ω β} {id : SessionId} {o : Occupant β}

/-- What the session of an id held has been given back: its backend, and its place in the count of
its family. The id stands for nobody. -/
def GivenBack (h : Host ω β) (id : SessionId) (h' : Host ω β) (events : List Event) : Prop :=
  (∃ o, h.occupant? id = some o ∧ .released o.serial ∈ events ∧
    ∀ name, h.refcount name = h'.refcount name + if o.family = name then 1 else 0) ∧
  h'.occupant? id = none

theorem Destroyed.givenBack {outcome : Outcome Empty Bool} {events : List Event}
    (hd : Destroyed w h id (outcome, h', events)) (hb : h.Balanced [])
    (ho : h.occupant? id = some o) : GivenBack h id h' events := by
  refine ⟨⟨o, ho, ?_, hb.refcount_destroyed hd ho⟩, ?_⟩
  · cases hd with
    | unknown hn =>
      rw [ho] at hn
      cases hn
    | destroyed ho' hr =>
      obtain rfl := Option.some.inj (ho.symm.trans ho')
      simp [giveUp]
  · cases hd with
    | unknown hn => exact hn
    | destroyed ho' hr =>
      rw [occupant?_congr hr.slots, vacate]
      exact (occupant?_set (occupant?_eq_some_iff.mp ho') _).trans (by simp)

/-- Only the teardown of its own family can keep a destroy from answering. -/
theorem Destroyed.ok_of_quiet {outcome : Outcome Empty Bool} {events : List Event}
    (hd : Destroyed w h id (outcome, h', events)) (ho : h.occupant? id = some o)
    (hquiet : ∀ r, h.registration? o.family = some r → (r.family.teardown w).1 = .ok ()) :
    outcome = .ok true := by
  cases hd with
  | unknown hn =>
    rw [ho] at hn
    cases hn
  | destroyed ho' hr =>
    obtain rfl := Option.some.inj (ho.symm.trans ho')
    cases hr with
    | unknown | kept => rfl
    | last hreg hl ht =>
      have hok := hquiet _ hreg
      rw [ht] at hok
      cases hok
      rfl

end Destroy

end Host

end Decoding
