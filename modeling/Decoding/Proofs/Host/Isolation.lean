import Decoding.Proofs.Host.Occupants

/-!
Sessions of one host do not touch one another. What happens through an id, from the create that
gave it out to its destroy, is what happens to one session that is run alone with the calls made
with that id.
-/

namespace Decoding

variable {ω α β : Type}

theorem Family.load_map_eq_ok {embed : α → β} {family : Family ω α} {w : ω} {c : Config}
    {backend : β} (h : ((family.map embed).load w c).1 = .ok backend) :
    ∃ a, (family.load w c).1 = .ok a ∧ embed a = backend := by
  simp only [Family.map] at h
  cases hl : (family.load w c).1 with
  | ok a =>
    rw [hl] at h
    exact ⟨a, rfl, Outcome.ok.inj h⟩
  | error | crash =>
    rw [hl] at h
    cases h

namespace Session

/-- Let actions follow one another on a session, and collect how they end. -/
def actAll (s : Session β) : List (Action β) → List (Outcome SessionError Reply) × Session β
  | [] => ([], s)
  | action :: rest =>
    let (outcome, s) := action s
    let (outcomes, s) := actAll s rest
    (outcome :: outcomes, s)

/-- Calls that are given as data are run one after another. -/
theorem actAll_perform [Device β] [Backend ω β] (s : Session β) (calls : List (ω × Call)) :
    s.actAll (calls.map fun made s => s.perform made.1 made.2) = s.run calls := by
  induction calls generalizing s with
  | nil => rfl
  | cons made rest ih =>
    simp only [List.map_cons, actAll, run, ih]

end Session

namespace Occupant

variable {o : Occupant β}

/-- An occupant goes with its session up to the first crash, that call included. -/
theorem actAll_of_sound (hp : o.poisoned = false) (actions : List (Session.Action β)) :
    let ran := (o.session.actAll actions).1
    let reached := ran.findIdx Outcome.isCrash + 1
    o.actAll actions =
      (ran.take reached ++ List.replicate (actions.length - reached) (.error .poisoned),
        { o with
          session := (o.session.actAll (actions.take reached)).2
          poisoned := ran.any Outcome.isCrash }) := by
  induction actions generalizing o with
  | nil =>
    obtain ⟨session, poisoned, family, serial⟩ := o
    cases hp
    rfl
  | cons action rest ih =>
    cases hc : action o.session with
    | mk outcome s =>
      have hact : o.act action =
          (outcome, { o with session := s, poisoned := outcome.isCrash }) := by
        simp [act, hp, hc]
      cases hcrash : outcome.isCrash with
      | true =>
        rw [hcrash] at hact
        simp [actAll, hact, Session.actAll, hc, List.findIdx_cons, hcrash, actAll_of_poisoned]
      | false =>
        rw [hcrash] at hact
        have hrest := ih (o := { o with session := s, poisoned := false }) rfl
        simp only at hrest
        simp [actAll, hact, Session.actAll, hc, List.findIdx_cons, hcrash, hrest]

end Occupant

namespace Host

section Families

variable [Device β] {w : ω} {h h' : Host ω β} {id : SessionId}

omit [Device β] in
/-- Counting sessions does not change which families there are. -/
theorem families_setLive (h : Host ω β) (name : String) (live : Nat) :
    (h.setLive name live).families.map (·.family) = h.families.map (·.family) :=
  map_setLive _ fun _ _ => rfl

theorem Created.families {reference : String} {outcome : Outcome SessionError SessionId}
    {events : List Event} (hc : Created w h reference (outcome, h', events)) (hb : h.Balanced []) :
    h'.families.map (·.family) = h.families.map (·.family) := by
  have hundone (hnone : ∀ id, outcome ≠ .ok id) :
      h'.families.map (·.family) = h.families.map (·.family) := by
    obtain ⟨_, rfl⟩ := hc.undone hnone hb.names
    rfl
  cases hc with
  | created hp ha hl hi =>
    obtain ⟨-, rfl⟩ := ha.eq_setLive
    rw [hi.kept.1]
    exact families_setLive ..
  | unparsed => rfl
  | unacquired _ hnone | unopened _ _ _ hnone | full _ _ _ _ _ hnone => exact hundone hnone

theorem Destroyed.families {outcome : Outcome Empty Bool} {events : List Event}
    (hd : Destroyed w h id (outcome, h', events)) :
    h'.families.map (·.family) = h.families.map (·.family) := by
  cases hd with
  | unknown => rfl
  | destroyed ho hr =>
    cases hr with
    | unknown => rfl
    | last | kept => exact families_setLive ..

/-- Only a registration changes which families there are. -/
theorem families_perform (hb : h.Balanced []) {call : Call ω β}
    (hcall : ∀ family, call ≠ .register family) :
    (h.perform w call).2.1.families.map (·.family) = h.families.map (·.family) := by
  cases call with
  | create reference => exact (h.create_created w reference).families hb
  | destroy id => exact (h.destroy_destroyed w id).families
  | act id action =>
    have hc := h.withSession_called id action
    simp only [perform]
    generalize h.withSession id action = result at hc ⊢
    cases hc <;> rfl
  | register family => exact absurd rfl (hcall family)

theorem families_run (calls : List (ω × Call ω β)) (hb : h.Balanced [])
    (hcalls : ∀ made ∈ calls, ∀ family, made.2 ≠ .register family) :
    (h.run calls).2.1.families.map (·.family) = h.families.map (·.family) := by
  induction calls generalizing h with
  | nil => rfl
  | cons made rest ih =>
    obtain ⟨hfirst, hrest⟩ := List.forall_mem_cons.mp hcalls
    exact (ih (hb.perform made.1 h made.2) hrest).trans (families_perform hb hfirst)

end Families

section Isolation

variable [Device β]

/-- The families of a host are the two of stubs, with their backends put into another type. -/
def KnowsStubs (embed : Stub → β) (h : Host ω β) : Prop :=
  h.families.map (·.family) = [Family.deterministic.map embed, Family.fixed.map embed]

variable {embed : Stub → β} {w : ω} {h h' : Host ω β} {id : SessionId}

omit [Device β] in
theorem KnowsStubs.family_mem (hk : KnowsStubs embed h) {r : Registration ω β}
    (hr : r ∈ h.families) :
    ∃ family ∈ [Family.deterministic, Family.fixed], r.family = family.map embed := by
  have hmem := List.mem_map_of_mem (f := (·.family)) hr
  rw [hk] at hmem
  simpa using hmem

theorem KnowsStubs.run (hk : KnowsStubs embed h) (hb : h.Balanced []) {calls : List (ω × Call ω β)}
    (hcalls : ∀ made ∈ calls, ∀ family, made.2 ≠ .register family) :
    KnowsStubs embed (h.run calls).2.1 :=
  (families_run calls hb hcalls).trans hk

theorem KnowsStubs.created {reference : String} {outcome : Outcome SessionError SessionId}
    {events : List Event} (hk : KnowsStubs embed h) (hb : h.Balanced [])
    (hc : Created w h reference (outcome, h', events)) : KnowsStubs embed h' :=
  (hc.families hb).trans hk

/-- The session that a reference creates is over a fresh stub of its configuration. -/
theorem KnowsStubs.occupant?_created {reference : String} {events : List Event}
    (hk : KnowsStubs embed h) (hb : h.Balanced [])
    (hc : Created w h reference (.ok id, h', events)) :
    ∃ (parsed : Reference) (family : Family ω Stub) (backend : Stub) (serial : Nat),
      Reference.parse reference = .ok parsed ∧
      family ∈ [Family.deterministic, Family.fixed] ∧ family.name = parsed.scheme.name ∧
      (family.load w parsed.config).1 = .ok backend ∧
      h'.occupant? id = some ⟨.fresh (embed backend), false, parsed.scheme.name, serial⟩ := by
  obtain ⟨parsed, r, backend, serial, hp, hr, hload, ho⟩ := hc.occupant?_created hb
  obtain ⟨family, hmem, hfamily⟩ := hk.family_mem (mem_of_registration? hr)
  have hname := name_of_registration? hr
  rw [hfamily] at hload hname
  obtain ⟨stub, hstub, rfl⟩ := Family.load_map_eq_ok hload
  exact ⟨parsed, family, stub, serial, hp, hmem, hname, hstub, ho⟩

/-- Stubs are torn down without a crash. -/
theorem KnowsStubs.destroy_eq_ok {o : Occupant β} (hk : KnowsStubs embed h)
    (ho : h.occupant? id = some o) (w : ω) : (h.destroy w id).1 = .ok true := by
  apply ((h.destroy_destroyed w id).of_some ho).2
  intro r hr
  obtain ⟨family, hmem, hfamily⟩ := hk.family_mem hr
  rw [hfamily]
  rcases List.mem_pair.mp hmem with rfl | rfl <;> rfl

/-- Let a host that knows the two families of stubs be run with any creates, destroys and actions on
sessions, and let one of these creates give out an id. Then the family that its reference names
opens a backend with the configuration of the reference, and until the id is destroyed, whatever
else happens on the host, the answers to the actions made with the id are those of the same actions
on a fresh session over this backend that is alone, up to its first crash, that one included, and
after it all refuse a poisoned session. The session is the one that is left behind by the actions
up to there. It can be destroyed at any time. -/
theorem sessions_isolated (embed : Stub → β) (before after : List (ω × Call ω β)) (w : ω)
    (reference : String) {id : SessionId}
    (hfamilies : ∀ made ∈ before ++ after, ∀ family, made.2 ≠ .register family)
    (hid : (((standard embed).run before).2.1.create w reference).1 = .ok id)
    (hkept : ∀ made ∈ after, made.2 ≠ .destroy id) :
    let created := (((standard embed).run before).2.1.create w reference).2.1
    ∃ (parsed : Reference) (family : Family ω Stub) (backend : Stub),
      Reference.parse reference = .ok parsed ∧
      family ∈ [Family.deterministic, Family.fixed] ∧ family.name = parsed.scheme.name ∧
      (family.load w parsed.config).1 = .ok backend ∧
      let alone := Session.fresh (embed backend)
      let own := actionsOn id after
      let ran := (alone.actAll own).1
      let reached := ran.findIdx Outcome.isCrash + 1
      answersTo id (created.history after) =
          (ran.take reached ++
            List.replicate (own.length - reached) (Outcome.error SessionError.poisoned)).map
              (Outcome.map .acted) ∧
        (∃ o : Occupant β, (created.run after).2.1.occupant? id = some o ∧
          o.session = (alone.actAll (own.take reached)).2 ∧
          o.poisoned = ran.any Outcome.isCrash) ∧
        ∀ w' : ω, ((created.run after).2.1.destroy w' id).1 = .ok true := by
  intro created
  have hnew : (standard embed : Host ω β).Balanced [] := (New.standard embed).balanced
  have hknows : KnowsStubs embed (standard embed : Host ω β) := rfl
  have hb := run_keeps Balanced.perform before hnew
  have hk := hknows.run hnew fun made hmade => hfamilies made (List.mem_append_left _ hmade)
  have hcreated := created_of_ok hid
  have hb' := hb.created hcreated
  have hk' := (hk.created hb hcreated).run hb' fun made hmade =>
    hfamilies made (List.mem_append_right _ hmade)
  obtain ⟨parsed, family, backend, serial, hp, hmem, hname, hload, ho⟩ :=
    hk.occupant?_created hb hcreated
  obtain ⟨hanswers, ho'⟩ := run_of_occupant after hb' ho hkept
  rw [Occupant.actAll_of_sound rfl] at hanswers ho'
  exact ⟨parsed, family, backend, hp, hmem, hname, hload, hanswers, ⟨_, ho', rfl, rfl⟩,
    hk'.destroy_eq_ok ho'⟩

end Isolation

/-- Of two sessions one is poisoned and the other one destroyed. -/
def forerunners : List (Unit × Call Unit Stub) :=
  [((), .create "deterministic:m?vocab=4"), ((), .create "deterministic:m?vocab=4"),
    ((), .act ⟨1, 1⟩ fun s => s.perform () (.crash "lost")), ((), .destroy ⟨0, 1⟩)]

/-- Calls on the session that took the free slot, among others with ids that are stale, poisoned
or new. -/
def crowd : List (Unit × Call Unit Stub) :=
  [((), .act ⟨0, 1⟩ fun s => s.perform () (.step [3])),
    ((), .act ⟨0, 2⟩ fun s => s.perform () (.step [1, 2])),
    ((), .act ⟨1, 1⟩ fun s => s.perform () (.rollback 1)),
    ((), .create "deterministic:m?vocab=4"),
    ((), .act ⟨0, 2⟩ fun s => s.perform () .snapshotSize),
    ((), .destroy ⟨1, 1⟩),
    ((), .act ⟨0, 2⟩ fun s => s.perform () (.crash "lost")),
    ((), .act ⟨0, 2⟩ fun s => s.perform () (.rollback 1))]

/-- The calls among them on that session. -/
def ownCalls : List (Unit × Session.Call) :=
  [((), .step [1, 2]), ((), .snapshotSize), ((), .crash "lost"), ((), .rollback 1)]

theorem sessions_isolated_crowd :
    let created := (((standard id).run forerunners).2.1.create () "deterministic:m?vocab=4").2.1
    let alone : Session Stub := .fresh (.deterministic { model := "m", vocab := 4 })
    answersTo ⟨0, 2⟩ (created.history crowd) =
        ((alone.run ownCalls).1.take 3 ++ [Outcome.error SessionError.poisoned]).map
          (Outcome.map .acted) ∧
      (alone.run ownCalls).1.take 3 = [.ok (.count 2), .ok (.count 28), .crash "lost"] ∧
      ((created.run crowd).2.1.destroy () ⟨0, 2⟩).1 = .ok true := by
  have hid : (((standard id).run forerunners).2.1.create () "deterministic:m?vocab=4").1 =
      .ok ⟨0, 2⟩ := by cbv
  obtain ⟨parsed, family, backend, hp, hmem, hname, hload, hanswers, -, hdestroy⟩ :=
    sessions_isolated id forerunners crowd () "deterministic:m?vocab=4"
      (by simp [forerunners, crowd]) hid (by simp [crowd])
  refine ⟨?_, rfl, hdestroy ()⟩
  have hparsed : Reference.parse "deterministic:m?vocab=4" =
      .ok ⟨.deterministic, { model := "m", vocab := 4 }⟩ := by cbv
  have hown : actionsOn ⟨0, 2⟩ crowd = ownCalls.map fun made s => s.perform made.1 made.2 := rfl
  rw [hparsed] at hp
  cases hp
  rcases List.mem_pair.mp hmem with rfl | rfl
  · have hopened : (Family.deterministic.load () { model := "m", vocab := 4 }).1 =
        .ok (Stub.deterministic { model := "m", vocab := 4 }) := by cbv
    rw [hopened] at hload
    cases hload
    rw [hown, Session.actAll_perform] at hanswers
    exact hanswers
  · exact absurd hname (by decide)

end Host

end Decoding
