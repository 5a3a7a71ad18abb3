import Decoding.Proofs.Backend.Contract
import Decoding.Proofs.Host.Isolation
import Decoding.Proofs.Session.Embedding

/-!
The sessions that come from references. The families of stubs and those of engines check the
configuration and open a backend with an empty context, and whatever happens on a host, a session
that is only called is one that these calls lead to from the fresh one.
-/

namespace Decoding

variable {ω β : Type} [Device β] [Backend ω β]

namespace Family

/-- One of the two families of stubs. Its backends are put into `β` so that each of them answers as
its stub does. -/
def OfStubs (family : Family ω β) : Prop :=
  ∃ embed : Stub → β, Backend.Embeds ω embed ∧
    (family = Family.deterministic.map embed ∨ family = Family.fixed.map embed)

/-- The family of a factory of engines, whichever engines these are and wherever their models come
from. -/
def OfEngines (family : Family ω β) : Prop :=
  ∃ (ε : Type) (_ : Engine ω ε) (embed : EngineBackend ε → β) (files : ω → FileTable)
    (factory : EngineFactory ω ε), Backend.Embeds ω embed ∧
      family = (factory.family files).map embed

variable {family : Family ω β} {w : ω} {c : Config} {b : β}

omit [Device β] [Backend ω β] in
theorem valid_of_plain {name : String} {make : Config → Outcome BackendError β}
    (h : ((plain name make).load w c).1 = .ok b) : c.Valid ∧ make c = .ok b := by
  simp only [plain] at h
  split at h
  · exact ⟨Config.validate_eq_ok_iff.mp (by assumption), h⟩
  · cases h

theorem OfStubs.exists_of_load (hf : family.OfStubs) (h : (family.load w c).1 = .ok b) :
    c.Valid ∧ ∃ (embed : Stub → β) (stub : Stub), Backend.Embeds ω embed ∧
      (stub = .deterministic c ∨ Stub.fixed c = .ok stub) ∧ b = embed stub := by
  obtain ⟨embed, hembed, rfl | rfl⟩ := hf
  · obtain ⟨stub, hstub, rfl⟩ := load_map_eq_ok h
    obtain ⟨hc, hmade⟩ := valid_of_plain hstub
    exact ⟨hc, embed, stub, hembed, .inl (Outcome.ok.inj hmade).symm, rfl⟩
  · obtain ⟨stub, hstub, rfl⟩ := load_map_eq_ok h
    obtain ⟨hc, hmade⟩ := valid_of_plain hstub
    exact ⟨hc, embed, stub, hembed, .inr hmade, rfl⟩

theorem OfEngines.exists_of_load (hf : family.OfEngines) (h : (family.load w c).1 = .ok b) :
    c.Valid ∧ ∃ (ε : Type) (_ : Engine ω ε) (embed : EngineBackend ε → β) (engine : ε),
      Backend.Embeds ω embed ∧ b = embed (.fresh engine c.window) := by
  obtain ⟨ε, hε, embed, files, factory, hembed, rfl⟩ := hf
  obtain ⟨backend, hbackend, rfl⟩ := load_map_eq_ok h
  simp only [EngineFactory.family] at hbackend
  split at hbackend
  · cases hbackend
  · rename_i hc
    split at hbackend
    · cases hbackend
    · obtain ⟨engine, -, rfl⟩ := Outcome.map_eq_ok_iff.mp hbackend
      exact ⟨Config.validate_eq_ok_iff.mp hc, ε, hε, embed, engine, hembed, rfl⟩

end Family

/-- An action that does nothing with a session but make calls, which may depend on their answers. -/
def Session.Action.MakesCalls (ω : Type) {β : Type} [Device β] [Backend ω β]
    (action : Session.Action β) : Prop :=
  ∀ s, ∃ calls : List (ω × Session.Call), (action s).2 = (s.run calls).2

theorem Session.makesCalls_perform (w : ω) (call : Session.Call) :
    Action.MakesCalls ω fun s : Session β => s.perform w call :=
  fun _ => ⟨[(w, call)], rfl⟩

/-- Calls lead an occupant's session to one that the session leads to when it is called. -/
theorem Occupant.exists_run_actAll {o : Occupant β} {actions : List (Session.Action β)}
    (h : ∀ action ∈ actions, action.MakesCalls ω) :
    ∃ calls : List (ω × Session.Call), (o.actAll actions).2.session = (o.session.run calls).2 := by
  induction actions generalizing o with
  | nil => exact ⟨[], rfl⟩
  | cons action rest ih =>
    obtain ⟨hfirst, hrest⟩ := List.forall_mem_cons.mp h
    obtain ⟨more, hmore⟩ := ih (o := (o.act action).2) hrest
    cases hp : o.poisoned with
    | true =>
      rw [act_of_poisoned hp] at hmore
      refine ⟨more, ?_⟩
      simp only [actAll, act_of_poisoned hp]
      exact hmore
    | false =>
      obtain ⟨calls, hcalls⟩ := hfirst o.session
      have hact : (o.act action).2.session = (o.session.run calls).2 := by
        simp only [act, hp, Bool.false_eq_true, if_false]
        exact hcalls
      refine ⟨calls ++ more, ?_⟩
      rw [Session.run_append, ← hact]
      exact hmore

namespace Host

/-- A session that a reference has created is fresh, over a backend of the family that the reference
names, and until its id is destroyed, calls lead it to what they lead it to alone. -/
theorem New.exists_run {h₀ : Host ω β} (hnew : h₀.New) (before after : List (ω × Call ω β)) (w : ω)
    (reference : String) {id : SessionId}
    (hid : ((h₀.run before).2.1.create w reference).1 = .ok id)
    (hkept : ∀ made ∈ after, made.2 ≠ .destroy id)
    (hcalls : ∀ made ∈ after, ∀ action, made.2 = .act id action →
      Session.Action.MakesCalls ω action) :
    ∃ parsed r backend o, Reference.parse reference = .ok parsed ∧
      (h₀.run before).2.1.registration? parsed.scheme.name = some r ∧
      (r.family.load w parsed.config).1 = .ok backend ∧
      ((((h₀.run before).2.1.create w reference).2.1).run after).2.1.occupant? id = some o ∧
      ∃ calls : List (ω × Session.Call), o.session = ((Session.fresh backend).run calls).2 := by
  have hb := run_keeps Balanced.perform before hnew.balanced
  have hcreated := created_of_ok hid
  obtain ⟨parsed, r, backend, serial, hp, hr, hload, ho⟩ := hcreated.occupant?_created hb
  obtain ⟨-, hreached⟩ := run_of_occupant after (hb.created hcreated) ho hkept
  have hactions : ∀ action ∈ actionsOn id after, action.MakesCalls ω := by
    intro action hmem
    obtain ⟨made, hmade, haction⟩ := List.mem_filterMap.mp hmem
    exact hcalls made hmade action (Call.actionOn_eq_some_iff.mp haction)
  exact ⟨parsed, r, backend, _, hp, hr, hload, hreached, Occupant.exists_run_actAll hactions⟩

/-- All that a host with the two families of stubs can open is stubs. -/
theorem KnowsStubs.ofStubs {embed : Stub → β} {h : Host ω β} {name : String}
    {r : Registration ω β} (hk : KnowsStubs embed h) (hembed : Backend.Embeds ω embed)
    (hr : h.registration? name = some r) : r.family.OfStubs := by
  obtain ⟨family, hmem, hfamily⟩ := hk.family_mem (mem_of_registration? hr)
  rcases List.mem_pair.mp hmem with rfl | rfl
  · exact ⟨embed, hembed, .inl hfamily⟩
  · exact ⟨embed, hembed, .inr hfamily⟩

end Host

end Decoding
