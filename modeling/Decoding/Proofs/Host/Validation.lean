import Decoding.Proofs.Except
import Decoding.Proofs.Host.Transitions

/-!
Families that check a configuration before they load. A host checks the settings of a reference as
it reads them, so no family finds fault with them again: it makes no difference to creating sessions
whether the families check.
-/

namespace Decoding

/-- The scheme of a reference stands in front of its text, and its settings have been checked. -/
theorem Reference.of_parse {text : String} {r : Reference} (h : parse text = .ok r) :
    r.scheme = (splitScheme (Text.trim text.toList)).1 ∧ r.config.Valid := by
  simp only [parse, read, Except.guard_eq_ok_iff, Except.bind_eq_ok_iff] at h
  obtain ⟨-, config, -, hr⟩ := h
  cases hc : config.validate with
  | error fault =>
    rw [hc] at hr
    cases hr
  | ok u =>
    rw [hc] at hr
    cases hr
    exact ⟨rfl, Config.validate_eq_ok_iff.mp hc⟩

namespace Family

variable {ω β : Type}

/-- The same family, which refuses configurations that are not valid. -/
def validating (fam : Family ω β) : Family ω β :=
  { fam with
    load := fun w c =>
      match c.validate with
      | .ok () => fam.load w c
      | .error e => (.error (.config e.message), []) }

/-- A family without process setup that makes a backend of any configuration. -/
def trusting (name : String) (make : Config → Outcome BackendError β) : Family ω β :=
  { name
    bootstrap := fun _ => (.ok (), [])
    teardown := fun _ => (.ok (), [])
    load := fun _ c => (make c, []) }

theorem plain_eq_validating (name : String) (make : Config → Outcome BackendError β) :
    (plain name make : Family ω β) = (trusting name make).validating := rfl

theorem load_validating {c : Config} (h : c.Valid) (fam : Family ω β) (w : ω) :
    fam.validating.load w c = fam.load w c := by
  have hc := Config.validate_eq_ok_iff.mpr h
  simp only [validating, hc]

/-- The stubs need no more of a configuration than that it is valid. -/
theorem exists_load_of_valid {c : Config} (h : c.Valid) (w : ω) :
    ∃ b b', deterministic.load w c = (.ok b, []) ∧ fixed.load w c = (.ok b', []) := by
  rw [deterministic, fixed, plain_eq_validating, plain_eq_validating, load_validating h,
    load_validating h]
  exact ⟨_, _, rfl, congrArg (·, []) (Stub.fixed_of_valid h)⟩

end Family

/-- The family of a factory, without the check of its configurations. -/
def EngineFactory.trusting {ω ε : Type} (files : ω → FileTable) (f : EngineFactory ω ε) :
    Family ω (EngineBackend ε) :=
  { f.family files with
    load := fun w c =>
      match ModelFile.load (files w) c.model with
      | .error e => (.error e, [])
      | .ok model =>
        let (result, log) := f.load w model c
        (result.map fun engine => .fresh engine c.window, log) }

theorem EngineFactory.family_eq_validating {ω ε : Type} (files : ω → FileTable)
    (f : EngineFactory ω ε) : f.family files = (f.trusting files).validating := by
  unfold family Family.validating trusting
  congr 1
  funext w c
  cases c.validate <;> rfl

/-- The same registration, of a family that checks. -/
def Registration.validating {ω β : Type} (r : Registration ω β) : Registration ω β :=
  { r with family := r.family.validating }

@[simp] theorem Registration.live_validating {ω β : Type} (r : Registration ω β) :
    r.validating.live = r.live := rfl

@[simp] theorem Registration.bootstrap_validating {ω β : Type} (r : Registration ω β) :
    r.validating.family.bootstrap = r.family.bootstrap := rfl

theorem Registration.load_validating {ω β : Type} {c : Config} (h : c.Valid)
    (r : Registration ω β) (w : ω) : r.validating.family.load w c = r.family.load w c :=
  Family.load_validating h r.family w

namespace Host

variable {ω β : Type} {w : ω} {h : Host ω β} {name : String}

/-- The same host with families that check. -/
def validating (h : Host ω β) : Host ω β :=
  { h with families := h.families.map Registration.validating }

theorem registration?_validating :
    h.validating.registration? name = (h.registration? name).map Registration.validating := by
  rw [registration?, validating, List.find?_map]
  rfl

theorem setLive_validating (live : Nat) :
    h.validating.setLive name live = (h.setLive name live).validating := by
  unfold setLive validating
  simp only [List.map_map]
  congr 1
  refine List.map_congr_left fun r _ => ?_
  change (if r.family.name = name then { r.validating with live } else r.validating) =
    (if r.family.name = name then { r with live } else r).validating
  split <;> rfl

theorem acquire_validating : h.validating.acquire w name =
    ((h.acquire w name).1.map Registration.validating, (h.acquire w name).2.1.validating,
      (h.acquire w name).2.2) := by
  unfold acquire
  rw [registration?_validating]
  cases h.registration? name with
  | none => rfl
  | some r =>
    simp only [Option.map_some, setLive_validating, Registration.live_validating,
      Registration.bootstrap_validating]
    split
    · obtain ⟨result, log⟩ := r.family.bootstrap w
      cases result <;> rfl
    · rfl

theorem release_validating : h.validating.release w name =
    ((h.release w name).1, (h.release w name).2.1.validating, (h.release w name).2.2) := by
  unfold release
  rw [registration?_validating]
  cases h.registration? name with
  | none => rfl
  | some r =>
    simp only [Option.map_some, setLive_validating, Registration.live_validating]
    split <;> rfl

theorem insert_validating (o : Occupant β) :
    h.validating.insert o = (h.insert o).map fun r => (r.1, r.2.validating) := by
  unfold insert validating
  cases h.free with
  | nil =>
    simp only
    split <;> rfl
  | cons index free =>
    simp only
    cases h.slots[index.toNat]? <;> rfl

theorem abandon_validating (events : List Event) (o : Outcome SessionError SessionId) :
    h.validating.abandon w name events o = ((h.abandon w name events o).1,
      (h.abandon w name events o).2.1.validating, (h.abandon w name events o).2.2) := by
  unfold abandon
  rw [release_validating]
  obtain ⟨result, h', log⟩ := h.release w name
  cases result <;> rfl

variable [Device β]

/-- Sessions are created alike whether or not the families check what they are handed. -/
theorem create_validating (text : String) : h.validating.create w text =
    ((h.create w text).1, (h.create w text).2.1.validating, (h.create w text).2.2) := by
  unfold create
  cases hp : Reference.parse text with
  | error fault => rfl
  | ok r =>
    simp only
    rw [acquire_validating]
    obtain ⟨result, h', events⟩ := h.acquire w r.scheme.name
    cases result with
    | error e => rfl
    | crash t => rfl
    | ok registration =>
      simp only [Outcome.map, Registration.load_validating (Reference.of_parse hp).2]
      obtain ⟨loaded, log⟩ := registration.family.load w r.config
      cases loaded with
      | error e => exact abandon_validating ..
      | crash t => exact abandon_validating ..
      | ok backend =>
        have hinsert : insert { h'.validating with opened := h'.validating.opened + 1 }
            ⟨.fresh backend, false, r.scheme.name, h'.validating.opened⟩ =
              (insert { h' with opened := h'.opened + 1 }
                ⟨.fresh backend, false, r.scheme.name, h'.opened⟩).map
                  fun r => (r.1, r.2.validating) :=
          insert_validating (h := { h' with opened := h'.opened + 1 }) _
        simp only [hinsert]
        cases insert { h' with opened := h'.opened + 1 }
            ⟨.fresh backend, false, r.scheme.name, h'.opened⟩ with
        | ok seated => rfl
        | error e => exact abandon_validating (h := { h' with opened := h'.opened + 1 }) _ _

end Host

end Decoding
