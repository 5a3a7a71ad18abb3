import Decoding.Outcome
import Mathlib

/-!
How a call ends that is made of others. It gives a value if every part gives one and every guard
lets it pass; the first part that fails or crashes is how it ends otherwise.
-/

namespace Decoding.Outcome

variable {ε ε' α β σ : Type}

theorem map_eq_ok_iff {f : α → β} {o : Outcome ε α} {b : β} :
    o.map f = .ok b ↔ ∃ a, o = .ok a ∧ b = f a := by
  cases o <;> simp [Outcome.map, eq_comm]

theorem map_eq_error_iff {f : α → β} {o : Outcome ε α} {e : ε} :
    o.map f = .error e ↔ o = .error e := by
  cases o <;> simp [Outcome.map]

theorem mapError_eq_ok_iff {f : ε → ε'} {o : Outcome ε α} {a : α} :
    o.mapError f = .ok a ↔ o = .ok a := by
  cases o <;> simp

theorem mapError_eq_error_iff {f : ε → ε'} {o : Outcome ε α} {e : ε'} :
    o.mapError f = .error e ↔ ∃ cause, o = .error cause ∧ f cause = e := by
  cases o <;> simp

theorem mapError_eq_crash_iff {f : ε → ε'} {o : Outcome ε α} {t : String} :
    o.mapError f = .crash t ↔ o = .crash t := by
  cases o <;> simp

theorem lift_eq_ok_iff {o : Outcome Empty α} {a : α} :
    (o.lift : Outcome ε α) = .ok a ↔ o = .ok a :=
  mapError_eq_ok_iff

theorem lift_ne_error {o : Outcome Empty α} {e : ε} : o.lift ≠ .error e := by
  intro h
  obtain ⟨cause, -, -⟩ := mapError_eq_error_iff.mp h
  exact cause.elim

theorem lift_eq_crash_iff {o : Outcome Empty α} {t : String} :
    (o.lift : Outcome ε α) = .crash t ↔ o = .crash t :=
  mapError_eq_crash_iff

theorem ofExcept_eq_ok_iff {x : Except ε α} {a : α} : ofExcept x = .ok a ↔ x = .ok a := by
  cases x <;> simp

theorem ofExcept_eq_error_iff {x : Except ε α} {e : ε} : ofExcept x = .error e ↔ x = .error e := by
  cases x <;> simp

theorem ofExcept_ne_crash {x : Except ε α} {t : String} : ofExcept x ≠ .crash t := by
  cases x <;> simp

/-- A call has come back with what it reported. -/
theorem attempt_eq_ok_iff {o : Outcome ε α} {x : Except ε α} :
    (o.attempt : Outcome ε' (Except ε α)) = .ok x ↔ o = ofExcept x := by
  cases o <;> cases x <;> simp [attempt]

section Steps

variable {o : Outcome ε α} {f : α → Outcome ε β}

theorem bind_eq_ok_iff {b : β} : (o >>= f) = .ok b ↔ ∃ a, o = .ok a ∧ f a = .ok b := by
  cases o <;> simp

theorem bind_eq_error_iff {e : ε} :
    (o >>= f) = .error e ↔ o = .error e ∨ ∃ a, o = .ok a ∧ f a = .error e := by
  cases o <;> simp

theorem bind_eq_crash_iff {t : String} :
    (o >>= f) = .crash t ↔ o = .crash t ∨ ∃ a, o = .ok a ∧ f a = .crash t := by
  cases o <;> simp

/-- A guard refuses exactly where its condition holds. -/
theorem guard_eq_ok_iff {c : Prop} [Decidable c] {e : ε} {a : α} :
    (if c then .error e else o) = .ok a ↔ ¬ c ∧ o = .ok a := by
  split <;> simp [*]

theorem guard_eq_error_iff {c : Prop} [Decidable c] {e e' : ε} :
    (if c then .error e else o) = .error e' ↔ c ∧ e = e' ∨ ¬ c ∧ o = .error e' := by
  split <;> simp [*]

theorem guard_eq_crash_iff {c : Prop} [Decidable c] {e : ε} {t : String} :
    (if c then .error e else o) = .crash t ↔ ¬ c ∧ o = .crash t := by
  split <;> simp [*]

end Steps

theorem commit_eq_ok_iff {s s' : σ} {a : α} {r : Except ε (α × σ)} :
    commit s r = (.ok a, s') ↔ r = .ok (a, s') := by
  match r with
  | .ok (a', t) => simp
  | .error e => simp

theorem commit_eq_error_iff {s s' : σ} {e : ε} {r : Except ε (α × σ)} :
    commit s r = (.error e, s') ↔ r = .error e ∧ s' = s := by
  match r with
  | .ok (a', t) => simp
  | .error e' => simp [eq_comm]

theorem commit_ne_crash {s s' : σ} {t : String} {r : Except ε (α × σ)} :
    commit s r ≠ (.crash t, s') := by
  match r with
  | .ok (a', u) => simp
  | .error e' => simp

/-- A step that replaces the state only if it succeeds leaves the old one or the new one. -/
theorem commit_snd (s : σ) (r : Except ε (α × σ)) :
    (commit s r).2 = s ∨ ∃ a, r = .ok (a, (commit s r).2) := by
  match r with
  | .ok (a, s') => exact .inr ⟨a, rfl⟩
  | .error e => exact .inl rfl

/-- The call did not come back. -/
def isCrash : Outcome ε α → Bool
  | .crash _ => true
  | _ => false

theorem isCrash_iff {o : Outcome ε α} : o.isCrash = true ↔ ∃ t, o = .crash t := by
  cases o <;> simp [isCrash]

@[simp] theorem isCrash_map (f : α → β) (o : Outcome ε α) : (o.map f).isCrash = o.isCrash := by
  cases o <;> rfl

@[simp] theorem isCrash_ofExcept (x : Except ε α) : (ofExcept x).isCrash = false := by
  cases x <;> rfl

/-- A call that has come back may have reported an error. -/
@[simp] theorem isCrash_attempt (o : Outcome ε α) :
    (o.attempt : Outcome ε' (Except ε α)).isCrash = o.isCrash := by
  cases o <;> rfl

end Decoding.Outcome
