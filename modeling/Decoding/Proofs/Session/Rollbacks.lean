import Decoding.Backend.Either
import Decoding.Proofs.Session.Counts

/-!
Rollbacks one after another. Each of them shortens the history at once and then evicts, unless
there is nothing to undo and no fault. An eviction may fail and leave the cache as it was; the
rollback that succeeds next makes up for it, whatever it undoes itself. So a sequence that ends
well leaves what a single rollback would have left.
-/

namespace Decoding

/-- What evictions leave: `cut n b` if they succeed and `shed n b` if they fail. Neither is seen
once an eviction from the same position or an earlier one has succeeded. -/
structure Backend.Cuts (ω : Type) {β : Type} [Device β] [Backend ω β] (cut shed : Nat → β → β) :
    Prop where
  evict_ok {w : ω} {b b' : β} {n : Nat} : Backend.evict w b n = (.ok (), b') → b' = cut n b
  evict_error {w : ω} {b b' : β} {n : Nat} {e : BackendError} :
    Backend.evict w b n = (.error e, b') → b' = shed n b
  cut_cut {b : β} {m n : Nat} : n ≤ m → cut n (cut m b) = cut n b
  cut_shed {b : β} {m n : Nat} : n ≤ m → cut n (shed m b) = cut n b

/-- A backend of either kind evicts as its kind does. -/
theorem Backend.Cuts.sum {ω α β : Type} [Device α] [Backend ω α] [Device β] [Backend ω β]
    {cut shed : Nat → α → α} {cut' shed' : Nat → β → β} (h : Backend.Cuts ω cut shed)
    (h' : Backend.Cuts ω cut' shed') :
    Backend.Cuts ω (fun n => Sum.map (cut n) (cut' n)) (fun n => Sum.map (shed n) (shed' n)) where
  evict_ok {w b b' n} he := by
    cases b with
    | inl a =>
      obtain ⟨ho, rfl⟩ := Prod.mk.inj he
      exact congrArg Sum.inl (h.evict_ok (Prod.ext ho rfl))
    | inr b =>
      obtain ⟨ho, rfl⟩ := Prod.mk.inj he
      exact congrArg Sum.inr (h'.evict_ok (Prod.ext ho rfl))
  evict_error {w b b' n e} he := by
    cases b with
    | inl a =>
      obtain ⟨ho, rfl⟩ := Prod.mk.inj he
      exact congrArg Sum.inl (h.evict_error (Prod.ext ho rfl))
    | inr b =>
      obtain ⟨ho, rfl⟩ := Prod.mk.inj he
      exact congrArg Sum.inr (h'.evict_error (Prod.ext ho rfl))
  cut_cut {b m n} hn := by
    cases b with
    | inl a => exact congrArg Sum.inl (h.cut_cut hn)
    | inr b => exact congrArg Sum.inr (h'.cut_cut hn)
  cut_shed {b m n} hn := by
    cases b with
    | inl a => exact congrArg Sum.inl (h.cut_shed hn)
    | inr b => exact congrArg Sum.inr (h'.cut_shed hn)

namespace Session

variable {ω β : Type}

theorem kept_shortened (s : Session β) (first next : Nat) :
    (s.shortened first).kept next = s.kept (first + next) := by
  simp only [shortened, kept]
  omega

/-- To shorten a history twice is to shorten it once by as much. -/
theorem shortened_shortened (s : Session β) (first next : Nat) :
    (s.shortened first).shortened next = s.shortened (first + next) := by
  have hkept := s.kept_shortened first next
  have hle : s.kept (first + next) ≤ s.kept first := by
    rw [← hkept]
    exact kept_le ..
  simp only [shortened] at hkept ⊢
  rw [hkept, List.take_take, Nat.min_eq_left hle]

/-- The session after a rollback that succeeds. -/
def rolledBack (cut : Nat → β → β) (s : Session β) (steps : Nat) : Session β :=
  if min steps s.position = 0 ∧ s.fault = none then s.shortened steps
  else { s.shortened steps with backend := cut (s.kept steps) s.backend, fault := none }

/-- Once something has been cut off, a rollback cuts the backend again, unless that has just been
done from the same position. -/
theorem rolledBack_of_cut {cut : Nat → β → β} (s : Session β) {first : Nat} (next : Nat) {b : β}
    {fault : Option Fault} (hb : fault = none → b = cut (s.kept first) s.backend)
    (hcut : cut (s.kept (first + next)) b = cut (s.kept (first + next)) s.backend)
    (ha : s.fault = none → min first s.position ≠ 0) :
    rolledBack cut { s.shortened first with backend := b, fault } next =
      s.rolledBack cut (first + next) := by
  have hkept := s.kept_shortened first next
  have hactive : ¬ (min (first + next) s.position = 0 ∧ s.fault = none) := by
    rintro ⟨hzero, hf⟩
    exact ha hf (by omega)
  have hshort : shortened { s.shortened first with backend := b, fault } next =
      { s.shortened (first + next) with backend := b, fault } := by
    rw [← shortened_shortened]
    rfl
  have hkept' : kept { s.shortened first with backend := b, fault } next =
      s.kept (first + next) := hkept
  rw [rolledBack, rolledBack, if_neg hactive, hshort, hkept', hcut]
  split
  · rename_i hidle
    obtain ⟨hzero, hf⟩ := hidle
    have hsame : s.kept (first + next) = s.kept first := by
      simp only [kept, shortened] at hzero ⊢
      omega
    simp only at hf
    rw [hb hf, hf, hsame]
  · rfl

section Rollbacks

variable [Device β] [Backend ω β] {cut shed : Nat → β → β} {w : ω} {s s' : Session β}

theorem rollback_eq_ok (hβ : Backend.Cuts ω cut shed) {steps n : Nat}
    (h : s.rollback w steps = (.ok n, s')) : s' = s.rolledBack cut steps := by
  have hr := s.rollback_rolledBack w steps
  rw [h] at hr
  cases hr with
  | idle hf hu => rw [rolledBack, if_pos ⟨hu, hf⟩]
  | evicted ha he =>
    have hactive : ¬ (min steps s.position = 0 ∧ s.fault = none) := fun hidle => ha hidle.2 hidle.1
    rw [rolledBack, if_neg hactive, hβ.evict_ok he]

/-- A backend that evicts without an error makes a rollback succeed. -/
theorem rollback_of_evict (h : ∀ (b : β) (n : Nat), (Backend.evict w b n).1 = .ok ())
    (steps : Nat) : (s.rollback w steps).1 = .ok (min steps s.position) := by
  have hr := s.rollback_rolledBack w steps
  have hevict := h s.backend (s.kept steps)
  generalize s.rollback w steps = r at hr
  cases hr with
  | idle hf hu => rw [hu]
  | evicted ha he => rfl
  | failed ha he =>
    rw [he] at hevict
    cases hevict
  | crashed ha he =>
    rw [he] at hevict
    cases hevict

/-- A rollback over a backend that does not crash counts what it has undone or reports that the
eviction has failed. -/
theorem rollback_completed (h : ∀ (b : β) (n : Nat), (Backend.evict w b n).1.Completed)
    (steps : Nat) :
    (∃ n, (s.rollback w steps).1 = .ok n) ∨ ∃ e, (s.rollback w steps).1 = .error (.eviction e) := by
  have hr := s.rollback_rolledBack w steps
  have hevict := h s.backend (s.kept steps)
  generalize s.rollback w steps = r at hr
  cases hr with
  | idle hf hu => exact .inl ⟨_, rfl⟩
  | evicted ha he => exact .inl ⟨_, rfl⟩
  | failed ha he => exact .inr ⟨_, rfl⟩
  | crashed ha he =>
    rw [he] at hevict
    exact hevict.elim

/-- A rollback that succeeds leaves no trace of the one before it, whether that has failed or
not. -/
theorem rolledBack_rollback (hβ : Backend.Cuts ω cut shed) {first : Nat}
    (h : (s.rollback w first).1.Completed) (next : Nat) :
    (s.rollback w first).2.rolledBack cut next = s.rolledBack cut (first + next) := by
  have hr := s.rollback_rolledBack w first
  have hle : s.kept (first + next) ≤ s.kept first := by
    rw [← kept_shortened]
    exact kept_le ..
  generalize s.rollback w first = r at hr h
  cases hr with
  | idle hf hu =>
    have hzero : min next (s.shortened first).position = 0 ↔ min (first + next) s.position = 0 := by
      simp only [shortened, kept]
      omega
    simp only [rolledBack, hzero, shortened_shortened, kept_shortened]
    rfl
  | evicted ha he =>
    obtain rfl := hβ.evict_ok he
    exact s.rolledBack_of_cut next (fun _ => rfl) (hβ.cut_cut hle) ha
  | failed ha he =>
    obtain rfl := hβ.evict_error he
    exact s.rolledBack_of_cut next nofun (hβ.cut_shed hle) ha
  | crashed ha he => exact h.elim

/-- Rollbacks in their worlds, as calls. -/
def rollbacks (steps : List (ω × Nat)) : List (ω × Call) :=
  steps.map fun p => (p.1, .rollback p.2)

theorem run_rollbacks_cons (s : Session β) (w : ω) (first : Nat) (steps : List (ω × Nat)) :
    s.run (rollbacks ((w, first) :: steps)) =
      ((s.rollback w first).1.map .count :: ((s.rollback w first).2.run (rollbacks steps)).1,
        ((s.rollback w first).2.run (rollbacks steps)).2) := rfl

theorem run_rollbacks_completed (s : Session β) {steps : List (ω × Nat)}
    (h : ∀ p ∈ steps, ∀ (b : β) (n : Nat), (Backend.evict p.1 b n).1.Completed) :
    ∀ o ∈ (s.run (rollbacks steps)).1,
      (∃ n, o = .ok (.count n)) ∨ ∃ e, o = .error (.eviction e) := by
  induction steps generalizing s with
  | nil => nofun
  | cons p steps ih =>
    obtain ⟨w, first⟩ := p
    obtain ⟨hfirst, hrest⟩ := List.forall_mem_cons.mp h
    rw [run_rollbacks_cons]
    refine List.forall_mem_cons.mpr ⟨?_, ih _ hrest⟩
    obtain ⟨n, hn⟩ | ⟨e, he⟩ := s.rollback_completed hfirst first
    · exact .inl ⟨n, by rw [hn]; rfl⟩
    · exact .inr ⟨e, by rw [he]; rfl⟩

/-- After a sequence of rollbacks of which the last one succeeds, the session is the one after a
single rollback that succeeds. -/
theorem run_rollbacks_eq (hβ : Backend.Cuts ω cut shed) (s : Session β) {steps : List (ω × Nat)}
    (hcompleted : ∀ o ∈ (s.run (rollbacks steps)).1, o.Completed) {reply : Reply}
    (hlast : (s.run (rollbacks steps)).1.getLast? = some (.ok reply)) :
    (s.run (rollbacks steps)).2 = s.rolledBack cut (steps.map Prod.snd).sum := by
  induction steps generalizing s with
  | nil => cases hlast
  | cons p steps ih =>
    obtain ⟨w, first⟩ := p
    rw [run_rollbacks_cons] at hcompleted hlast ⊢
    obtain ⟨hfirst, hrest⟩ := List.forall_mem_cons.mp hcompleted
    rw [Outcome.completed_map] at hfirst
    cases steps with
    | nil =>
      cases ho : (s.rollback w first).1 with
      | ok n => exact rollback_eq_ok hβ (Prod.ext ho rfl)
      | error e =>
        rw [ho] at hlast
        cases hlast
      | crash t =>
        rw [ho] at hlast
        cases hlast
    | cons q steps =>
      rw [List.map_cons, List.sum_cons, ← rolledBack_rollback hβ hfirst]
      exact ih _ hrest hlast

/-- The counts of rollbacks that all succeed add up to what a single one undoes. -/
theorem sum_run_rollbacks (s : Session β) {steps : List (ω × Nat)} {counts : List Nat}
    (h : (s.run (rollbacks steps)).1 = counts.map fun n => .ok (.count n)) :
    counts.sum = min (steps.map Prod.snd).sum s.position := by
  induction steps generalizing s counts with
  | nil =>
    obtain rfl := List.map_eq_nil_iff.mp h.symm
    simp
  | cons p steps ih =>
    obtain ⟨w, first⟩ := p
    rw [run_rollbacks_cons] at h
    obtain ⟨n, counts, rfl, hn, hrest⟩ := List.map_eq_cons_iff.mp h.symm
    have hok : (s.rollback w first).1 = .ok n := by
      cases ho : (s.rollback w first).1 <;> rw [ho] at hn <;> cases hn
      rfl
    have hposition : (s.rollback w first).2.position = s.kept first := by
      have hr := s.rollback_rolledBack w first
      generalize s.rollback w first = r at hr
      cases hr <;> rfl
    have hsum := ih _ hrest.symm
    rw [hposition] at hsum
    rw [List.sum_cons, hsum, rollback_count hok, List.map_cons, List.sum_cons, kept]
    omega

end Rollbacks

end Session

end Decoding
