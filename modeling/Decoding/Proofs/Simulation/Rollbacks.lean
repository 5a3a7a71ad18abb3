import Decoding.Proofs.Session.Rollbacks
import Decoding.Proofs.Simulation.Engine
import Decoding.Simulation.Families

/-!
Rollbacks over stubs and simulated engines. A stub always evicts. A backend over an engine that
fails to remove positions has shortened its context and dropped its logits all the same, and only
the cache is behind; the next eviction that goes through brings it up. So it does not matter how
many tokens are undone at a time, nor which of the evictions have failed, as long as the last one
has not.
-/

namespace Decoding

/-- A stub without the positions from `n` on. -/
def Stub.cut (n : Nat) (b : Stub) : Stub := { b with context := b.context.truncate n }

theorem TokenContext.truncate_truncate (c : TokenContext) {m n : Nat} (h : n ≤ m) :
    (c.truncate m).truncate n = c.truncate n := by
  simp only [truncate, List.take_take, Nat.min_eq_left h]

/-- Stubs do not fail to evict. -/
theorem Stub.cuts {ω : Type} : Backend.Cuts ω Stub.cut (fun _ b => b) where
  evict_ok he := by
    cases he
    rfl
  evict_error := nofun
  cut_cut {b m n} hn := by simp only [Stub.cut, b.context.truncate_truncate hn]
  cut_shed _ := rfl

namespace Simulation

open Session

theorem keptLogits_shed (b : EngineBackend Engine) {m n : Nat} (h : n ≤ m) :
    keptLogits (shed m b) n = keptLogits b n := by
  have hlength : (shed m b).context.length = min m b.context.length := List.length_take
  have hlogits : (shed m b).logits = keptLogits b m := rfl
  simp only [keptLogits, hlength, hlogits]
  by_cases hcut : n < b.context.length
  · by_cases hfirst : m < b.context.length
    · simp only [if_pos hcut, if_pos hfirst, ite_self]
    · rw [if_pos (by omega), if_pos hcut]
  · rw [if_neg (by omega), if_neg (by omega), if_neg hcut]

theorem cuts : Backend.Cuts World cut shed where
  evict_ok {w b b' n} he := by
    obtain h | ⟨e, -, h⟩ | ⟨t, -, h⟩ := evict_cases w b n <;> rw [he] at h <;> cases h
    rfl
  evict_error {w b b' n e} he := by
    obtain h | ⟨e, -, h⟩ | ⟨t, -, h⟩ := evict_cases w b n <;> rw [he] at h <;> cases h
    rfl
  cut_cut {b m n} hn := by
    have hlogits : keptLogits (cut m b) n = keptLogits b n := keptLogits_shed b hn
    simp only [cut, shed, b.context.truncate_truncate hn, List.take_take, Nat.min_eq_left hn]
      at hlogits ⊢
    rw [hlogits]
  cut_shed {b m n} hn := by
    have hlogits := keptLogits_shed b hn
    simp only [cut, shed, b.context.truncate_truncate hn] at hlogits ⊢
    rw [hlogits]

section Plain

variable {w : World} (b : Plain) (n : Nat)

/-- Engines that do not crash end evictions. -/
theorem evict_completed (hcrash : w.switches.removeCrash = none) :
    (Backend.evict w b n).1.Completed := by
  cases b with
  | inl b => trivial
  | inr b =>
    change (Backend.evict w b n).1.Completed
    obtain h | ⟨e, -, h⟩ | ⟨t, ht, -⟩ := evict_cases w b n
    · rw [h]
      trivial
    · rw [h]
      trivial
    · exact absurd hcrash ht

/-- Engines that do not fail either end them well. -/
theorem evict_ok (hcrash : w.switches.removeCrash = none) (herror : w.switches.removeError = none) :
    (Backend.evict w b n).1 = .ok () := by
  cases b with
  | inl b => rfl
  | inr b =>
    change (Backend.evict w b n).1 = .ok ()
    obtain h | ⟨e, he, -⟩ | ⟨t, ht, -⟩ := evict_cases w b n
    · rw [h]
    · exact absurd herror he
    · exact absurd hcrash ht

end Plain

/-- Roll a session over a stub or a simulated engine back by some counts, one after another. In
worlds where engines do not crash, each rollback counts what it has undone or reports that the
eviction has failed. If the last one succeeds, then whatever the session was, faulted or not, and
whichever of the others have failed, it is in all respects what a single rollback by the sum leaves
that succeeds, as any does whose engine removes positions. If all of them succeed, their counts add
up to what the single one undoes. -/
theorem rollbacks_compose (s : Session Plain) {steps : List (World × Nat)}
    (hsteps : ∀ p ∈ steps, p.1.switches.removeCrash = none) :
    let r := s.run (rollbacks steps)
    let total := (steps.map Prod.snd).sum
    (∀ o ∈ r.1, (∃ n, o = .ok (.count n)) ∨ ∃ e, o = .error (.eviction e)) ∧
      (∀ reply, r.1.getLast? = some (.ok reply) →
        (∀ w : World, w.switches.removeCrash = none → w.switches.removeError = none →
          s.rollback w total = (.ok (min total s.position), r.2)) ∧
        ∀ (w : World) (n : Nat) (s' : Session Plain),
          s.rollback w total = (.ok n, s') → s' = r.2) ∧
      ∀ counts : List Nat, r.1 = counts.map (fun n => .ok (.count n)) →
        counts.sum = min total s.position := by
  intro r total
  have hβ := Stub.cuts.sum cuts
  have hends := run_rollbacks_completed s fun p hp b n => evict_completed b n (hsteps p hp)
  have hcompleted : ∀ o ∈ r.1, o.Completed := by
    intro o ho
    obtain ⟨n, rfl⟩ | ⟨e, rfl⟩ := hends o ho
    · trivial
    · trivial
  refine ⟨hends, fun reply hlast => ?_, fun counts h => sum_run_rollbacks s h⟩
  have hr : r.2 = _ := run_rollbacks_eq hβ s hcompleted hlast
  constructor
  · intro w hcrash herror
    have hok : (s.rollback w total).1 = _ :=
      rollback_of_evict (fun b n => evict_ok b n hcrash herror) total
    have hsame : (s.rollback w total).2 = _ := rollback_eq_ok hβ (Prod.ext hok rfl)
    exact Prod.ext hok (hsame.trans hr.symm)
  · intro w n s' h
    exact (rollback_eq_ok hβ h).trans hr.symm

/-- A rollback whose eviction fails, one that makes up for it, and one that has nothing to do. -/
theorem rollbacks_compose_retried :
    let s := ((Session.fresh (Sum.inr (EngineBackend.fresh ⟨[], 8⟩ 8) : Plain)).step (filed {})
      [5, 6, 7]).2
    let r := s.run (rollbacks [(busy, 1), (filed {}, 1), (busy, 0)])
    r.1 = [.error (.eviction (.engine "busy")), .ok (.count 1), .ok (.count 0)] ∧
      r.2.committed = [5] ∧ r.2.fault = none ∧ s.rollback (filed {}) 2 = (.ok 2, r.2) := by
  intro s r
  have hsteps : ∀ p ∈ [(busy, 1), (filed {}, 1), (busy, 0)], p.1.switches.removeCrash = none := by
    simp [busy, filed]
  obtain ⟨-, hlast, -⟩ := rollbacks_compose s hsteps
  obtain ⟨hsingle, -⟩ := hlast (.count 0) rfl
  exact ⟨rfl, rfl, rfl, hsingle (filed {}) rfl rfl⟩

end Simulation

end Decoding
