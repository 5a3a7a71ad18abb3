import Decoding.Proofs.Simulation.Cache

/-!
The scores of sessions over simulated engines. The logits that a backend holds belong to
the history that its session has, or it holds none. Whatever has failed on the way, a
session whose last call was a step is determined by its history: others with the same
history show the same scores and export the same bytes.
-/

namespace Decoding.Simulation

open EngineBackend Session

/-- The logits are those of the history, or there are none, since the tokens that they were for
have been taken back. -/
def Current (v : Nat) (s : Session (EngineBackend Engine)) : Prop :=
  s.backend.logits = [] ∨ s.backend.logits = Engine.logits s.committed v

namespace Covered

variable {v : Nat} {s t : Session (EngineBackend Engine)} {w w' : World}

/-- A step that goes through leaves the logits of the history with its tokens. -/
theorem logits_step (h : Covered v s) (hw : w.Steady) {tokens : List UInt32} {n : Nat}
    (ht : tokens ≠ []) (ho : (s.step w tokens).1 = .ok n) :
    (s.step w tokens).2.fault = none ∧
      (s.step w tokens).2.backend.logits = Engine.logits (s.step w tokens).2.committed v := by
  obtain ⟨⟨m, hsound⟩, -, hclean⟩ := h
  have hs := s.step_stepped w tokens
  generalize s.step w tokens = r at hs ho
  cases hs with
  | refused hf => cases ho
  | idle hf ht' => exact absurd ht' ht
  | failed hf ht' he' => cases ho
  | crashed hf ht' he' => cases ho
  | advanced hf ht' he' =>
    have he := evaluate_evaluated hw s.backend s.position ht
    rw [he'] at he
    cases he with
    | advanced hh hroom =>
      have hcache : s.backend.engine.cache.take s.position = s.committed := by
        rw [hclean hf, hsound.position, List.take_length]
      have hvocab : s.backend.engine.vocab = v := hsound.bounded.vocab
      constructor
      · rfl
      · simp only [hcache, hvocab]

theorem current_step (h : Covered v s) (hc : Current v s) (hw : w.Steady)
    (tokens : List UInt32) : Current v (s.step w tokens).2 := by
  by_cases ht : tokens = []
  · subst ht
    simp only [Session.step]
    split <;> exact hc
  · have hlogits {n : Nat} := h.logits_step (n := n) hw ht
    have hs := s.step_stepped w tokens
    have he := evaluate_evaluated hw s.backend s.position ht
    generalize s.step w tokens = r at hs hlogits
    cases hs with
    | refused hf => exact hc
    | idle hf ht' => exact hc
    | advanced hf ht' he' => exact .inr (hlogits rfl).2
    | failed hf ht' he' =>
      -- a failed evaluation touches neither the logits nor the history
      rw [he'] at he
      cases he with
      | refused hd => exact hc
      | undone hd hh => exact hc
      | dirty hd hh hroom => exact hc
    | crashed hf ht' he' =>
      rw [he'] at he
      cases he

/-- An eviction keeps the logits only if it keeps the whole history. -/
theorem current_shortened (h : Covered v s) (hc : Current v s) (steps : Nat) :
    keptLogits s.backend (s.kept steps) = [] ∨
      keptLogits s.backend (s.kept steps) =
        Engine.logits (s.committed.take (s.kept steps)) v := by
  obtain ⟨⟨n, hsound⟩, -, -⟩ := h
  by_cases hcut : s.kept steps < s.backend.context.length
  · left
    rw [keptLogits, if_pos hcut]
  · have hall : s.committed.take (s.kept steps) = s.committed := by
      apply List.take_of_length_le
      rw [← hsound.context]
      exact Nat.le_of_not_lt hcut
    rw [keptLogits, if_neg hcut, hall]
    exact hc

theorem current_rollback (h : Covered v s) (hc : Current v s) (hw : w.Steady) (steps : Nat) :
    Current v (s.rollback w steps).2 := by
  have hkept := h.current_shortened hc steps
  obtain ⟨⟨n, hsound⟩, -, -⟩ := h
  have hr := s.rollback_rolledBack w steps
  have he := evict_evicted hw s.backend (s.kept steps)
  generalize s.rollback w steps = r at hr
  cases hr with
  | idle hf hu =>
    have hall : s.committed.take (s.kept steps) = s.committed := by
      rw [kept, hu, Nat.sub_zero, hsound.position, List.take_length]
    simp only [Current, shortened, hall]
    exact hc
  | evicted ha he' =>
    rw [he'] at he
    cases he
    exact hkept
  | failed ha he' =>
    rw [he'] at he
    cases he
    exact hkept
  | crashed ha he' =>
    rw [he'] at he
    cases he

/-- A snapshot brings its logits along with the history that they are for. -/
theorem current_restore (h : Covered v s) (hc : Current v s) (hw : w.Steady) (ht : Covered v t)
    (hc' : Current v t) (hw' : w'.Steady) {bytes : Bytes} (he : Exports w' t bytes)
    (limit : Nat) : Current v (s.restore w bytes limit).2 := by
  obtain ⟨⟨n, hs⟩, -, -⟩ := h
  obtain ⟨⟨m, ht⟩, -, -⟩ := ht
  rcases restore_exported hw hs.bounded.countable hw' ht.bounded.countable ht.position_eq he limit
    with ⟨o, fault, -, -, hr⟩ | ⟨-, -, hr⟩
  · rw [hr]
    exact hc
  · rw [hr]
    simp only [Current, taking, ht.context]
    exact hc'

end Covered

/-- Every session that is reached holds its history and the logits of it or none. -/
theorem current_of_reachable {v : Nat} {s : Session (EngineBackend Engine)}
    (h : Reachable (Opened v) World.Steady (fun _ => False) s) : Covered v s ∧ Current v s := by
  induction h with
  | fresh hb =>
    obtain ⟨w, c, log, hload, rfl⟩ := hb
    have hb := bounded_of_load hload
    obtain ⟨-, rfl⟩ := load_eq_ok hload
    exact ⟨⟨⟨_, hb, rfl, rfl⟩, List.nil_prefix, fun _ => rfl⟩, .inl rfl⟩
  | @call s w call hs hw hc ih =>
    obtain ⟨hcovered, hcurrent⟩ := ih
    cases call with
    | step tokens => exact ⟨hcovered.step hw tokens, hcovered.current_step hcurrent hw tokens⟩
    | rollback steps =>
      exact ⟨hcovered.rollback hw steps, hcovered.current_rollback hcurrent hw steps⟩
    | restore bytes limit => exact absurd rfl (hc bytes limit)
    | _ => exact ⟨hcovered, hcurrent⟩
  | restore hs hw ht hw' he ihs iht =>
    exact ⟨ihs.1.restore hw iht.1 hw' he _, ihs.1.current_restore ihs.2 hw iht.1 iht.2 hw' he _⟩
  | restoreForeign hs hw hf ih => exact hf.elim

section Determined

variable {v : Nat} {s t : Session (EngineBackend Engine)} {w w' : World}

/-- Unfaulted sessions that hold the logits of one history hold the same in context and cache. -/
theorem Covered.written_eq (hs : Covered v s) (ht : Covered v t) (hsf : s.fault = none)
    (htf : t.fault = none) (hcommitted : s.committed = t.committed)
    (hlogits : s.backend.logits = t.backend.logits) :
    s.position = t.position ∧ written s.backend = written t.backend := by
  obtain ⟨⟨n, hs'⟩, -, hsc⟩ := hs
  obtain ⟨⟨m, ht'⟩, -, htc⟩ := ht
  have hcontext : s.backend.context.tokens = t.backend.context.tokens := by
    rw [hs'.context, ht'.context, hcommitted]
  have hcache : s.backend.engine.cache = t.backend.engine.cache := by
    rw [hsc hsf, htc htf, hcommitted]
  constructor
  · rw [hs'.position, ht'.position, hcommitted]
  · simp only [written, hcontext, hlogits, hcache]

/-- Engines that can save give the same snapshots of what is written in the same way. -/
theorem Covered.snapshot_eq (hs : Covered v s) (ht : Covered v t) (hsf : s.fault = none)
    (htf : t.fault = none) (hcommitted : s.committed = t.committed)
    (hlogits : s.backend.logits = t.backend.logits) (hw : w.Steady) (hw' : w'.Steady)
    (hsave : w.switches.saveError = none) (hsave' : w'.switches.saveError = none) (limit : Nat) :
    s.snapshot w limit = t.snapshot w' limit := by
  obtain ⟨hposition, hwritten⟩ := hs.written_eq ht hsf htf hcommitted hlogits
  obtain ⟨n, hs'⟩ := hs.sound
  obtain ⟨m, ht'⟩ := ht.sound
  apply snapshot_congr (hsf.trans htf.symm) hposition
  · obtain ⟨size, hs₁, hsize⟩ := exists_stateSize hw hs'.bounded.countable
    obtain ⟨size', ht₁, hsize'⟩ := exists_stateSize hw' ht'.bounded.countable
    rw [hs₁, ht₁, UInt64.toNat_inj.mp (hsize.trans (hwritten ▸ hsize'.symm))]
  · rw [(serialize_eq_ok_iff hw hs'.bounded.countable).mpr ⟨hsave, rfl⟩,
      (serialize_eq_ok_iff hw' ht'.bounded.countable).mpr ⟨hsave', rfl⟩, hwritten]

/-- What a session shows of the scores depends on the logits only, in any world. -/
theorem peek_eq (hfault : s.fault = t.fault) (hlogits : s.backend.logits = t.backend.logits)
    (w w' : World) (count : Nat) : s.peek w count = t.peek w' count := by
  have hscores (buffer : List Score) :
      Backend.scores w s.backend buffer = Backend.scores w' t.backend buffer := by
    change (Outcome.ok (min buffer.length s.backend.logits.length),
      s.backend.logits.take buffer.length) = _
    rw [hlogits]
    rfl
  simp only [peek, peekInto, hfault, hscores]

end Determined

/-- Take sessions over simulated engines of one vocabulary, in worlds that make any of their calls
fail, which restore only what such sessions have exported. Whether a session is faulted or not, its
backend holds no logits, or the logits that the engine has for its history. So any two of them that
come from a step, with the same history and however they came to it, show the same scores, and
export the same if their engines can save. -/
theorem scores_follow_history {v : Nat} {s t : Session (EngineBackend Engine)}
    (hs : Reachable (Opened v) World.Steady (fun _ => False) s)
    (ht : Reachable (Opened v) World.Steady (fun _ => False) t) :
    (s.backend.logits = [] ∨ s.backend.logits = Engine.logits s.committed v) ∧
      ∀ (w w' : World) (tokens tokens' : List UInt32) (n n' : Nat), w.Steady → w'.Steady →
        tokens ≠ [] → tokens' ≠ [] →
        (s.step w tokens).1 = .ok n → (t.step w' tokens').1 = .ok n' →
        let s' := (s.step w tokens).2
        let t' := (t.step w' tokens').2
        s'.committed = t'.committed →
          s'.backend.logits = Engine.logits s'.committed v ∧
            (∀ (w w' : World) (count : Nat), s'.peek w count = t'.peek w' count) ∧
              ∀ (w w' : World) (limit : Nat), w.Steady → w'.Steady →
                w.switches.saveError = none → w'.switches.saveError = none →
                  s'.snapshot w limit = t'.snapshot w' limit := by
  obtain ⟨hcs, hcurrent⟩ := current_of_reachable hs
  obtain ⟨hct, -⟩ := current_of_reachable ht
  refine ⟨hcurrent, ?_⟩
  intro w w' tokens tokens' n n' hw hw' hne hne' hok hok' s' t' hcommitted
  obtain ⟨hfs, hls⟩ := hcs.logits_step hw hne hok
  obtain ⟨hft, hlt⟩ := hct.logits_step hw' hne' hok'
  have hlogits : s'.backend.logits = t'.backend.logits := by
    rw [hls, hlt]
    exact congrArg (Engine.logits · v) hcommitted
  have hcs' : Covered v s' := hcs.step hw tokens
  have hct' : Covered v t' := hct.step hw' tokens'
  refine ⟨hls, peek_eq (hfs.trans hft.symm) hlogits, ?_⟩
  intro w₁ w₂ limit hw₁ hw₂ hsave₁ hsave₂
  exact hcs'.snapshot_eq hct' hfs hft hcommitted hlogits hw₁ hw₂ hsave₁ hsave₂ limit

/-- One session steps, takes a token back and steps on; the other one fails in between. -/
theorem scores_follow_history_detour :
    let fresh := Session.fresh (EngineBackend.fresh (ε := Engine) ⟨[], 4⟩ 8)
    let s := ((fresh.perform (filed {}) (.step [1, 2])).2.perform (filed {}) (.rollback 1)).2
    let t := (((fresh.perform (filed {}) (.step [1])).2.perform busy (.step [2])).2.perform
      (filed {}) (.rollback 0)).2
    let s' := (s.step (filed {}) [3]).2
    let t' := (t.step (filed {}) [3]).2
    s.backend.logits = [] ∧ t.backend.logits = Engine.logits [1] 4 ∧ s'.committed = [1, 3] ∧
      s'.backend.logits = Engine.logits [1, 3] 4 ∧ s'.peek (filed {}) 4 = t'.peek (filed {}) 4 ∧
        s'.snapshot (filed {}) 100 = t'.snapshot (filed {}) 100 := by
  have hquiet : (filed {}).Steady := ⟨rfl, rfl, rfl, rfl, rfl, rfl⟩
  have hbusy : busy.Steady := ⟨rfl, rfl, rfl, rfl, rfl, rfl⟩
  have hfresh : Reachable (Opened 4) World.Steady (fun _ => False)
      (Session.fresh (EngineBackend.fresh (ε := Engine) ⟨[], 4⟩ 8)) :=
    .fresh ⟨_, _, _, load_filed, rfl⟩
  have hs := (hfresh.call hquiet
    (nofun : ∀ bytes limit, Call.step [1, 2] ≠ .restore bytes limit)).call hquiet
    (nofun : ∀ bytes limit, Call.rollback 1 ≠ .restore bytes limit)
  have ht := ((hfresh.call hquiet
    (nofun : ∀ bytes limit, Call.step [1] ≠ .restore bytes limit)).call hbusy
    (nofun : ∀ bytes limit, Call.step [2] ≠ .restore bytes limit)).call hquiet
    (nofun : ∀ bytes limit, Call.rollback 0 ≠ .restore bytes limit)
  obtain ⟨-, hlast⟩ := scores_follow_history hs ht
  obtain ⟨hlogits, hpeek, hsnapshot⟩ := hlast (filed {}) (filed {}) [3] [3] 1 1 hquiet hquiet nofun
    nofun rfl rfl rfl
  exact ⟨rfl, rfl, rfl, hlogits, hpeek _ _ 4, hsnapshot _ _ 100 hquiet hquiet rfl rfl⟩

end Decoding.Simulation
