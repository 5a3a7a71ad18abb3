import Decoding.Proofs.Simulation.Session

/-!
The cache of the simulated engine. Evaluations, their cleanup, evictions, and saving and
loading states fail as they like. Whatever a failure leaves in the cache stands behind the
history, and the session is faulted until it is gone.
-/

namespace Decoding.Simulation

open EngineBackend Session

/-- The history is at the front of the cache, and all there is in it unless the session is
faulted. -/
structure Covered (v : Nat) (s : Session (EngineBackend Engine)) : Prop where
  sound : ∃ n, Sound n v s
  front : s.committed <+: s.backend.engine.cache
  clean : s.fault = none → s.backend.engine.cache = s.committed

namespace Covered

variable {v : Nat} {s t : Session (EngineBackend Engine)} {w w' : World}

/-- An evaluation starts from a cache that holds the history and nothing else. Tokens that stay in
it after a failure are behind the history, and then the session is faulted. -/
theorem step (h : Covered v s) (hw : w.Steady) (tokens : List UInt32) :
    Covered v (s.step w tokens).2 := by
  obtain ⟨⟨n, hsound⟩, hfront, hclean⟩ := h
  have hs := s.step_stepped w tokens
  have hsound' := hsound.step hw tokens
  have he (ht : tokens ≠ []) := evaluate_evaluated hw s.backend s.position ht
  have hcache (hf : s.fault = none) : s.backend.engine.cache.take s.position = s.committed := by
    rw [hclean hf, hsound.position, List.take_length]
  generalize s.step w tokens = r at hs hsound'
  cases hs with
  | refused hf => exact ⟨⟨n, hsound⟩, hfront, hclean⟩
  | idle hf ht => exact ⟨⟨n, hsound⟩, hfront, hclean⟩
  | advanced hf ht he' =>
    specialize he ht
    rw [he'] at he
    cases he with
    | advanced hh hroom =>
      refine ⟨⟨n, hsound'⟩, ?_, fun _ => ?_⟩
      · simp only [hcache hf, List.prefix_rfl]
      · simp only [hcache hf]
  | failed hf ht he' =>
    specialize he ht
    rw [he'] at he
    cases he with
    | refused hd => exact ⟨⟨n, hsound'⟩, hfront, fun _ => hclean hf⟩
    | undone hd hh =>
      have hcut (first : UInt32) :
          (s.backend.engine.cache.take s.position ++ [first]).take s.position = s.committed := by
        rw [hcache hf, hsound.position, List.take_left]
      refine ⟨⟨n, hsound'⟩, ?_, fun _ => ?_⟩
      · simp only [hcut, List.prefix_rfl]
      · simp only [hcut]
    | dirty hd hh hroom =>
      refine ⟨⟨n, hsound'⟩, ?_, fun hn => ?_⟩
      · simp only [hcache hf]
        exact List.prefix_append _ _
      · rw [if_pos hd] at hn
        cases hn
  | crashed hf ht he' =>
    specialize he ht
    rw [he'] at he
    cases he

/-- An eviction that succeeds cuts everything off behind the shortened history. -/
theorem rollback (h : Covered v s) (hw : w.Steady) (steps : Nat) :
    Covered v (s.rollback w steps).2 := by
  obtain ⟨⟨n, hsound⟩, hfront, hclean⟩ := h
  have hr := s.rollback_rolledBack w steps
  have hsound' := hsound.rollback hw steps
  have he := evict_evicted hw s.backend (s.kept steps)
  have htake : s.backend.engine.cache.take (s.kept steps) = s.committed.take (s.kept steps) := by
    obtain ⟨rest, hrest⟩ := hfront
    have := s.kept_le steps
    rw [← hrest, List.take_append_of_le_length (by rw [← hsound.position]; exact this)]
  generalize s.rollback w steps = r at hr hsound'
  cases hr with
  | idle hf hu =>
    have hall : s.committed.take (s.kept steps) = s.committed := by
      rw [kept, hu, Nat.sub_zero, hsound.position, List.take_length]
    refine ⟨⟨n, hsound'⟩, ?_, fun _ => ?_⟩
    · simp only [shortened, hall, hfront]
    · simp only [shortened, hall, hclean hf]
  | evicted ha he' =>
    rw [he'] at he
    cases he
    refine ⟨⟨n, hsound'⟩, ?_, fun _ => htake⟩
    simp only [shortened, htake, List.prefix_rfl]
  | failed ha he' =>
    rw [he'] at he
    cases he
    exact ⟨⟨n, hsound'⟩, (List.take_prefix _ _).trans hfront,
      fun hf => absurd hf (Option.some_ne_none _)⟩
  | crashed ha he' =>
    rw [he'] at he
    cases he

theorem restore (h : Covered v s) (hw : w.Steady) (ht : Covered v t) (hw' : w'.Steady)
    {bytes : Bytes} (he : Exports w' t bytes) (limit : Nat) :
    Covered v (s.restore w bytes limit).2 := by
  obtain ⟨n, hs⟩ := h.sound
  obtain ⟨m, ht'⟩ := ht.sound
  have hsound := hs.restoreExported hw ht' hw' he limit
  rcases restore_exported hw hs.bounded.countable hw' ht'.bounded.countable ht'.position_eq he limit
    with ⟨o, fault, -, hfault, hr⟩ | ⟨-, hclean, hr⟩
  · rw [hr] at hsound ⊢
    exact ⟨⟨n, hsound⟩, h.front, fun hf => h.clean (hfault hf)⟩
  · have hcache : t.backend.engine.cache = t.backend.context.tokens := by
      rw [ht.clean hclean, ht'.context]
    rw [hr] at hsound ⊢
    refine ⟨⟨n, hsound⟩, ?_, fun _ => hcache⟩
    exact hcache ▸ List.prefix_rfl

end Covered

/-- The backend has been opened by the engine family, with a vocabulary of `v` tokens. -/
def Opened (v : Nat) (b : EngineBackend Engine) : Prop :=
  ∃ w c log, engineFamily.load w c = (.ok b, log) ∧ c.vocab = v

/-- Over simulated engines of one vocabulary, in worlds that make any of their calls fail, sessions
that restore only what such sessions have exported hold their history in the context and at the
front of the cache, and nothing behind it unless they are faulted. -/
theorem cache_follows_history {v : Nat} {s : Session (EngineBackend Engine)}
    (h : Reachable (Opened v) World.Steady (fun _ => False) s) :
    Device.context s.backend = s.committed ∧ s.committed <+: s.backend.engine.cache ∧
      (s.fault = none → s.backend.engine.cache = s.committed) := by
  have hcovered : Covered v s := by
    induction h with
    | fresh hb =>
      obtain ⟨w, c, log, hload, rfl⟩ := hb
      have hb := bounded_of_load hload
      obtain ⟨-, rfl⟩ := load_eq_ok hload
      exact ⟨⟨_, hb, rfl, rfl⟩, List.nil_prefix, fun _ => rfl⟩
    | @call s w call hs hw hc ih =>
      cases call with
      | step tokens => exact ih.step hw tokens
      | rollback steps => exact ih.rollback hw steps
      | restore bytes limit => exact absurd rfl (hc bytes limit)
      | _ => exact ih
    | restore hs hw ht hw' he ihs iht => exact ihs.restore hw iht hw' he _
    | restoreForeign hs hw hf ih => exact hf.elim
  obtain ⟨n, hsound⟩ := hcovered.sound
  exact ⟨hsound.context, hcovered.front, hcovered.clean⟩

/-- A session after one step and another that failed with its cleanup. -/
theorem cache_follows_history_interrupted :
    let s := (Session.fresh (EngineBackend.fresh (ε := Engine) ⟨[], 4⟩ 8)).perform (filed {})
      (.step [1, 2])
    let s := s.2.perform busy (.step [3])
    Device.context s.2.backend = s.2.committed ∧ s.2.committed <+: s.2.backend.engine.cache ∧
      s.2.backend.engine.cache = [1, 2, 3] ∧ s.2.fault ≠ none := by
  have hfresh : Reachable (Opened 4) World.Steady (fun _ => False) _ :=
    .fresh ⟨_, _, _, load_filed, rfl⟩
  have hfirst := hfresh.call (w := filed {}) ⟨rfl, rfl, rfl, rfl, rfl, rfl⟩
    (nofun : ∀ bytes limit, Call.step [1, 2] ≠ .restore bytes limit)
  have hsecond := hfirst.call (w := busy) ⟨rfl, rfl, rfl, rfl, rfl, rfl⟩
    (nofun : ∀ bytes limit, Call.step [3] ≠ .restore bytes limit)
  obtain ⟨hcontext, hfront, -⟩ := cache_follows_history hsecond
  exact ⟨hcontext, hfront, rfl, nofun⟩

end Decoding.Simulation
