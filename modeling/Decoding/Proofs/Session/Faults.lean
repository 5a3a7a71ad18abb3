import Decoding.Proofs.Session.Commands
import Decoding.Proofs.Session.Refusal

/-!
The fault of a session over any backend, whichever of its calls fail. A fault is set where the
backend may be left out of step with the history, and by nothing else; it is lifted where the two
have been brought together again, and by nothing else. In between, whatever needs the backend to be
in step is refused without the backend: only rollbacks and restores touch the history.
-/

namespace Decoding.Session

open Snapshot

variable {ω β : Type} [Device β] [Backend ω β] {w : ω} {s : Session β} {fault : Fault}

section History

omit [Device β] [Backend ω β] in
/-- The tokens that a rollback keeps are as many as the position that it goes back to. -/
theorem length_take_kept (h : s.position = s.committed.length) (steps : Nat) :
    (s.committed.take (s.kept steps)).length = s.kept steps := by
  have := s.kept_le steps
  rw [List.length_take]
  omega

theorem rollback_shortens (w : ω) (s : Session β) (steps : Nat) :
    (s.rollback w steps).2.position = s.kept steps ∧
      (s.rollback w steps).2.committed = s.committed.take (s.kept steps) ∧
      (s.rollback w steps).2.staged = [] := by
  have hr := s.rollback_rolledBack w steps
  generalize s.rollback w steps = r at hr ⊢
  cases hr <;> exact ⟨rfl, rfl, rfl⟩

/-- A call keeps the position at the length of the history, even if it crashes. -/
theorem position_perform (h : s.position = s.committed.length) (w : ω) (call : Call) :
    (s.perform w call).2.position = (s.perform w call).2.committed.length := by
  cases call with
  | step tokens =>
    rw [perform_step]
    have hs := s.step_stepped w tokens
    generalize s.step w tokens = r at hs ⊢
    cases hs with
    | advanced hf ht he => simp only [List.length_append, h]
    | refused | idle | failed | crashed => exact h
  | rollback steps =>
    obtain ⟨hposition, hcommitted, -⟩ := s.rollback_shortens w steps
    rw [perform_rollback, hposition, hcommitted, length_take_kept h]
  | restore bytes limit =>
    rw [perform_restore]
    have hr := s.restore_restored w bytes limit
    generalize s.restore w bytes limit = r at hr ⊢
    cases hr with
    | taken hh hs ht => exact (takePayload_eq_ok_iff.mp ht).2.symm
    | refused | unsaved | putBack | lost | crashed | crashedBack => exact h
  | _ => exact h

theorem position_run (h : s.position = s.committed.length) (calls : List (ω × Call)) :
    (s.run calls).2.position = (s.run calls).2.committed.length := by
  induction calls generalizing s with
  | nil => exact h
  | cons made calls ih => exact ih (position_perform h made.1 made.2)

theorem step_of_error {tokens : List UInt32} {e : SessionError} {s' : Session β}
    (h : s.step w tokens = (.error e, s')) :
    s'.position = s.position ∧ s'.committed = s.committed ∧ s'.staged = s.staged := by
  have hs := s.step_stepped w tokens
  rw [h] at hs
  cases hs <;> exact ⟨rfl, rfl, rfl⟩

end History

section Fault

/-- The calls that set a fault on a session that has none: a step whose leftovers could not be
removed, a rollback whose eviction failed, and a restore that failed and could not be undone. -/
def Faults (w : ω) (s : Session β) : Call → Prop
  | .step tokens => tokens ≠ [] ∧ ∃ error cleanup b,
    Backend.evaluate w s.backend s.position tokens = (.error (.partialEvaluation error cleanup), b)
  | .rollback steps => min steps s.position ≠ 0 ∧ ∃ e b,
    Backend.evict w s.backend (s.kept steps) = (.error e, b)
  | .restore bytes limit => s.PutBackFails w bytes limit ∧ ∃ e s',
    s.restore w bytes limit = (.error e, s')
  | _ => False

/-- The calls that lift a fault: a rollback whose eviction succeeds and a restore that does. -/
def Lifts (w : ω) (s : Session β) : Call → Prop
  | .rollback steps => ∃ b, Backend.evict w s.backend (s.kept steps) = (.ok (), b)
  | .restore bytes limit => ∃ s', s.restore w bytes limit = (.ok (), s')
  | _ => False

theorem leavesCacheDirty_iff {e : BackendError} :
    e.leavesCacheDirty = true ↔ ∃ error cleanup, e = .partialEvaluation error cleanup := by
  cases e <;> simp [BackendError.leavesCacheDirty]

theorem fault_step_ne_none_iff (hf : s.fault = none) (tokens : List UInt32) :
    (s.step w tokens).2.fault ≠ none ↔ s.Faults w (.step tokens) := by
  have hs := s.step_stepped w tokens
  generalize s.step w tokens = r at hs ⊢
  cases hs with
  | refused hf' =>
    rw [hf] at hf'
    cases hf'
  | idle hf' ht => exact iff_of_false (fun h => h hf) fun h => h.1 ht
  | advanced hf' ht he =>
    refine iff_of_false (fun h => h rfl) ?_
    rintro ⟨-, error, cleanup, b, he'⟩
    rw [he] at he'
    cases he'
  | @failed b e hf' ht he =>
    have hset : (if e.leavesCacheDirty then some (Fault.staleCache e) else none) ≠ none ↔
        e.leavesCacheDirty = true := by
      cases e.leavesCacheDirty <;> simp
    refine hset.trans (leavesCacheDirty_iff.trans ?_)
    constructor
    · rintro ⟨error, cleanup, rfl⟩
      exact ⟨ht, error, cleanup, b, he⟩
    · rintro ⟨-, error, cleanup, b', he'⟩
      rw [he] at he'
      cases he'
      exact ⟨error, cleanup, rfl⟩
  | crashed hf' ht he =>
    refine iff_of_false (fun h => h hf) ?_
    rintro ⟨-, error, cleanup, b, he'⟩
    rw [he] at he'
    cases he'

theorem fault_rollback_ne_none_iff (hf : s.fault = none) (steps : Nat) :
    (s.rollback w steps).2.fault ≠ none ↔ s.Faults w (.rollback steps) := by
  have hr := s.rollback_rolledBack w steps
  generalize s.rollback w steps = r at hr ⊢
  cases hr with
  | idle hf' hu => exact iff_of_false (fun h => h hf) fun h => h.1 hu
  | evicted ha he =>
    refine iff_of_false (fun h => h rfl) ?_
    rintro ⟨-, e, b, he'⟩
    rw [he] at he'
    cases he'
  | failed ha he => exact iff_of_true nofun ⟨ha hf, _, _, he⟩
  | crashed ha he =>
    refine iff_of_false (fun h => h hf) ?_
    rintro ⟨-, e, b, he'⟩
    rw [he] at he'
    cases he'

/-- A restore that is refused sets a fault exactly if the former state was not put back. -/
theorem fault_restore_ne_none_iff (hf : s.fault = none) (bytes : Bytes) (limit : Nat) :
    (s.restore w bytes limit).2.fault ≠ none ↔ s.Faults w (.restore bytes limit) := by
  cases hr : s.restore w bytes limit with
  | mk outcome s' =>
    cases outcome with
    | error e =>
      have hrefused := refused_of_restore hr
      constructor
      · intro hset
        refine ⟨Classical.byContradiction fun hback => hset ?_, e, s', hr⟩
        exact (hrefused.fault_of_not_putBackFails hback).trans hf
      · rintro ⟨hback, -⟩ hnone
        obtain ⟨fault, hfault, -⟩ := hrefused.lost_of_putBackFails hback
        rw [hnone] at hfault
        cases hfault
    | ok =>
      have hrestored := s.restore_restored w bytes limit
      rw [hr] at hrestored
      refine iff_of_false (fun h => h ?_) ?_
      · cases hrestored with
        | taken => rfl
        | unsaved hh hs ho => exact absurd rfl ho
      · rintro ⟨-, e, s'', he⟩
        rw [hr] at he
        cases he
    | crash t =>
      have hrestored := s.restore_restored w bytes limit
      rw [hr] at hrestored
      refine iff_of_false (fun h => h ?_) ?_
      · cases hrestored <;> exact hf
      · rintro ⟨-, e, s'', he⟩
        rw [hr] at he
        cases he

/-- A fault is set by the calls that leave the backend out of step, and by no others. -/
theorem fault_perform_ne_none_iff (hf : s.fault = none) (w : ω) (call : Call) :
    (s.perform w call).2.fault ≠ none ↔ s.Faults w call := by
  cases call with
  | step tokens => exact fault_step_ne_none_iff hf tokens
  | rollback steps => exact fault_rollback_ne_none_iff hf steps
  | restore bytes limit => exact fault_restore_ne_none_iff hf bytes limit
  | _ => exact iff_of_false (fun h => h hf) id

theorem step_of_faulted (hf : s.fault = some fault) (w : ω) (tokens : List UInt32) :
    s.step w tokens = (.error (.faulted fault), s) := by
  rw [step, hf]

/-- A fault is lifted by the calls that bring the backend into step again, and by no others. -/
theorem fault_perform_eq_none_iff (hf : s.fault = some fault) (w : ω) (call : Call) :
    (s.perform w call).2.fault = none ↔ s.Lifts w call := by
  have hkept : ¬ s.fault = none := by simp [hf]
  cases call with
  | step tokens =>
    rw [perform_step, step_of_faulted hf]
    exact iff_of_false hkept id
  | rollback steps =>
    rw [perform_rollback]
    have hr := s.rollback_rolledBack w steps
    generalize s.rollback w steps = r at hr ⊢
    cases hr with
    | idle hf' hu => exact absurd hf' hkept
    | evicted ha he => exact iff_of_true rfl ⟨_, he⟩
    | failed ha he =>
      refine iff_of_false nofun ?_
      rintro ⟨b, he'⟩
      rw [he] at he'
      cases he'
    | crashed ha he =>
      refine iff_of_false hkept ?_
      rintro ⟨b, he'⟩
      rw [he] at he'
      cases he'
  | restore bytes limit =>
    rw [perform_restore]
    have hr := s.restore_restored w bytes limit
    have hlifts : s.Lifts w (.restore bytes limit) ↔ (s.restore w bytes limit).1 = .ok () :=
      ⟨fun ⟨_, h⟩ => congrArg Prod.fst h, fun h => ⟨_, Prod.ext h rfl⟩⟩
    rw [hlifts]
    generalize s.restore w bytes limit = r at hr ⊢
    cases hr with
    | taken => exact iff_of_true rfl rfl
    | unsaved hh hs ho => exact iff_of_false hkept ho
    | lost => exact iff_of_false nofun nofun
    | refused | putBack | crashed | crashedBack => exact iff_of_false hkept nofun
  | _ => exact iff_of_false hkept id

end Fault

section Refusal

/-- Every call that counts on the backend being in step is answered with the fault, and leaves the
session and the caller's buffer as they are. Only a peek for more scores than a buffer can hold
crashes, as it does without a fault. -/
structure Refuses (w : ω) (s : Session β) (fault : Fault) : Prop where
  step (tokens : List UInt32) : s.step w tokens = (.error (.faulted fault), s)
  peek {count : Nat} : 0 < count → s.peek w count =
    if Score.size * count ≤ Buffer.maxBytes then .error (.faulted fault)
    else .crash Buffer.overflowText
  peekInto {buffer : List Score} : buffer ≠ [] →
    s.peekInto w buffer = (.error (.faulted fault), buffer)
  snapshot (limit : Nat) : s.snapshot w limit = .error (.faulted fault)
  snapshotInto (buffer : Bytes) (limit : Nat) :
    s.snapshotInto w buffer limit = (.error (.faulted fault), buffer)

theorem peekInto_of_faulted (hf : s.fault = some fault) {buffer : List Score}
    (hne : buffer ≠ []) : s.peekInto w buffer = (.error (.faulted fault), buffer) := by
  rw [peekInto, if_neg hne, hf]

/-- Scores that no buffer can hold are refused by a crash, whether or not there is a fault. -/
theorem peek_of_large {count : Nat} (h : Buffer.maxBytes < Score.size * count) :
    s.peek w count = .crash Buffer.overflowText := by
  have hpos : count ≠ 0 := by
    rintro rfl
    cases h
  rw [peek, if_neg hpos, Buffer.make_of_lt h]

theorem peek_of_faulted (hf : s.fault = some fault) {count : Nat} (hpos : 0 < count) :
    s.peek w count =
      if Score.size * count ≤ Buffer.maxBytes then .error (.faulted fault)
      else .crash Buffer.overflowText := by
  split
  · rename_i hfits
    have hne : List.replicate count Score.zero ≠ [] := by
      rw [ne_eq, List.replicate_eq_nil_iff]
      omega
    rw [peek, if_neg (Nat.ne_of_gt hpos), Buffer.make_of_le hfits, peekInto_of_faulted hf hne]
    rfl
  · exact peek_of_large (by omega)

theorem refuses_of_faulted (hf : s.fault = some fault) : s.Refuses w fault where
  step := step_of_faulted hf w
  peek := peek_of_faulted hf
  peekInto := peekInto_of_faulted hf
  snapshot limit := by
    rw [Session.snapshot, checkedSize_of_faulted hf]
    rfl
  snapshotInto buffer limit := by
    rw [Session.snapshotInto, checkedSize_of_faulted hf]

/-- What a call may do to the history of a session that is faulted. -/
theorem committed_perform_of_faulted (hf : s.fault = some fault) (w : ω) (call : Call) :
    (s.perform w call).2.committed = s.committed ∨
      (∃ steps, call = .rollback steps ∧
        (s.perform w call).2.committed = s.committed.take (s.kept steps)) ∨
      ∃ bytes limit s', call = .restore bytes limit ∧ s.restore w bytes limit = (.ok (), s') := by
  cases call with
  | step tokens => exact .inl (by rw [perform_step, step_of_faulted hf])
  | rollback steps => exact .inr (.inl ⟨steps, rfl, (s.rollback_shortens w steps).2.1⟩)
  | restore bytes limit =>
    rw [perform_restore]
    have hr := s.restore_restored w bytes limit
    cases hrestore : s.restore w bytes limit with
    | mk outcome s' =>
      rw [hrestore] at hr
      cases hr with
      | taken => exact .inr (.inr ⟨bytes, limit, _, rfl, hrestore⟩)
      | refused | unsaved | putBack | lost | crashed | crashedBack => exact .inl rfl
  | _ => exact .inl rfl

/-- As long as a fault is not lifted, the history can only become shorter. -/
theorem committed_run_of_faulted (calls : List (ω × Call))
    (hf : ∀ before, before <+: calls → (s.run before).2.fault ≠ none) :
    (s.run calls).2.committed <+: s.committed := by
  induction calls generalizing s with
  | nil => exact List.prefix_rfl
  | cons made calls ih =>
    obtain ⟨w, call⟩ := made
    have hfirst : s.fault ≠ none := hf [] List.nil_prefix
    obtain ⟨fault, hfault⟩ := Option.ne_none_iff_exists'.mp hfirst
    have hrest := ih (s := (s.perform w call).2) fun before hbefore =>
      hf ((w, call) :: before) (List.cons_prefix_cons.mpr ⟨rfl, hbefore⟩)
    refine hrest.trans ?_
    rcases committed_perform_of_faulted hfault w call with hsame | ⟨steps, -, hcut⟩ |
      ⟨bytes, limit, s', rfl, hrestore⟩
    · rw [hsame]
    · rw [hcut]
      exact List.take_prefix ..
    · -- A restore that succeeds would have lifted the fault.
      refine absurd ?_ (hf [(w, .restore bytes limit)] ⟨calls, rfl⟩)
      exact (fault_perform_eq_none_iff hfault w (.restore bytes limit)).mpr ⟨s', hrestore⟩

end Refusal

/-- Let a new session over any backend be run with any calls, whichever of them fail. The position
is the length of the history. A call sets a fault exactly if it is one of `Faults`, and lifts one
exactly if it is one of `Lifts`. In between, whatever needs the backend to be in step is refused with
the fault, over this backend as over any other, so none is asked; a rollback shortens the history, a
restore that succeeds replaces it, and nothing else changes it. A step that fails changes none of
position, history and staged tokens. A rollback shortens the history and clears the staged tokens
whatever happens, and has the backend evict exactly if something is undone or there is a fault. -/
theorem fault_exact (b : β) (calls : List (ω × Call)) :
    let s := ((fresh b).run calls).2
    s.position = s.committed.length ∧
    (∀ (w : ω) (call : Call),
      (s.fault = none → ((s.perform w call).2.fault ≠ none ↔ s.Faults w call)) ∧
      (s.fault ≠ none → ((s.perform w call).2.fault = none ↔ s.Lifts w call))) ∧
    (∀ fault : Fault, s.fault = some fault →
      (∀ (ω' γ : Type) [Device γ] [Backend ω' γ] (w' : ω') (b' : γ),
        (s.withBackend b').Refuses w' fault) ∧
      ∀ (w : ω) (call : Call), (s.perform w call).2.committed = s.committed ∨
        (∃ steps, call = .rollback steps ∧
          (s.perform w call).2.committed = s.committed.take (s.kept steps)) ∨
        ∃ bytes limit s', call = .restore bytes limit ∧ s.restore w bytes limit = (.ok (), s')) ∧
    (∀ more : List (ω × Call), (∀ before, before <+: more → (s.run before).2.fault ≠ none) →
      (s.run more).2.committed <+: s.committed) ∧
    (∀ (w : ω) (tokens : List UInt32) (e : SessionError) (s' : Session β),
      s.step w tokens = (.error e, s') →
        s'.position = s.position ∧ s'.committed = s.committed ∧ s'.staged = s.staged) ∧
    ∀ (w : ω) (steps : Nat),
      (s.rollback w steps).2.position = s.position - min steps s.position ∧
      (s.rollback w steps).2.committed = s.committed.take (s.position - min steps s.position) ∧
      (s.rollback w steps).2.staged = [] ∧
      s.commands w (.rollback steps) =
        if min steps s.position = 0 ∧ s.fault = none then []
        else [.evict (s.position - min steps s.position)] := by
  intro s
  refine ⟨position_run rfl calls, fun w call => ⟨fun hf => ?_, fun hf => ?_⟩,
    fun fault hf => ⟨?_, ?_⟩, fun more => committed_run_of_faulted more,
    fun w tokens e s' => step_of_error, fun w steps => ?_⟩
  · exact fault_perform_ne_none_iff hf w call
  · obtain ⟨fault, hfault⟩ := Option.ne_none_iff_exists'.mp hf
    exact fault_perform_eq_none_iff hfault w call
  · intro ω' γ _ _ w' b'
    have hkept : (s.withBackend b').fault = some fault := hf
    exact refuses_of_faulted hkept
  · exact committed_perform_of_faulted hf
  · obtain ⟨hposition, hcommitted, hstaged⟩ := s.rollback_shortens w steps
    exact ⟨hposition, hcommitted, hstaged, s.commands_rollback w steps⟩

/-- A world in which a wrapped backend refuses to evict. -/
def holding : Simulation.World := { switches := { wrapperEvictError := some "busy" } }

/-- The buffer of a peek is made before the fault is looked at, so a peek for more scores than a
buffer can hold crashes on a session that is faulted, too. -/
theorem peek_of_faulted_crashes :
    (∀ o ∈ ((fresh wrapped).run [(holding, .step [9]), (holding, .rollback 1)]).1, o.Completed) ∧
    ((fresh wrapped).run [(holding, .step [9]), (holding, .rollback 1)]).2.fault =
      some (.staleCache (.engine "busy")) ∧
    ((fresh wrapped).run [(holding, .step [9]), (holding, .rollback 1)]).2.peek holding
      2305843009213693952 = .crash "capacity overflow" :=
  ⟨by decide, by decide, peek_of_large (by decide)⟩

end Decoding.Session
