import Decoding.Proofs.Backend.Contract
import Decoding.Proofs.Session.Transitions

/-!
Agreement of history and context. The backend of a session that is not faulted should
hold exactly the committed tokens. Over a backend that keeps the contract, a run of
calls can break this in one way only: a restore fails, so does putting the former state
back, and a rollback then lifts the fault although the backend holds other tokens.
`agrees_throughout_iff` says so for whole runs, and `rollback_lifts_lost_state` is such
a run.
-/

namespace Decoding.Session

variable {ω β : Type}

/-- The fault of a session whose former state could not be put back. -/
def Fault.OfPutBack : Fault → Prop
  | .staleCache _ => False
  | .restoreShort | .restoreFailed _ => True

/-- The fault of the session says that the former state could not be put back. -/
def Lost (s : Session β) : Prop := ∃ fault, s.fault = some fault ∧ fault.OfPutBack

theorem not_lost_of_fault {s : Session β} (h : s.fault = none) : ¬ s.Lost := by
  rintro ⟨fault, hf, -⟩
  rw [h] at hf
  cases hf

variable [Device β] [Backend ω β]

/-- Unless the session is faulted, its backend holds exactly the committed tokens. -/
def Agrees (s : Session β) : Prop := s.fault = none → Device.context s.backend = s.committed

/-- If a rollback lifts a fault, the tokens that it keeps are the first ones that the backend
holds. -/
def LiftsSoundly (w : ω) (s : Session β) (steps : Nat) : Prop :=
  s.fault ≠ none → (s.rollback w steps).2.fault = none →
    (Device.context s.backend).take (s.kept steps) = s.committed.take (s.kept steps)

/-- The position counts the history, and the history agrees with the context. -/
structure Tracked (s : Session β) : Prop where
  position : s.position = s.committed.length
  agrees : s.Agrees

theorem Tracked.rollback {s : Session β} (hβ : Backend.Contract ω β) (h : s.Tracked) {w : ω}
    {steps : Nat} (hc : (s.rollback w steps).1.Completed) (hl : s.LiftsSoundly w steps) :
    (s.rollback w steps).2.Tracked := by
  have hlen : s.kept steps = (s.committed.take (s.kept steps)).length := by
    have := s.kept_le steps
    rw [List.length_take, ← h.position]
    omega
  have hr := s.rollback_rolledBack w steps
  unfold LiftsSoundly at hl
  generalize s.rollback w steps = r at hr hc hl ⊢
  cases hr with
  | idle hf hu =>
    refine ⟨hlen, fun _ => ?_⟩
    have hk : s.kept steps = s.committed.length := by rw [kept, hu, h.position, Nat.sub_zero]
    simp only [shortened, hk, List.take_length]
    exact h.agrees hf
  | evicted ha he =>
    refine ⟨hlen, fun _ => ?_⟩
    refine (hβ.evict_ok he).trans ?_
    by_cases hf : s.fault = none
    · rw [h.agrees hf]
      rfl
    · exact hl hf rfl
  | failed ha he => exact ⟨hlen, nofun⟩
  | crashed ha he => exact hc.elim

theorem Tracked.step {s : Session β} (hβ : Backend.Contract ω β) (h : s.Tracked) {w : ω}
    {tokens : List UInt32} (hc : (s.step w tokens).1.Completed) : (s.step w tokens).2.Tracked := by
  have hs := s.step_stepped w tokens
  generalize s.step w tokens = r at hs hc ⊢
  cases hs with
  | refused hf => exact h
  | idle hf ht => exact h
  | advanced hf ht he =>
    rw [h.position, ← h.agrees hf] at he
    refine ⟨?_, fun _ => ?_⟩
    · simp only [List.length_append, h.position]
    · rw [hβ.evaluate_ok he, h.agrees hf]
  | failed hf ht he =>
    refine ⟨h.position, fun _ => ?_⟩
    exact (hβ.evaluate_error he).trans (h.agrees hf)
  | crashed hf ht he => exact hc.elim

theorem Tracked.restore {s : Session β} (hβ : Backend.Contract ω β) (h : s.Tracked) {w : ω}
    {bytes : Bytes} {limit : Nat} (hc : (s.restore w bytes limit).1.Completed) :
    (s.restore w bytes limit).2.Tracked := by
  have hr := s.restore_restored w bytes limit
  generalize s.restore w bytes limit = r at hr hc ⊢
  cases hr with
  | refused he => exact h
  | unsaved hh hs ho => exact h
  | taken hh hs ht =>
    refine ⟨?_, fun _ => rfl⟩
    exact (takePayload_eq_ok_iff.mp ht).2.symm
  | putBack hh hs ht hp =>
    refine ⟨h.position, fun hf => ?_⟩
    exact (hβ.deserialize_ok (backup_eq_ok_iff.mp hs).2 hp).trans (h.agrees hf)
  | lost hh hs ht hp => exact ⟨h.position, nofun⟩
  | crashed hh hs ht => exact hc.elim
  | crashedBack hh hs ht hp => exact hc.elim

/-- A completed call keeps a session tracked, unless it is a rollback that lifts a fault
unsoundly. -/
theorem Tracked.perform {s : Session β} (hβ : Backend.Contract ω β) (h : s.Tracked) {w : ω}
    {call : Call} (hc : (s.perform w call).1.Completed)
    (hl : ∀ steps, call = .rollback steps → s.LiftsSoundly w steps) :
    (s.perform w call).2.Tracked := by
  cases call with
  | step tokens => exact h.step hβ ((Outcome.completed_map _ _).mp hc)
  | rollback steps => exact h.rollback hβ ((Outcome.completed_map _ _).mp hc) (hl steps rfl)
  | restore bytes limit => exact h.restore hβ ((Outcome.completed_map _ _).mp hc)
  | _ => exact h

/-- Conversely, a session that agrees after a rollback was rolled back soundly. -/
theorem liftsSoundly_of_agrees (hβ : Backend.Contract ω β) {s : Session β} {w : ω} {steps : Nat}
    (h : (s.rollback w steps).2.Agrees) : s.LiftsSoundly w steps := by
  intro hf hn
  have hr := s.rollback_rolledBack w steps
  generalize s.rollback w steps = r at hr h hn
  cases hr with
  | idle hf' hu => exact absurd hf' hf
  | evicted ha he => exact (hβ.evict_ok he).symm.trans (h rfl)
  | failed ha he => cases hn
  | crashed ha he => exact absurd hn hf

/-- The history of a tracked session is in front of what its backend holds, unless the former state
was lost. -/
structure Anchored (s : Session β) : Prop extends s.Tracked where
  front : ¬ s.Lost → s.committed <+: Device.context s.backend

theorem anchored_fresh {b : β} (hb : Device.context b = []) : (fresh b).Anchored :=
  ⟨⟨rfl, fun _ => hb⟩, fun _ => List.nil_prefix⟩

theorem Anchored.take_kept {s : Session β} (h : s.Anchored) (hl : ¬ s.Lost) (steps : Nat) :
    (Device.context s.backend).take (s.kept steps) = s.committed.take (s.kept steps) := by
  obtain ⟨more, hm⟩ := h.front hl
  rw [← hm, List.take_append_of_le_length (h.position ▸ s.kept_le steps)]

theorem Anchored.step {s : Session β} (hβ : Backend.Contract ω β) (h : s.Anchored) {w : ω}
    {tokens : List UInt32} (hc : (s.step w tokens).1.Completed) :
    (s.step w tokens).2.Anchored := by
  have ht := h.toTracked.step hβ hc
  refine ⟨ht, fun hn => ?_⟩
  have hs := s.step_stepped w tokens
  generalize s.step w tokens = r at hs hc hn ht ⊢
  cases hs with
  | refused hf => exact h.front hn
  | idle hf hx => exact h.front hn
  | advanced hf hx he =>
    simp only [ht.agrees rfl, List.prefix_rfl]
  | failed hf hx he =>
    rw [hβ.evaluate_error he]
    exact h.front (not_lost_of_fault hf)
  | crashed hf hx he => exact hc.elim

/-- Wherever an eviction leaves the context, the kept positions are not touched. -/
theorem Anchored.rollback {s : Session β} (hβ : Backend.Contract ω β)
    (hε : Backend.EvictsFromEnd ω β) (h : s.Anchored) {w : ω} {steps : Nat}
    (hc : (s.rollback w steps).1.Completed) (hl : ¬ s.Lost) :
    (s.rollback w steps).2.Anchored := by
  have hk := h.take_kept hl steps
  refine ⟨h.toTracked.rollback hβ hc fun _ _ => hk, fun _ => ?_⟩
  have hr := s.rollback_rolledBack w steps
  generalize s.rollback w steps = r at hr hc ⊢
  cases hr with
  | idle hf hu => exact (List.take_prefix ..).trans (h.front hl)
  | evicted ha he =>
    change s.committed.take _ <+: _
    simp only [hβ.evict_ok he, hk, List.prefix_rfl]
  | failed ha he =>
    change s.committed.take _ <+: _
    rw [← hk, ← hε he]
    exact List.take_prefix ..
  | crashed ha he => exact hc.elim

theorem Anchored.restore {s : Session β} (hβ : Backend.Contract ω β) (h : s.Anchored) {w : ω}
    {bytes : Bytes} {limit : Nat} (hc : (s.restore w bytes limit).1.Completed) :
    (s.restore w bytes limit).2.Anchored := by
  have ht := h.toTracked.restore hβ hc
  refine ⟨ht, fun hn => ?_⟩
  have hr := s.restore_restored w bytes limit
  generalize s.restore w bytes limit = r at hr hc hn ht ⊢
  cases hr with
  | refused he => exact h.front hn
  | unsaved hh hs ho => exact h.front hn
  | taken hh hs hp =>
    exact List.prefix_rfl
  | putBack hh hs hp hq =>
    change s.committed <+: _
    rw [hβ.deserialize_ok (backup_eq_ok_iff.mp hs).2 hq]
    exact h.front hn
  | lost hh hs hp hq =>
    refine absurd ⟨_, rfl, ?_⟩ hn
    obtain ⟨-, -, -, rfl⟩ | ⟨-, -, rfl⟩ := hq <;> trivial
  | crashed hh hs hp => exact hc.elim
  | crashedBack hh hs hp hq => exact hc.elim

/-- As long as no rollback is made on a lost state, the history stays in front of the context. -/
theorem Anchored.run {s : Session β} (hβ : Backend.Contract ω β) (hε : Backend.EvictsFromEnd ω β)
    (h : s.Anchored) {calls : List (ω × Call)} (hc : ∀ o ∈ (s.run calls).1, o.Completed)
    (hl : ∀ before w steps after, calls = before ++ (w, .rollback steps) :: after →
      ¬ (s.run before).2.Lost) : (s.run calls).2.Anchored := by
  induction calls generalizing s with
  | nil => exact h
  | cons p calls ih =>
    obtain ⟨w, call⟩ := p
    rw [run_cons] at hc ⊢
    have hfirst := hc _ List.mem_cons_self
    refine ih ?_ (fun o ho => hc o (List.mem_cons_of_mem _ ho)) ?_
    · cases call with
      | step tokens => exact h.step hβ ((Outcome.completed_map _ _).mp hfirst)
      | rollback steps =>
        exact h.rollback hβ hε ((Outcome.completed_map _ _).mp hfirst) (hl [] w steps calls rfl)
      | restore bytes limit => exact h.restore hβ ((Outcome.completed_map _ _).mp hfirst)
      | _ => exact h
    · rintro before v steps after rfl
      exact hl ((w, call) :: before) v steps after rfl

theorem agrees_of_liftsSoundly (hβ : Backend.Contract ω β) {s : Session β} (h : s.Tracked)
    {calls : List (ω × Call)} (hc : ∀ o ∈ (s.run calls).1, o.Completed)
    (hl : ∀ before w steps after, calls = before ++ (w, .rollback steps) :: after →
      (s.run before).2.LiftsSoundly w steps) :
    ∀ before, before <+: calls → (s.run before).2.Agrees := by
  induction calls generalizing s with
  | nil =>
    intro before hb
    rw [List.prefix_nil.mp hb]
    exact h.agrees
  | cons p calls ih =>
    obtain ⟨w, call⟩ := p
    rw [run_cons] at hc
    have hnext : (s.perform w call).2.Tracked := by
      apply h.perform hβ (hc _ List.mem_cons_self)
      rintro steps rfl
      exact hl [] w steps calls rfl
    have hrest := ih hnext (fun o ho => hc o (List.mem_cons_of_mem _ ho)) (by
      rintro before v steps after rfl
      exact hl ((w, call) :: before) v steps after rfl)
    rintro before ⟨more, hb⟩
    cases before with
    | nil => exact h.agrees
    | cons q before =>
      obtain ⟨rfl, rfl⟩ := List.cons.inj hb
      exact hrest before ⟨more, rfl⟩

/-- In a run of completed calls, sessions agree with their backends whenever they are not faulted
if and only if every rollback that lifts a fault finds the tokens it keeps in the backend. If a
failed eviction spares what it was not to discard, this is so as long as no rollback is made on a
lost state: only a restore makes good for that. -/
theorem agrees_throughout_iff (hβ : Backend.Contract ω β) {b : β} (hb : Device.context b = [])
    {calls : List (ω × Call)} (hc : ∀ o ∈ ((fresh b).run calls).1, o.Completed) :
    ((∀ before, before <+: calls → ((fresh b).run before).2.Agrees) ↔
      ∀ before w steps after, calls = before ++ (w, .rollback steps) :: after →
        ((fresh b).run before).2.LiftsSoundly w steps) ∧
    (Backend.EvictsFromEnd ω β →
      (∀ before w steps after, calls = before ++ (w, .rollback steps) :: after →
        ¬ ((fresh b).run before).2.Lost) →
      ∀ before, before <+: calls → ((fresh b).run before).2.Agrees) := by
  have hstart : (fresh b).Anchored := anchored_fresh hb
  have hsound := agrees_of_liftsSoundly hβ hstart.toTracked hc
  refine ⟨⟨?_, hsound⟩, ?_⟩
  · rintro h before w steps after rfl
    apply liftsSoundly_of_agrees hβ
    have hnext := h (before ++ [(w, .rollback steps)]) ⟨after, by simp⟩
    rwa [run_append] at hnext
  · intro hε hl
    apply hsound
    rintro before w steps after rfl _ _
    rw [run_append] at hc
    have hanchored := hstart.run hβ hε (fun o ho => hc o (List.mem_append_left _ ho))
      (fun before' v steps' after' h => hl before' v steps' _ (by rw [h, List.append_assoc]; rfl))
    exact hanchored.take_kept (hl before w steps after rfl) steps

/-- A snapshot of three tokens whose header says seven. -/
def misdeclared : Bytes :=
  (Snapshot.Header.current 7 16).encode ++ TokenContext.encode ⟨[1, 2, 3], 16⟩

/-- A wrapped stub with an empty context. -/
def wrapped : Simulation.Wrapper Stub :=
  { inner := .deterministic { model := "m", vocab := 50, window := 16 } }

/-- A world in which a wrapped backend refuses the second payload that it is handed. -/
def refusing : Simulation.World := { switches := { wrapperDeserializeFailure := some 2 } }

/-- A step, a restore that fails and loses the former state, and a rollback of nothing. -/
def losingRun : List (Simulation.World × Call) :=
  [(refusing, .step [9]), (refusing, .restore misdeclared 64), (refusing, .rollback 0)]

/-- A step, a rollback whose eviction fails, and another one that succeeds and lifts the fault. -/
def retriedRun : List (Simulation.World × Call) :=
  [({}, .step [9, 4]), ({ switches := { wrapperEvictError := some "busy" } }, .rollback 1),
    ({}, .rollback 0)]

/-- Of these runs, both of completed calls, the second one makes no rollback on a lost state and
agrees throughout. -/
theorem agrees_throughout_iff_losingRun :
    Device.context wrapped = [] ∧ (∀ o ∈ ((fresh wrapped).run losingRun).1, o.Completed) ∧
    ((∀ before, before <+: losingRun → ((fresh wrapped).run before).2.Agrees) ↔
      ∀ before w steps after, losingRun = before ++ (w, .rollback steps) :: after →
        ((fresh wrapped).run before).2.LiftsSoundly w steps) ∧
    (∀ o ∈ ((fresh wrapped).run retriedRun).1, o.Completed) ∧
    (∀ before w steps after, retriedRun = before ++ (w, .rollback steps) :: after →
      ¬ ((fresh wrapped).run before).2.Lost) ∧
    ∀ before, before <+: retriedRun → ((fresh wrapped).run before).2.Agrees := by
  have hcontract := Simulation.Wrapper.contract
  have hretried : ∀ o ∈ ((fresh wrapped).run retriedRun).1, o.Completed := by decide
  have hlost : ∀ before w steps after, retriedRun = before ++ (w, .rollback steps) :: after →
      ¬ ((fresh wrapped).run before).2.Lost := by
    -- the first rollback finds no fault, and the second one that of the first
    rintro (_ | ⟨p, _ | ⟨q, _ | ⟨r, before⟩⟩⟩) w steps after h
    · cases h
    · cases h
      exact not_lost_of_fault rfl
    · cases h
      rintro ⟨fault, hf, hp⟩
      cases hf
      exact hp
    · simp [retriedRun] at h
  exact ⟨rfl, by decide, (agrees_throughout_iff hcontract rfl (by decide)).1, hretried, hlost,
    (agrees_throughout_iff hcontract rfl hretried).2 Simulation.Wrapper.evictsFromEnd hlost⟩

/-- A backend that keeps the contract holds another token than the history, and no fault tells. -/
theorem rollback_lifts_lost_state :
    Backend.Contract Simulation.World (Simulation.Wrapper Stub) ∧ Device.context wrapped = [] ∧
    (∀ o ∈ ((fresh wrapped).run losingRun).1, o.Completed) ∧
    ((fresh wrapped).run losingRun).2.fault = none ∧
    ((fresh wrapped).run losingRun).2.committed = [9] ∧
    Device.context ((fresh wrapped).run losingRun).2.backend = [1] :=
  ⟨Simulation.Wrapper.contract, rfl, by decide, by decide, by decide, by decide⟩

end Decoding.Session
