import Decoding.Proofs.Backend.Window
import Decoding.Simulation.Engine

/-!
What an engine backend keeps beside its engine: the context and the logits. Over any engine, they
change together with an evaluation or a payload that goes through, and not at all otherwise. The
window is checked before the engine is asked, and the same check after it never refuses; an engine
that has failed is told to drop what it may have written.
-/

namespace Decoding

/-- An error is not one that holds itself as its cause. -/
theorem BackendError.ne_partialEvaluation (e cleanup : BackendError) :
    e ≠ .partialEvaluation e cleanup := by
  intro h
  have hsize := congrArg sizeOf h
  simp only [partialEvaluation.sizeOf_spec] at hsize
  omega

/-- An engine that answers every evaluation with the same error, and has nothing to remove. -/
structure Engine.Failing where
  error : BackendError

instance : Engine Unit Engine.Failing where
  eval _ e _ _ := (.error e.error, e)
  removeFrom _ e _ := (.ok (), e)
  stateSize _ _ := .ok 0
  save _ _ := .ok []
  load _ e bytes := (.ok bytes.length, e)
  tokenize _ _ _ := .ok []
  piece _ _ _ := .ok []
  vocab _ _ := .ok 0
  memory _ _ := .ok 0

namespace EngineBackend

variable {ε : Type}

/-- The window check refuses tokens with an error. -/
def Refuses (b : EngineBackend ε) (held : Nat) (tokens : List UInt32) (e : BackendError) : Prop :=
  held ≠ b.context.length ∧ e = .prefixMismatch b.context.length held ∨
    held = b.context.length ∧ b.context.window < b.context.length + tokens.length ∧
      e = .contextFull (b.context.length + tokens.length) b.context.window

theorem checkAppend_eq_error_iff {b : EngineBackend ε} {held : Nat} {tokens : List UInt32}
    {e : BackendError} :
    b.context.checkAppend held tokens = .error e ↔ b.Refuses held tokens e := by
  unfold TokenContext.checkAppend Refuses
  split
  · rename_i h
    simp only [Except.error.injEq, h, ne_eq, not_false_eq_true, true_and, false_and, or_false]
    exact eq_comm
  · rename_i h
    rw [ne_eq, Classical.not_not] at h
    split
    · rename_i hw
      simp only [Except.error.injEq, h, hw, ne_eq, not_true_eq_false, true_and, false_and,
        false_or]
      exact eq_comm
    · rename_i hw
      simp [h, hw]

variable {ω : Type} [Engine ω ε] {w : ω} {b : EngineBackend ε} {held : Nat} {tokens : List UInt32}
  {payload : Bytes}

/-- What the window check refuses, it refuses over any engine, which is left as it is. -/
theorem evaluate_of_refuses {e : BackendError} (h : b.Refuses held tokens e) :
    b.evaluate w held tokens = (.error e, b) := by
  simp only [evaluate, checkAppend_eq_error_iff.mpr h]

theorem Evaluated.kept {r : Outcome BackendError Unit × EngineBackend ε}
    {asks : List Engine.Command} (h : Evaluated w b held tokens r asks) (hr : r.1 ≠ .ok ()) :
    r.2.context = b.context ∧ r.2.logits = b.logits := by
  cases h with
  | advanced => exact absurd rfl hr
  | _ => exact ⟨rfl, rfl⟩

theorem Deserialized.kept {r : Outcome BackendError Nat × EngineBackend ε}
    {asks : List Engine.Command} (h : Deserialized w b payload r asks) (hr : ∀ n, r.1 ≠ .ok n) :
    r.2.context = b.context ∧ r.2.logits = b.logits := by
  cases h with
  | taken => exact absurd rfl (hr _)
  | _ => exact ⟨rfl, rfl⟩

/-- The engine has failed with `cause` in evaluating admitted tokens and has been told to drop what
it may have written, which ended in `removal` and left it as `engine`. -/
def Undoes (w : ω) (b : EngineBackend ε) (held : Nat) (tokens : List UInt32) (cause : BackendError)
    (removal : Outcome BackendError Unit) (engine : ε) : Prop :=
  b.Admits held tokens ∧ b.evaluationAsks w held tokens = [.eval held tokens, .removeFrom held] ∧
    ∃ left, Engine.eval w b.engine held tokens = (.error cause, left) ∧
      Engine.removeFrom w left held = (removal, engine)

/-- An evaluation fails because the window check refuses it, or because the engine fails. -/
theorem evaluate_eq_error {e : BackendError} {b' : EngineBackend ε}
    (h : b.evaluate w held tokens = (.error e, b')) :
    b.Refuses held tokens e ∧ b' = b ∧ b.evaluationAsks w held tokens = [] ∨
      ∃ cause removal, b.Undoes w held tokens cause removal b'.engine ∧
        (removal = .ok () ∧ e = cause ∨
          ∃ cleanup, removal = .error cleanup ∧ e = .partialEvaluation cause cleanup) := by
  have he := evaluate_evaluated w b held tokens
  rw [h] at he
  generalize hasks : b.evaluationAsks w held tokens = asks at he
  cases he with
  | refused hc => exact .inl ⟨checkAppend_eq_error_iff.mp hc, rfl, rfl⟩
  | undone ha he hr => exact .inr ⟨e, _, ⟨ha, hasks, _, he, hr⟩, .inl ⟨rfl, rfl⟩⟩
  | leftover ha he hr => exact .inr ⟨_, _, ⟨ha, hasks, _, he, hr⟩, .inr ⟨_, rfl, rfl⟩⟩

/-- An evaluation that the engine completes goes through, and no other does. -/
theorem evaluate_eq_ok_iff {b' : EngineBackend ε} :
    b.evaluate w held tokens = (.ok (), b') ↔
      b.Admits held tokens ∧ ∃ logits engine,
        Engine.eval w b.engine held tokens = (.ok logits, engine) ∧
          b' = b.extended engine tokens logits := by
  constructor
  · intro h
    have he := evaluate_evaluated w b held tokens
    rw [h] at he
    generalize b.evaluationAsks w held tokens = asks at he
    cases he with
    | advanced ha he => exact ⟨ha, _, _, he, rfl⟩
  · rintro ⟨ha, logits, engine, he, rfl⟩
    simp only [evaluate, checkAppend_eq_ok_iff.mpr ha, he, append_of_admits ha, extended]

/-- A payload is taken if it falls into sections and the engine takes its own to the last byte. -/
theorem deserialize_eq_ok_iff {n : Nat} {b' : EngineBackend ε} :
    b.deserialize w payload = (.ok n, b') ↔
      ∃ parts : Sections, (∃ width, Engine.vocab w b.engine = .ok width ∧
          parts.Within b.context.window width) ∧
        payload = parts.encode ∧ n = payload.length - parts.rest.length ∧ ∃ engine,
          Engine.load w b.engine parts.engine = (.ok parts.engine.length, engine) ∧
            b' = { engine, context := parts.context, logits := parts.logits } := by
  constructor
  · intro h
    have hd := deserialize_deserialized w b payload
    rw [h] at hd
    generalize b.deserializationAsks w payload = asks at hd
    cases hd with
    | taken hp hl =>
      obtain ⟨width, hv, hwithin, henc⟩ := Sections.decode_eq_ok_iff.mp hp
      exact ⟨_, ⟨width, hv, hwithin⟩, henc, rfl, _, hl, rfl⟩
  · rintro ⟨parts, ⟨width, hv, hwithin⟩, henc, rfl, engine, hl, rfl⟩
    simp only [deserialize, Sections.decode_eq_ok_iff.mpr ⟨width, hv, hwithin, henc⟩, hl,
      ↓reduceIte]

/-- The engine is asked to load nothing but its section of a payload that has been taken apart. -/
theorem exists_sections_of_asked {command : Engine.Command}
    (h : command ∈ b.deserializationAsks w payload) :
    ∃ parts : Sections, (∃ width, Engine.vocab w b.engine = .ok width ∧
        parts.Within b.context.window width) ∧
      payload = parts.encode ∧ command = .load parts.engine := by
  have hd := deserialize_deserialized w b payload
  generalize b.deserialize w payload = r at hd
  generalize b.deserializationAsks w payload = asks at h hd
  have hload {parts : Sections}
      (hp : Sections.decode b.context.window (Engine.vocab w b.engine) payload = .ok parts)
      (hm : command ∈ [Engine.Command.load parts.engine]) : ∃ parts : Sections,
        (∃ width, Engine.vocab w b.engine = .ok width ∧ parts.Within b.context.window width) ∧
          payload = parts.encode ∧ command = .load parts.engine := by
    obtain ⟨width, hv, hwithin, henc⟩ := Sections.decode_eq_ok_iff.mp hp
    exact ⟨parts, ⟨width, hv, hwithin⟩, henc, List.mem_singleton.mp hm⟩
  cases hd with
  | refused | crashedReading => cases h
  | taken hp | short hp | failed hp | crashed hp => exact hload hp h

/-- The error of an evaluation tells whether what the failed engine may have written is gone. -/
theorem eq_partialEvaluation_iff {e cause : BackendError} {removal : Outcome BackendError Unit}
    (h : removal = .ok () ∧ e = cause ∨
      ∃ cleanup, removal = .error cleanup ∧ e = .partialEvaluation cause cleanup) :
    ((∃ cleanup, e = .partialEvaluation cause cleanup) ↔ ∃ cleanup, removal = .error cleanup) ∧
      (e.leavesCacheDirty = true ↔
        cause.leavesCacheDirty = true ∨ ∃ cleanup, removal = .error cleanup) := by
  rcases h with ⟨rfl, rfl⟩ | ⟨cleanup, rfl, rfl⟩
  · refine ⟨iff_of_false ?_ nofun, by simp⟩
    rintro ⟨cleanup, h⟩
    exact e.ne_partialEvaluation cleanup h
  · exact ⟨iff_of_true ⟨cleanup, rfl⟩ ⟨cleanup, rfl⟩, by simp [BackendError.leavesCacheDirty]⟩

/-- The bookkeeping of a backend over any engine. An evaluation that does not go through leaves
context and logits as they are. It is refused by the window check, over this engine as over any
other, and then the engine is not asked; or the engine has failed and has been told to drop the
positions from `held` on, and the error is a partial evaluation of the engine's error exactly if
that has failed too. An evaluation that the engine completes goes through and extends the context by
the tokens. A payload that is not taken leaves context and logits as they are, and the engine is
only asked to load its section of a payload that has been taken apart. After any commands, however
they ended, the context is within its window. -/
theorem bookkeeping_atomic (w : ω) (b : EngineBackend ε) :
    (∀ (held : Nat) (tokens : List UInt32),
      ((b.evaluate w held tokens).1 ≠ .ok () →
        (b.evaluate w held tokens).2.context = b.context ∧
          (b.evaluate w held tokens).2.logits = b.logits) ∧
      (∀ (e : BackendError) (b' : EngineBackend ε), b.evaluate w held tokens = (.error e, b') →
        (b.Refuses held tokens e ∧ b' = b ∧ b.evaluationAsks w held tokens = [] ∧
          ∀ (ω' ε' : Type) [Engine ω' ε'] (w' : ω') (engine : ε'),
            (b.withEngine engine).evaluate w' held tokens = (.error e, b.withEngine engine)) ∨
        ∃ cause removal, b.Undoes w held tokens cause removal b'.engine ∧
          (removal = .ok () ∧ e = cause ∨
            ∃ cleanup, removal = .error cleanup ∧ e = .partialEvaluation cause cleanup) ∧
          ((∃ cleanup, e = .partialEvaluation cause cleanup) ↔
            ∃ cleanup, removal = .error cleanup) ∧
          (e.leavesCacheDirty = true ↔
            cause.leavesCacheDirty = true ∨ ∃ cleanup, removal = .error cleanup)) ∧
      ∀ b' : EngineBackend ε, b.evaluate w held tokens = (.ok (), b') ↔
        b.Admits held tokens ∧ ∃ logits engine,
          Engine.eval w b.engine held tokens = (.ok logits, engine) ∧
            b' = b.extended engine tokens logits) ∧
    (∀ payload : Bytes,
      ((∀ n, (b.deserialize w payload).1 ≠ .ok n) →
        (b.deserialize w payload).2.context = b.context ∧
          (b.deserialize w payload).2.logits = b.logits) ∧
      (∀ command ∈ b.deserializationAsks w payload, ∃ parts : Sections,
        (∃ width, Engine.vocab w b.engine = .ok width ∧ parts.Within b.context.window width) ∧
          payload = parts.encode ∧ command = .load parts.engine) ∧
      ∀ (n : Nat) (b' : EngineBackend ε), b.deserialize w payload = (.ok n, b') ↔
        ∃ parts : Sections, (∃ width, Engine.vocab w b.engine = .ok width ∧
            parts.Within b.context.window width) ∧
          payload = parts.encode ∧ n = payload.length - parts.rest.length ∧ ∃ engine,
            Engine.load w b.engine parts.engine = (.ok parts.engine.length, engine) ∧
              b' = { engine, context := parts.context, logits := parts.logits }) ∧
    ∀ (engine : ε) (n : Nat) (commands : List (ω × Backend.Command)),
      (Backend.obeyAll (fresh engine n) commands).context.Within n := by
  refine ⟨fun held tokens => ⟨?_, ?_, fun b' => evaluate_eq_ok_iff⟩,
    fun payload => ⟨?_, fun command => exists_sections_of_asked, fun n b' => deserialize_eq_ok_iff⟩,
    fun engine n commands => ?_⟩
  · exact (evaluate_evaluated w b held tokens).kept
  · intro e b' h
    rcases evaluate_eq_error h with ⟨hr, hb, hasks⟩ | ⟨cause, removal, hundoes, he⟩
    · refine .inl ⟨hr, hb, hasks, fun ω' ε' _ w' engine => ?_⟩
      have hr' : (b.withEngine engine).Refuses held tokens e := hr
      exact evaluate_of_refuses hr'
    · exact .inr ⟨cause, removal, hundoes, he, eq_partialEvaluation_iff he⟩
  · exact (deserialize_deserialized w b payload).kept
  · exact (keeps_within n).obeyAll (TokenContext.within_empty n) commands

/-- An engine that fails to evaluate, and fails to drop what it has written, is asked for both. The
context and the logits stay. -/
theorem bookkeeping_atomic_leftover :
    let w : Simulation.World :=
      { switches := { evalError := some "busy", removeError := some "lost" } }
    let b : EngineBackend Simulation.Engine := ⟨⟨[5], 9⟩, ⟨[5], 4⟩, [.zero]⟩
    let e := BackendError.partialEvaluation (.engine "busy") (.engine "lost")
    b.evaluate w 1 [6, 7] = (.error e, ⟨⟨[5, 6], 9⟩, ⟨[5], 4⟩, [.zero]⟩) ∧
      ∃ cause removal, b.Undoes w 1 [6, 7] cause removal ⟨[5, 6], 9⟩ ∧
        ∃ cleanup, removal = .error cleanup ∧ e = .partialEvaluation cause cleanup := by
  intro w b e
  have hfailed : b.evaluate w 1 [6, 7] = (.error e, ⟨⟨[5, 6], 9⟩, ⟨[5], 4⟩, [.zero]⟩) := rfl
  refine ⟨hfailed, ?_⟩
  rcases ((bookkeeping_atomic w b).1 1 [6, 7]).2.1 _ _ hfailed with ⟨-, hb, -⟩ | hundone
  · exact absurd hb (by decide)
  · obtain ⟨cause, removal, hundoes, ⟨rfl, he⟩ | hcleanup, -⟩ := hundone
    · obtain ⟨-, -, left, heval, hremoval⟩ := hundoes
      cases heval
      cases hremoval
    · exact ⟨cause, removal, hundoes, hcleanup⟩

/-- The error alone does not tell whether the removal has failed. An engine may itself answer with a
partial evaluation, which is passed on after a removal that succeeds. If the removal crashes, the
evaluation does, and there is no error. -/
theorem partialEvaluation_passed_on :
    (let e := BackendError.partialEvaluation (.engine "busy") (.engine "lost")
      let b : EngineBackend Engine.Failing := .fresh ⟨e⟩ 4
      b.evaluate () 0 [6] = (.error e, b) ∧ b.Undoes () 0 [6] e (.ok ()) b.engine) ∧
    (let w : Simulation.World :=
        { switches := { evalError := some "busy", removeCrash := some "lost" } }
      let b : EngineBackend Simulation.Engine := .fresh ⟨[], 9⟩ 4
      (b.evaluate w 0 [6]).1 = .crash "lost" ∧
        b.Undoes w 0 [6] (.engine "busy") (.crash "lost") ⟨[6], 9⟩) :=
  ⟨⟨rfl, ⟨rfl, by decide⟩, rfl, _, rfl, rfl⟩, rfl, ⟨rfl, by decide⟩, rfl, _, rfl, rfl⟩

end EngineBackend

end Decoding
