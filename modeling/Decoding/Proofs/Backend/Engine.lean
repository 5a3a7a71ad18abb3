import Decoding.Proofs.Backend.Payload

/-!
What a backend asks of its engine, whatever engine that is. A recorder stands between the two and
keeps, in order, the commands that can change the engine. The ways in which an evaluation or the
restoring of a payload can end are listed once, each with what the engine has been asked by then.
-/

namespace Decoding

/-- A call that can change an engine. -/
inductive Engine.Command where
  | eval (held : Nat) (tokens : List UInt32)
  | removeFrom (n : Nat)
  | load (bytes : Bytes)
  deriving DecidableEq, Repr

/-- An engine and the commands that it has been given, in order. -/
structure Engine.Recorder (ε : Type) where
  inner : ε
  commands : List Engine.Command := []

namespace Engine.Recorder

variable {ω α ε : Type}

/-- The end of a command, which is on record however it ends. -/
def note (r : Recorder ε) (command : Command) (ended : Outcome BackendError α × ε) :
    Outcome BackendError α × Recorder ε :=
  (ended.1, { inner := ended.2, commands := r.commands ++ [command] })

variable [Engine ω ε]

instance : Engine ω (Recorder ε) where
  eval w r held tokens := r.note (.eval held tokens) (Engine.eval w r.inner held tokens)
  removeFrom w r n := r.note (.removeFrom n) (Engine.removeFrom w r.inner n)
  stateSize w r := Engine.stateSize w r.inner
  save w r := Engine.save w r.inner
  load w r bytes := r.note (.load bytes) (Engine.load w r.inner bytes)
  tokenize w r := Engine.tokenize w r.inner
  piece w r := Engine.piece w r.inner
  vocab w r := Engine.vocab w r.inner
  memory w r := Engine.memory w r.inner

variable {w : ω} {r : Recorder ε}

theorem eval_of {held : Nat} {tokens : List UInt32} {o : Outcome BackendError (List Score)} {e : ε}
    (h : Engine.eval w r.inner held tokens = (o, e)) :
    Engine.eval w r held tokens = (o, ⟨e, r.commands ++ [.eval held tokens]⟩) :=
  congrArg (r.note (.eval held tokens)) h

theorem removeFrom_of {n : Nat} {o : Outcome BackendError Unit} {e : ε}
    (h : Engine.removeFrom w r.inner n = (o, e)) :
    Engine.removeFrom w r n = (o, ⟨e, r.commands ++ [.removeFrom n]⟩) :=
  congrArg (r.note (.removeFrom n)) h

theorem load_of {bytes : Bytes} {o : Outcome BackendError Nat} {e : ε}
    (h : Engine.load w r.inner bytes = (o, e)) :
    Engine.load w r bytes = (o, ⟨e, r.commands ++ [.load bytes]⟩) :=
  congrArg (r.note (.load bytes)) h

end Engine.Recorder

namespace EngineBackend

variable {ω ε ε' : Type}

/-- The same backend over another engine. -/
def withEngine (b : EngineBackend ε) (engine : ε') : EngineBackend ε' :=
  { engine, context := b.context, logits := b.logits }

/-- The same backend with its engine on record from now on. -/
def recorded (b : EngineBackend ε) : EngineBackend (Engine.Recorder ε) :=
  b.withEngine { inner := b.engine }

/-- The same backend with its engine off record. -/
def unrecorded (b : EngineBackend (Engine.Recorder ε)) : EngineBackend ε :=
  b.withEngine b.engine.inner

/-- Tokens may follow the first `held` ones: these are all there are, and the window has room. -/
def Admits (b : EngineBackend ε) (held : Nat) (tokens : List UInt32) : Prop :=
  held = b.context.length ∧ b.context.length + tokens.length ≤ b.context.window

/-- The backend after an evaluation that the engine has completed. -/
def extended (b : EngineBackend ε) (engine : ε) (tokens : List UInt32) (logits : List Score) :
    EngineBackend ε :=
  { engine, context := { b.context with tokens := b.context.tokens ++ tokens }, logits }

variable [Engine ω ε]

/-- What an evaluation asks of the engine. -/
def evaluationAsks (w : ω) (b : EngineBackend ε) (held : Nat) (tokens : List UInt32) :
    List Engine.Command :=
  (b.recorded.evaluate w held tokens).2.engine.commands

/-- What restoring a payload asks of the engine. -/
def deserializationAsks (w : ω) (b : EngineBackend ε) (payload : Bytes) : List Engine.Command :=
  (b.recorded.deserialize w payload).2.engine.commands

omit [Engine ω ε] in
theorem append_of_admits {b : EngineBackend ε} {held : Nat} {tokens : List UInt32}
    (h : b.Admits held tokens) : b.context.append held tokens =
      .ok { b.context with tokens := b.context.tokens ++ tokens } :=
  TokenContext.append_eq_ok_iff.mpr ⟨h.1, h.2, rfl⟩

omit [Engine ω ε] in
theorem checkAppend_eq_ok_iff {b : EngineBackend ε} {held : Nat} {tokens : List UInt32} :
    b.context.checkAppend held tokens = .ok () ↔ b.Admits held tokens := by
  unfold TokenContext.checkAppend Admits
  split
  · exact iff_of_false nofun fun h => by omega
  · split
    · exact iff_of_false nofun fun h => by omega
    · exact iff_of_true rfl ⟨by omega, by omega⟩

/-- A backend on record answers as it does off record, and ends as it does. -/
theorem evaluate_recorded (w : ω) (b : EngineBackend ε) (held : Nat) (tokens : List UInt32) :
    b.evaluate w held tokens = (b.recorded.evaluate w held tokens).map id unrecorded := by
  unfold evaluate recorded
  simp only [withEngine]
  cases hc : b.context.checkAppend held tokens with
  | error e => rfl
  | ok u =>
    obtain ⟨o, left, he⟩ : ∃ o left, Engine.eval w b.engine held tokens = (o, left) := ⟨_, _, rfl⟩
    simp only [he, Engine.Recorder.eval_of (r := { inner := b.engine }) he]
    cases o with
    | ok logits => cases b.context.append held tokens <;> rfl
    | crash t => rfl
    | error cause =>
      obtain ⟨o, engine, hr⟩ : ∃ o engine, Engine.removeFrom w left held = (o, engine) :=
        ⟨_, _, rfl⟩
      simp only [hr, Engine.Recorder.removeFrom_of (r := ⟨left, [.eval held tokens]⟩) hr,
        List.nil_append]
      cases o <;> rfl

theorem deserialize_recorded (w : ω) (b : EngineBackend ε) (payload : Bytes) :
    b.deserialize w payload = (b.recorded.deserialize w payload).map id unrecorded := by
  have hvocab : Engine.vocab w b.recorded.engine = Engine.vocab w b.engine := rfl
  unfold deserialize
  rw [hvocab]
  unfold recorded
  simp only [withEngine]
  cases Sections.decode b.context.window (Engine.vocab w b.engine) payload with
  | error e => rfl
  | crash t => rfl
  | ok parts =>
    obtain ⟨o, engine, hl⟩ : ∃ o engine, Engine.load w b.engine parts.engine = (o, engine) :=
      ⟨_, _, rfl⟩
    simp only [hl, Engine.Recorder.load_of (r := { inner := b.engine }) hl]
    cases o with
    | ok consumed =>
      simp only
      split <;> rfl
    | error e => rfl
    | crash t => rfl

/-- The ways in which an evaluation can end, and what the engine has been asked. -/
inductive Evaluated (w : ω) (b : EngineBackend ε) (held : Nat) (tokens : List UInt32) :
    Outcome BackendError Unit × EngineBackend ε → List Engine.Command → Prop
  | refused {e : BackendError} (hc : b.context.checkAppend held tokens = .error e) :
    Evaluated w b held tokens (.error e, b) []
  | advanced {logits : List Score} {engine : ε} (ha : b.Admits held tokens)
      (he : Engine.eval w b.engine held tokens = (.ok logits, engine)) :
    Evaluated w b held tokens (.ok (), b.extended engine tokens logits) [.eval held tokens]
  | undone {cause : BackendError} {left engine : ε} (ha : b.Admits held tokens)
      (he : Engine.eval w b.engine held tokens = (.error cause, left))
      (hr : Engine.removeFrom w left held = (.ok (), engine)) :
    Evaluated w b held tokens (.error cause, b.withEngine engine)
      [.eval held tokens, .removeFrom held]
  | leftover {cause cleanup : BackendError} {left engine : ε} (ha : b.Admits held tokens)
      (he : Engine.eval w b.engine held tokens = (.error cause, left))
      (hr : Engine.removeFrom w left held = (.error cleanup, engine)) :
    Evaluated w b held tokens (.error (.partialEvaluation cause cleanup), b.withEngine engine)
      [.eval held tokens, .removeFrom held]
  | crashed {t : String} {engine : ε} (ha : b.Admits held tokens)
      (he : Engine.eval w b.engine held tokens = (.crash t, engine)) :
    Evaluated w b held tokens (.crash t, b.withEngine engine) [.eval held tokens]
  | crashedUndoing {cause : BackendError} {t : String} {left engine : ε}
      (ha : b.Admits held tokens)
      (he : Engine.eval w b.engine held tokens = (.error cause, left))
      (hr : Engine.removeFrom w left held = (.crash t, engine)) :
    Evaluated w b held tokens (.crash t, b.withEngine engine)
      [.eval held tokens, .removeFrom held]

theorem evaluate_evaluated (w : ω) (b : EngineBackend ε) (held : Nat) (tokens : List UInt32) :
    Evaluated w b held tokens (b.evaluate w held tokens) (b.evaluationAsks w held tokens) := by
  unfold evaluationAsks evaluate recorded
  cases hc : b.context.checkAppend held tokens with
  | error e =>
    simp only [withEngine, hc]
    exact .refused hc
  | ok u =>
    have ha : b.Admits held tokens := checkAppend_eq_ok_iff.mp hc
    obtain ⟨o, left, he⟩ : ∃ o left, Engine.eval w b.engine held tokens = (o, left) := ⟨_, _, rfl⟩
    simp only [withEngine, hc, he, Engine.Recorder.eval_of (r := { inner := b.engine }) he]
    cases o with
    | ok logits =>
      simp only [append_of_admits ha]
      exact .advanced ha he
    | crash t => exact .crashed ha he
    | error cause =>
      obtain ⟨o, engine, hr⟩ : ∃ o engine, Engine.removeFrom w left held = (o, engine) :=
        ⟨_, _, rfl⟩
      simp only [hr, Engine.Recorder.removeFrom_of (r := ⟨left, [.eval held tokens]⟩) hr,
        List.nil_append]
      cases o with
      | ok u => exact .undone ha he hr
      | error cleanup => exact .leftover ha he hr
      | crash t => exact .crashedUndoing ha he hr

/-- The ways in which restoring a payload can end, and what the engine has been asked. -/
inductive Deserialized (w : ω) (b : EngineBackend ε) (payload : Bytes) :
    Outcome BackendError Nat × EngineBackend ε → List Engine.Command → Prop
  | refused {e : BackendError}
      (hp : Sections.decode b.context.window (Engine.vocab w b.engine) payload = .error e) :
    Deserialized w b payload (.error e, b) []
  | crashedReading {t : String}
      (hp : Sections.decode b.context.window (Engine.vocab w b.engine) payload = .crash t) :
    Deserialized w b payload (.crash t, b) []
  | taken {parts : Sections} {engine : ε}
      (hp : Sections.decode b.context.window (Engine.vocab w b.engine) payload = .ok parts)
      (hl : Engine.load w b.engine parts.engine = (.ok parts.engine.length, engine)) :
    Deserialized w b payload (.ok (payload.length - parts.rest.length),
      { engine, context := parts.context, logits := parts.logits }) [.load parts.engine]
  | short {parts : Sections} {consumed : Nat} {engine : ε}
      (hp : Sections.decode b.context.window (Engine.vocab w b.engine) payload = .ok parts)
      (hl : Engine.load w b.engine parts.engine = (.ok consumed, engine))
      (hc : consumed ≠ parts.engine.length) :
    Deserialized w b payload
      (.error (.mismatch (.engineConsumed consumed parts.engine.length)), b.withEngine engine)
      [.load parts.engine]
  | failed {parts : Sections} {e : BackendError} {engine : ε}
      (hp : Sections.decode b.context.window (Engine.vocab w b.engine) payload = .ok parts)
      (hl : Engine.load w b.engine parts.engine = (.error e, engine)) :
    Deserialized w b payload (.error e, b.withEngine engine) [.load parts.engine]
  | crashed {parts : Sections} {t : String} {engine : ε}
      (hp : Sections.decode b.context.window (Engine.vocab w b.engine) payload = .ok parts)
      (hl : Engine.load w b.engine parts.engine = (.crash t, engine)) :
    Deserialized w b payload (.crash t, b.withEngine engine) [.load parts.engine]

theorem deserialize_deserialized (w : ω) (b : EngineBackend ε) (payload : Bytes) :
    Deserialized w b payload (b.deserialize w payload) (b.deserializationAsks w payload) := by
  have hvocab : Engine.vocab w b.recorded.engine = Engine.vocab w b.engine := rfl
  unfold deserializationAsks deserialize
  rw [hvocab]
  unfold recorded
  cases hp : Sections.decode b.context.window (Engine.vocab w b.engine) payload with
  | error e =>
    simp only [withEngine, hp]
    exact .refused hp
  | crash t =>
    simp only [withEngine, hp]
    exact .crashedReading hp
  | ok parts =>
    obtain ⟨o, engine, hl⟩ : ∃ o engine, Engine.load w b.engine parts.engine = (o, engine) :=
      ⟨_, _, rfl⟩
    simp only [withEngine, hp, hl, Engine.Recorder.load_of (r := { inner := b.engine }) hl,
      List.nil_append]
    cases o with
    | ok consumed =>
      by_cases hc : consumed = parts.engine.length
      · subst hc
        simp only [↓reduceIte]
        exact .taken hp hl
      · simp only [hc, ↓reduceIte]
        exact .short hp hl hc
    | error e => exact .failed hp hl
    | crash t => exact .crashed hp hl

end EngineBackend

end Decoding
