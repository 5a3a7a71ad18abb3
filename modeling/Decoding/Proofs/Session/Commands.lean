import Decoding.Proofs.Session.Embedding

/-!
What a session asks of its backend. A recorder stands between the two and keeps, in order, the
commands that can change the backend. It answers every call as the backend does, so a session over
a recorder goes the same way, and what one call of a session asks can be read off the record.
-/

namespace Decoding

/-- A call that can change a backend. -/
inductive Backend.Command where
  | evaluate (held : Nat) (tokens : List UInt32)
  | evict (n : Nat)
  | deserialize (payload : Bytes)
  deriving DecidableEq, Repr

/-- A backend and the commands that it has been given, in order. -/
structure Recorder (β : Type) where
  inner : β
  commands : List Backend.Command := []

namespace Recorder

variable {ω α β : Type}

/-- The end of a command, which is on record however it ends. -/
def note (r : Recorder β) (command : Backend.Command) (ended : Outcome BackendError α × β) :
    Outcome BackendError α × Recorder β :=
  (ended.1, { inner := ended.2, commands := r.commands ++ [command] })

variable [Device β] [Backend ω β]

instance : Device (Recorder β) where
  name r := Device.name r.inner
  context r := Device.context r.inner
  release r := Device.release r.inner

instance : Backend ω (Recorder β) where
  evaluate w r held tokens :=
    r.note (.evaluate held tokens) (Backend.evaluate w r.inner held tokens)
  scores w r := Backend.scores w r.inner
  evict w r n := r.note (.evict n) (Backend.evict w r.inner n)
  stateSize w r := Backend.stateSize w r.inner
  serialize w r := Backend.serialize w r.inner
  deserialize w r payload := r.note (.deserialize payload) (Backend.deserialize w r.inner payload)
  tokenize w r := Backend.tokenize w r.inner
  piece w r := Backend.piece w r.inner
  memory w r := Backend.memory w r.inner

theorem embeds_inner : Backend.Embeds ω (inner : Recorder β → β) :=
  ⟨fun _ => rfl, fun _ => rfl, fun _ _ _ _ => rfl, fun _ _ => rfl, fun _ _ _ => rfl, fun _ _ => rfl,
    fun _ _ => rfl, fun _ _ _ => rfl, fun _ _ => rfl, fun _ _ => rfl, fun _ _ => rfl⟩

end Recorder

namespace Session

variable {ω β : Type} [Device β] [Backend ω β]

/-- The same session with its backend on record from now on. -/
def recorded (s : Session β) : Session (Recorder β) := s.map fun b => { inner := b }

/-- A session on record answers as it does off record, and ends as it does. -/
theorem perform_recorded (w : ω) (s : Session β) (call : Call) :
    s.perform w call = (s.recorded.perform w call).map id (map Recorder.inner) :=
  perform_map Recorder.embeds_inner s.recorded w call

/-- The commands that a call makes a session give to its backend. -/
def commands (w : ω) (s : Session β) (call : Call) : List Backend.Command :=
  (s.recorded.perform w call).2.backend.commands

/-- A rollback evicts, and does nothing else, unless there is nothing to undo and no fault. -/
theorem commands_rollback (w : ω) (s : Session β) (steps : Nat) :
    s.commands w (.rollback steps) =
      if min steps s.position = 0 ∧ s.fault = none then [] else [.evict (s.kept steps)] := by
  have hr := s.recorded.rollback_rolledBack w steps
  have hevicted {o : Outcome BackendError Unit} {r : Recorder β}
      (he : Backend.evict w s.recorded.backend (s.recorded.kept steps) = (o, r)) :
      r.commands = [.evict (s.kept steps)] := by
    obtain rfl : (Backend.evict w s.recorded.backend (s.recorded.kept steps)).2 = r :=
      congrArg Prod.snd he
    rfl
  have hasked (ha : s.recorded.fault = none → min steps s.recorded.position ≠ 0) :
      ¬ (min steps s.position = 0 ∧ s.fault = none) := fun h => ha h.2 h.1
  change (s.recorded.rollback w steps).2.backend.commands = _
  generalize s.recorded.rollback w steps = r at hr ⊢
  cases hr with
  | idle hf hu => exact (if_pos ⟨hu, hf⟩).symm
  | evicted ha he => rw [if_neg (hasked ha), ← hevicted he]
  | failed ha he => rw [if_neg (hasked ha), ← hevicted he]
  | crashed ha he => rw [if_neg (hasked ha), ← hevicted he]

end Session

end Decoding
