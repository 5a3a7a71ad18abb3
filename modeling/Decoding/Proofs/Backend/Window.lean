import Decoding.Proofs.Backend.Contract
import Decoding.Proofs.Backend.Engine
import Decoding.Proofs.Session.Keeping

/-!
The window of a backend. Its size never changes, and the context never outgrows it: an evaluation
is refused if there is no room, and so is a payload whose context is too long. This holds of stubs,
and of engine backends whatever their engine does.
-/

namespace Decoding

/-- A context of the given window that has not outgrown it. -/
structure TokenContext.Within (n : Nat) (c : TokenContext) : Prop where
  window : c.window = n
  length : c.length ≤ n

namespace TokenContext

variable {n : Nat} {c : TokenContext}

theorem within_empty (n : Nat) : (empty n).Within n := ⟨rfl, Nat.zero_le n⟩

theorem Within.truncate (h : c.Within n) (m : Nat) : (c.truncate m).Within n :=
  ⟨h.window, Nat.le_trans (List.length_take_le' ..) h.length⟩

theorem Within.append (h : c.Within n) {tokens : List UInt32}
    (hroom : c.length + tokens.length ≤ c.window) :
    Within n { c with tokens := c.tokens ++ tokens } := by
  refine ⟨h.window, ?_⟩
  rw [h.window] at hroom
  simpa only [TokenContext.length, List.length_append] using hroom

end TokenContext

namespace Stub

variable {ω : Type}

/-- A command can only change the tokens of a stub, and to no more of them than the window has
room for. -/
theorem exists_holding (w : ω) (b : Stub) (command : Backend.Command) :
    ∃ tokens, Backend.obey w b command = b.holding tokens ∧
      (b.context.length ≤ b.context.window → tokens.length ≤ b.context.window) := by
  cases command with
  | evaluate held tokens =>
    rcases Outcome.commit_snd b ((b.evaluate held tokens).map fun b' => ((), b')) with h | ⟨u, h⟩
    · exact ⟨b.context.tokens, h, id⟩
    · obtain ⟨b', he, hb⟩ := Except.map_eq_ok_iff.mp h
      obtain ⟨-, -, hroom, rfl⟩ := evaluate_eq_ok_iff.mp he
      refine ⟨b.context.tokens ++ tokens, (Prod.ext_iff.mp hb).2.symm, fun _ => ?_⟩
      rw [List.length_append]
      exact hroom
  | evict n =>
    exact ⟨b.context.tokens.take n, rfl, Nat.le_trans (List.length_take_le' ..)⟩
  | deserialize payload =>
    rcases Outcome.commit_snd b (b.restore payload) with h | ⟨n, h⟩
    · exact ⟨b.context.tokens, h, id⟩
    · obtain ⟨tokens, rest, -, hfits, -, -, hb⟩ := restore_eq_ok_iff.mp h
      exact ⟨tokens, hb, fun _ => hfits.window⟩

theorem keeps_scoring (scoring : Scoring) :
    Backend.Keeps ω fun b : Stub => b.scoring = scoring := by
  refine Backend.keeps_of_obey fun w b command h => ?_
  obtain ⟨tokens, hb, -⟩ := exists_holding w b command
  rw [hb]
  exact h

theorem keeps_within (n : Nat) : Backend.Keeps ω fun b : Stub => b.context.Within n := by
  refine Backend.keeps_of_obey fun w b command h => ?_
  obtain ⟨tokens, hb, hle⟩ := exists_holding w b command
  rw [hb]
  rw [h.window] at hle
  exact ⟨h.window, hle h.length⟩

end Stub

namespace EngineBackend

variable {ω ε : Type} [Engine ω ε]

theorem Evaluated.within {w : ω} {b : EngineBackend ε} {held n : Nat} {tokens : List UInt32}
    {r : Outcome BackendError Unit × EngineBackend ε} {asks : List Engine.Command}
    (he : Evaluated w b held tokens r asks) (h : b.context.Within n) : r.2.context.Within n := by
  cases he with
  | advanced ha he => exact h.append ha.2
  | _ => exact h

theorem Deserialized.within {w : ω} {b : EngineBackend ε} {n : Nat} {payload : Bytes}
    {r : Outcome BackendError Nat × EngineBackend ε} {asks : List Engine.Command}
    (hd : Deserialized w b payload r asks) (h : b.context.Within n) : r.2.context.Within n := by
  cases hd with
  | taken hp hl =>
    obtain ⟨_, -, hwithin, -⟩ := Sections.decode_eq_ok_iff.mp hp
    rw [h.window] at hwithin
    exact ⟨hwithin.window, hwithin.context⟩
  | _ => exact h

/-- The window holds whatever the engine does, since the engine is never asked about it. -/
theorem keeps_within (n : Nat) :
    Backend.Keeps ω fun b : EngineBackend ε => b.context.Within n where
  evaluate w held tokens h := (evaluate_evaluated w _ held tokens).within h
  evict _ m h := h.truncate m
  deserialize w payload h := (deserialize_deserialized w _ payload).within h

end EngineBackend

end Decoding
