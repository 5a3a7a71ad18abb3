import Decoding.Proofs.Outcome
import Decoding.Session.Call

/-!
What one call can do to a session, over any backend. Steps, rollbacks and restores are
the only calls that change a session; each has a few ways to end, and these are listed
once here. Facts about runs follow by induction from facts about one call.
-/

namespace Decoding.Session

open Snapshot

variable {ω β : Type}

/-- The position that a rollback goes back to. -/
def kept (s : Session β) (steps : Nat) : Nat := s.position - min steps s.position

theorem kept_le (s : Session β) (steps : Nat) : s.kept steps ≤ s.position := Nat.sub_le ..

/-- A session with its history shortened and its backend as it was. -/
def shortened (s : Session β) (steps : Nat) : Session β :=
  { s with position := s.kept steps, committed := s.committed.take (s.kept steps), staged := [] }

variable [Device β] [Backend ω β]

/-- The ways a step can end. -/
inductive Stepped (w : ω) (s : Session β) (tokens : List UInt32) :
    Outcome SessionError Nat × Session β → Prop
  | refused {fault : Fault} (hf : s.fault = some fault) :
    Stepped w s tokens (.error (.faulted fault), s)
  | idle (hf : s.fault = none) (ht : tokens = []) : Stepped w s tokens (.ok 0, s)
  | advanced {b : β} (hf : s.fault = none) (ht : tokens ≠ [])
      (he : Backend.evaluate w s.backend s.position tokens = (.ok (), b)) :
    Stepped w s tokens (.ok tokens.length,
      { backend := b
        position := s.position + tokens.length
        committed := s.committed ++ tokens
        staged := tokens
        fault := none })
  | failed {b : β} {e : BackendError} (hf : s.fault = none) (ht : tokens ≠ [])
      (he : Backend.evaluate w s.backend s.position tokens = (.error e, b)) :
    Stepped w s tokens (.error (.evaluation e),
      { s with backend := b, fault := if e.leavesCacheDirty then some (.staleCache e) else none })
  | crashed {b : β} {t : String} (hf : s.fault = none) (ht : tokens ≠ [])
      (he : Backend.evaluate w s.backend s.position tokens = (.crash t, b)) :
    Stepped w s tokens (.crash t, { s with backend := b })

theorem step_stepped (w : ω) (s : Session β) (tokens : List UInt32) :
    Stepped w s tokens (s.step w tokens) := by
  unfold step
  split
  · exact .refused (by assumption)
  · split
    · exact .idle (by assumption) (by assumption)
    · split
      · exact .advanced (by assumption) (by assumption) (by assumption)
      · exact .failed (by assumption) (by assumption) (by assumption)
      · exact .crashed (by assumption) (by assumption) (by assumption)

/-- The ways a rollback can end. The history is shortened in all of them. -/
inductive RolledBack (w : ω) (s : Session β) (steps : Nat) :
    Outcome SessionError Nat × Session β → Prop
  | idle (hf : s.fault = none) (hu : min steps s.position = 0) :
    RolledBack w s steps (.ok 0, s.shortened steps)
  | evicted {b : β} (ha : s.fault = none → min steps s.position ≠ 0)
      (he : Backend.evict w s.backend (s.kept steps) = (.ok (), b)) :
    RolledBack w s steps
      (.ok (min steps s.position), { s.shortened steps with backend := b, fault := none })
  | failed {b : β} {e : BackendError} (ha : s.fault = none → min steps s.position ≠ 0)
      (he : Backend.evict w s.backend (s.kept steps) = (.error e, b)) :
    RolledBack w s steps (.error (.eviction e),
      { s.shortened steps with backend := b, fault := some (.staleCache e) })
  | crashed {b : β} {t : String} (ha : s.fault = none → min steps s.position ≠ 0)
      (he : Backend.evict w s.backend (s.kept steps) = (.crash t, b)) :
    RolledBack w s steps (.crash t, { s.shortened steps with backend := b })

theorem rollback_rolledBack (w : ω) (s : Session β) (steps : Nat) :
    RolledBack w s steps (s.rollback w steps) := by
  unfold rollback
  simp only
  split
  · rename_i h
    exact .idle h.2 h.1
  · rename_i h
    have ha : s.fault = none → min steps s.position ≠ 0 := fun hf hu => h ⟨hu, hf⟩
    split
    · exact .evicted ha (by assumption)
    · exact .failed ha (by assumption)
    · exact .crashed ha (by assumption)

/-- The saved state is the serialized one, which a buffer must be able to hold. -/
theorem backup_eq_ok_iff {w : ω} {s : Session β} {bytes : Bytes} :
    s.backup w = .ok bytes ↔
      (∃ size, Backend.stateSize w s.backend = .ok size ∧ size.toNat ≤ Buffer.maxBytes) ∧
        Backend.serialize w s.backend = .ok bytes := by
  simp only [backup, Outcome.bind_eq_ok_iff, Outcome.lift_eq_ok_iff, exists_and_right.symm,
    and_assoc]
  refine exists_congr fun size => and_congr_right fun _ => ?_
  by_cases h : size.toNat ≤ Buffer.maxBytes
  · rw [Buffer.make_of_le h, Outcome.mapError_eq_ok_iff, and_iff_right h]
  · rw [Buffer.make_of_lt (Nat.lt_of_not_le h)]
    exact iff_of_false nofun fun hs => h hs.1

/-- A payload is taken if the backend takes all of it and then holds as many tokens as the header
says. -/
theorem takePayload_eq_ok_iff {w : ω} {b b' : β} {payload : Bytes} {position : Nat} :
    takePayload w b payload position = (.ok (), b') ↔
      Backend.deserialize w b payload = (.ok payload.length, b') ∧
        (Device.context b').length = position := by
  unfold takePayload
  split
  · rename_i h
    simp [h]
  · rename_i h
    simp [h]
  · rename_i consumed b₁ h
    simp only [h]
    split
    · rename_i hc
      simp [hc]
    · rename_i hc
      rw [Classical.not_not] at hc
      subst hc
      split
      · rename_i hp
        simp only [Prod.mk.injEq, reduceCtorEq, false_and, true_and, false_iff, not_and]
        rintro rfl
        exact hp
      · rename_i hp
        rw [Classical.not_not] at hp
        simp only [Prod.mk.injEq, true_and, iff_self_and]
        rintro rfl
        exact hp

/-- Whether a payload is taken or not, the backend is left as deserializing leaves it. -/
theorem takePayload_snd (w : ω) (b : β) (payload : Bytes) (position : Nat) :
    (takePayload w b payload position).2 = (Backend.deserialize w b payload).2 := by
  unfold takePayload
  split
  · simp [*]
  · simp [*]
  · rename_i h
    rw [h]
    simp only
    split
    · rfl
    · split <;> rfl

/-- The ways a restore can end. Once the payload has been handed to the backend, an error means
that the saved state was handed to it next. -/
inductive Restored (w : ω) (s : Session β) (bytes : Bytes) (limit : Nat) :
    Outcome SessionError Unit × Session β → Prop
  | refused {e : SessionError} (he : checkEnvelope bytes limit = .error e) :
    Restored w s bytes limit (.error e, s)
  | unsaved {header : Header} {o : Outcome SessionError Unit}
      (hh : checkEnvelope bytes limit = .ok header)
      (hs : ∀ backup, s.backup w ≠ .ok backup) (ho : o ≠ .ok ()) :
    Restored w s bytes limit (o, s)
  | taken {header : Header} {backup : Bytes} {b : β}
      (hh : checkEnvelope bytes limit = .ok header) (hs : s.backup w = .ok backup)
      (ht : takePayload w s.backend (bytes.drop headerSize) header.position.toNat = (.ok (), b)) :
    Restored w s bytes limit (.ok (),
      { backend := b
        position := header.position.toNat
        committed := Device.context b
        staged := []
        fault := none })
  | putBack {header : Header} {backup : Bytes} {b b' : β} {e : SessionError}
      (hh : checkEnvelope bytes limit = .ok header) (hs : s.backup w = .ok backup)
      (ht : takePayload w s.backend (bytes.drop headerSize) header.position.toNat = (.error e, b))
      (hp : Backend.deserialize w b backup = (.ok backup.length, b')) :
    Restored w s bytes limit (.error e, { s with backend := b' })
  | lost {header : Header} {backup : Bytes} {b b' : β} {e : SessionError} {fault : Fault}
      (hh : checkEnvelope bytes limit = .ok header) (hs : s.backup w = .ok backup)
      (ht : takePayload w s.backend (bytes.drop headerSize) header.position.toNat = (.error e, b))
      (hp : (∃ n, n ≠ backup.length ∧ Backend.deserialize w b backup = (.ok n, b') ∧
          fault = .restoreShort) ∨
        ∃ cause, Backend.deserialize w b backup = (.error cause, b') ∧
          fault = .restoreFailed cause) :
    Restored w s bytes limit (.error e, { s with backend := b', fault := some fault })
  | crashed {header : Header} {backup : Bytes} {b : β} {t : String}
      (hh : checkEnvelope bytes limit = .ok header) (hs : s.backup w = .ok backup)
      (ht : takePayload w s.backend (bytes.drop headerSize) header.position.toNat = (.crash t, b)) :
    Restored w s bytes limit (.crash t, { s with backend := b })
  | crashedBack {header : Header} {backup : Bytes} {b b' : β} {e : SessionError} {t : String}
      (hh : checkEnvelope bytes limit = .ok header) (hs : s.backup w = .ok backup)
      (ht : takePayload w s.backend (bytes.drop headerSize) header.position.toNat = (.error e, b))
      (hp : Backend.deserialize w b backup = (.crash t, b')) :
    Restored w s bytes limit (.crash t, { s with backend := b' })

/-- Whatever is wrong with a state that could not be put back, the backend has been handed it. -/
theorem deserialize_of_lost {w : ω} {b b' : β} {backup : Bytes} {fault : Fault}
    (h : (∃ n, n ≠ backup.length ∧ Backend.deserialize w b backup = (.ok n, b') ∧
        fault = .restoreShort) ∨
      ∃ cause, Backend.deserialize w b backup = (.error cause, b') ∧
        fault = .restoreFailed cause) :
    ∃ o, Backend.deserialize w b backup = (o, b') := by
  obtain ⟨n, -, hd, -⟩ | ⟨cause, hd, -⟩ := h
  · exact ⟨_, hd⟩
  · exact ⟨_, hd⟩

theorem restore_restored (w : ω) (s : Session β) (bytes : Bytes) (limit : Nat) :
    Restored w s bytes limit (s.restore w bytes limit) := by
  unfold restore
  split
  · exact .refused (by assumption)
  · rename_i header hh
    split
    · rename_i e hs
      exact .unsaved hh (fun backup hb => by rw [hs] at hb; cases hb) nofun
    · rename_i t hs
      exact .unsaved hh (fun backup hb => by rw [hs] at hb; cases hb) nofun
    · rename_i backup hs
      split
      · exact .taken hh hs (by assumption)
      · rename_i e b ht
        unfold Session.putBack
        split
        · rename_i n b' hp
          by_cases hn : n = backup.length
          · subst hn
            simpa using Restored.putBack hh hs ht hp
          · simpa [hn] using Restored.lost hh hs ht (.inl ⟨n, hn, hp, rfl⟩)
        · rename_i cause b' hp
          exact .lost hh hs ht (.inr ⟨cause, hp, rfl⟩)
        · exact .crashedBack hh hs ht (by assumption)
      · exact .crashed hh hs (by assumption)

@[simp] theorem perform_step (w : ω) (s : Session β) (tokens : List UInt32) :
    (s.perform w (.step tokens)).2 = (s.step w tokens).2 := rfl
@[simp] theorem perform_rollback (w : ω) (s : Session β) (steps : Nat) :
    (s.perform w (.rollback steps)).2 = (s.rollback w steps).2 := rfl
@[simp] theorem perform_restore (w : ω) (s : Session β) (bytes : Bytes) (limit : Nat) :
    (s.perform w (.restore bytes limit)).2 = (s.restore w bytes limit).2 := rfl

theorem run_cons (s : Session β) (w : ω) (call : Call) (calls : List (ω × Call)) :
    s.run ((w, call) :: calls) =
      ((s.perform w call).1 :: ((s.perform w call).2.run calls).1,
        ((s.perform w call).2.run calls).2) := rfl

theorem run_of_perform {s s' s'' : Session β} {w : ω} {call : Call} {calls : List (ω × Call)}
    {o : Outcome SessionError Reply} {os : List (Outcome SessionError Reply)}
    (h : s.perform w call = (o, s')) (h' : s'.run calls = (os, s'')) :
    s.run ((w, call) :: calls) = (o :: os, s'') := by
  rw [run_cons, h, h']

theorem run_append (s : Session β) (before after : List (ω × Call)) :
    s.run (before ++ after) =
      ((s.run before).1 ++ ((s.run before).2.run after).1, ((s.run before).2.run after).2) := by
  induction before generalizing s with
  | nil => rfl
  | cons p before ih =>
    obtain ⟨w, call⟩ := p
    simp only [List.cons_append, run_cons, ih]

end Decoding.Session
