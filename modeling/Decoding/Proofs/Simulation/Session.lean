import Decoding.Proofs.Session.Reachable
import Decoding.Proofs.Simulation.Payload

/-!
Sessions over simulated engines, in worlds where the engine fails but neither crashes nor
misreports. The position counts the history and the context holds it, faulted or not. A
restore can break this in one way only: it replaces the state and then refuses what it
got, and the state to put back is too large for the word that its size is saved in.
-/

namespace Decoding.Simulation

open EngineBackend Session Snapshot

section Exported

variable {n m v : Nat} {s t : Session (EngineBackend Engine)} {w w' : World} {bytes : Bytes}

/-- The snapshot of a session. -/
def image (t : Session (EngineBackend Engine)) : Bytes :=
  (Header.current (.ofNat t.position) (.ofNat (written t.backend).length)).encode ++
    written t.backend

/-- What a session exports is its position and the payload of its backend. -/
theorem exports_eq (hw : w.Steady) (ht : Countable t.backend) (he : Exports w t bytes) :
    t.fault = none ∧ t.position < UInt32.size ∧
      Storable t.backend ∧ bytes = image t := by
  obtain ⟨limit, h⟩ := exports_iff.mp he
  obtain ⟨hf, hp, hsize, -, payload, hs, -, rfl⟩ := snapshot_eq_ok_iff.mp h
  obtain ⟨-, rfl⟩ := (serialize_eq_ok_iff hw ht).mp hs
  rw [List.length_append, length_written] at hsize
  simp only [maxPayload, maxSize, Config.maxCount] at hp hsize
  refine ⟨hf, ?_, ?_, rfl⟩
  · simp only [UInt32.size]
    omega
  · simp only [Storable, UInt32.size]
    omega

/-- The payload of a backend is taken whole by another one, if it is announced with as many tokens
as it has, or the other one is left as it is. -/
theorem takePayload_written (hw : w.Steady) {b₀ : EngineBackend Engine} (hb : Countable b₀)
    (b : EngineBackend Engine) :
    (∃ e, takePayload w b (written b₀) b₀.context.length = (.error e, b)) ∨
      b₀.context.length ≤ b.context.window ∧
        takePayload w b (written b₀) b₀.context.length = (.ok (), taking b b₀) := by
  rcases deserialize_written hw hb b with ⟨e, he⟩ | ⟨hroom, -, ht⟩
  · unfold takePayload
    rw [he]
    exact .inl ⟨_, rfl⟩
  · exact .inr ⟨hroom, takePayload_eq_ok_iff.mpr ⟨ht, rfl⟩⟩

/-- A snapshot that another session has exported is taken whole, or leaves the session as it is but
for a fault. -/
theorem restore_exported (hw : w.Steady) (hs : Countable s.backend) (hw' : w'.Steady)
    (ht : Countable t.backend) (hp : t.position = t.backend.context.length)
    (he : Exports w' t bytes) (limit : Nat) :
    (∃ o fault, o ≠ .ok () ∧ (fault = none → s.fault = none) ∧
        s.restore w bytes limit = (o, { s with fault })) ∨
      t.backend.context.length ≤ s.backend.context.window ∧ t.fault = none ∧
        s.restore w bytes limit = (.ok (),
          { backend := taking s.backend t.backend
            position := t.position
            committed := t.backend.context.tokens
            staged := []
            fault := none }) := by
  obtain ⟨hfault, hcount, -, rfl⟩ := exports_eq hw' ht he
  have hr := s.restore_restored w (image t) limit
  -- the header announces the tokens that there are, so only the backend can refuse the payload
  have hposition {header : Header} (hh : checkEnvelope (image t) limit = .ok header) :
      header.position.toNat = t.position := by
    rw [eq_of_checkEnvelope hh]
    exact UInt32.toNat_ofNat_of_lt' hcount
  have hpayload {header : Header} (hh : checkEnvelope (image t) limit = .ok header) :
      takePayload w s.backend ((image t).drop headerSize) header.position.toNat =
        takePayload w s.backend (written t.backend) t.backend.context.length := by
    rw [hposition hh, hp]
    rfl
  have hback {backup : Bytes} (hb : s.backup w = .ok backup) : backup = written s.backend :=
    ((serialize_eq_ok_iff hw hs).mp (backup_eq_ok_iff.mp hb).2).2
  have hleft {header : Header} {e : SessionError} {b : EngineBackend Engine}
      (hh : checkEnvelope (image t) limit = .ok header)
      (h : takePayload w s.backend ((image t).drop headerSize) header.position.toNat =
        (.error e, b)) : b = s.backend := by
    rw [hpayload hh] at h
    rcases takePayload_written hw ht s.backend with ⟨e, he⟩ | ⟨-, hok⟩
    · rw [he] at h
      cases h
      rfl
    · rw [hok] at h
      cases h
  generalize s.restore w (image t) limit = r at hr
  cases hr with
  | refused he => exact .inl ⟨.error _, s.fault, nofun, id, rfl⟩
  | unsaved hh hs' ho => exact .inl ⟨_, s.fault, ho, id, rfl⟩
  | taken hh hs' ht' =>
    rw [hpayload hh] at ht'
    rcases takePayload_written hw ht s.backend with ⟨e, he⟩ | ⟨hroom, hok⟩
    · rw [he] at ht'
      cases ht'
    · rw [hok] at ht'
      cases ht'
      rw [hposition hh]
      exact .inr ⟨hroom, hfault, rfl⟩
  | putBack hh hs' ht' hp' =>
    rw [hback hs', hleft hh ht'] at hp'
    obtain ⟨rfl, -⟩ := deserialize_own hw hs hp'
    exact .inl ⟨.error _, s.fault, nofun, id, rfl⟩
  | lost hh hs' ht' hf =>
    obtain ⟨o, hp'⟩ := deserialize_of_lost hf
    rw [hback hs', hleft hh ht'] at hp'
    obtain ⟨rfl, -⟩ := deserialize_own hw hs hp'
    exact .inl ⟨.error _, some _, nofun, nofun, rfl⟩
  | crashed hh hs' ht' =>
    rw [hpayload hh] at ht'
    rcases takePayload_written hw ht s.backend with ⟨e, he⟩ | ⟨-, hok⟩
    · rw [he] at ht'
      cases ht'
    · rw [hok] at ht'
      cases ht'
  | crashedBack hh hs' ht' hp' =>
    rw [hback hs', hleft hh ht'] at hp'
    obtain ⟨-, ho | ⟨e, ho⟩⟩ := deserialize_own hw hs hp'
    · cases ho
    · cases ho

end Exported

section Bounds

variable {n v : Nat} {b b₀ : EngineBackend Engine} {w : World}

/-- An engine that does not load changes nothing. -/
theorem takePayload_left (hw : w.Steady) (hb : Bounded n v b₀) {payload : Bytes} {position : Nat}
    {o : Outcome SessionError Unit} (h : takePayload w b₀ payload position = (o, b)) :
    Bounded n v b ∧ (w.switches.loadError = none ∨ b = b₀) ∧ o.Completed := by
  have hd := deserialize_deserialized hw b₀ payload
  have hsnd := takePayload_snd w b₀ payload position
  have hcompleted : (takePayload w b₀ payload position).1.Completed := by
    unfold takePayload
    generalize Backend.deserialize w b₀ payload = r at hd
    cases hd with
    | taken hl hp hd =>
      simp only
      split
      · trivial
      · split <;> trivial
    | partly hl hp hd hr => trivial
    | refused hd => trivial
  have hbounded := hb.deserialized hd
  rw [← hsnd, h] at hbounded
  rw [h] at hcompleted hsnd
  refine ⟨hbounded, ?_, hcompleted⟩
  simp only at hsnd
  rw [hsnd]
  generalize Backend.deserialize w b₀ payload = r at hd
  cases hd with
  | taken hl hp hd => exact .inl hl
  | partly hl hp hd hr => exact .inl hl
  | refused hd => exact .inr rfl

/-- The tokens of a saved state come back, wherever it is put, if a word can express its size. -/
theorem deserialize_back (hw : w.Steady) (hb₀ : Bounded n v b₀)
    (hsize : Storable b₀) (hb : Bounded n v b)
    (hl : w.switches.loadError = none ∨ b = b₀) {o : Outcome BackendError Nat}
    {b' : EngineBackend Engine} (h : Backend.deserialize w b (written b₀) = (o, b')) :
    b'.context.tokens = b₀.context.tokens ∧ o.Completed := by
  rcases hl with hl | rfl
  · have hok := deserialize_written_of_le hw hl (b := b) hb₀.countable (hb.window ▸ hb₀.context)
      (hb.vocab ▸ hb₀.logits) hsize
    rw [hok] at h
    cases h
    exact ⟨rfl, trivial⟩
  · obtain ⟨rfl, rfl | ⟨e, rfl⟩⟩ := deserialize_own hw hb₀.countable h
    · exact ⟨rfl, trivial⟩
    · exact ⟨rfl, trivial⟩

end Bounds

/-- A call keeps the bounds whatever it is given. -/
theorem Bounded.perform {n v : Nat} {s : Session (EngineBackend Engine)} {w : World}
    (h : Bounded n v s.backend) (hw : w.Steady) (call : Call) :
    Bounded n v (s.perform w call).2.backend := by
  cases call with
  | step tokens =>
    have hs := s.step_stepped w tokens
    rw [perform_step]
    generalize s.step w tokens = r at hs
    have hb {o : Outcome BackendError Unit} {b : EngineBackend Engine} (ht : tokens ≠ [])
        (he : Backend.evaluate w s.backend s.position tokens = (o, b)) : Bounded n v b := by
      have hb := h.evaluated (evaluate_evaluated hw s.backend s.position ht)
      rw [he] at hb
      exact hb
    cases hs with
    | refused hf => exact h
    | idle hf ht => exact h
    | advanced hf ht he => exact hb ht he
    | failed hf ht he => exact hb ht he
    | crashed hf ht he => exact hb ht he
  | rollback steps =>
    have hr := s.rollback_rolledBack w steps
    rw [perform_rollback]
    generalize s.rollback w steps = r at hr
    have hb {o : Outcome BackendError Unit} {b : EngineBackend Engine}
        (he : Backend.evict w s.backend (s.kept steps) = (o, b)) : Bounded n v b := by
      have hb := h.evicted (evict_evicted hw s.backend (s.kept steps))
      rw [he] at hb
      exact hb
    cases hr with
    | idle hf hu => exact h
    | evicted ha he => exact hb he
    | failed ha he => exact hb he
    | crashed ha he => exact hb he
  | restore bytes limit =>
    have hr := s.restore_restored w bytes limit
    rw [perform_restore]
    generalize s.restore w bytes limit = r at hr
    have hback {b b' : EngineBackend Engine} {backup : Bytes} {o : Outcome BackendError Nat}
        (hb : Bounded n v b) (hp : Backend.deserialize w b backup = (o, b')) : Bounded n v b' := by
      have hb := hb.deserialized (deserialize_deserialized hw b backup)
      rw [hp] at hb
      exact hb
    cases hr with
    | refused he => exact h
    | unsaved hh hs ho => exact h
    | taken hh hs ht => exact (takePayload_left hw h ht).1
    | putBack hh hs ht hp => exact hback (takePayload_left hw h ht).1 hp
    | lost hh hs ht hf =>
      obtain ⟨o, hp⟩ := deserialize_of_lost hf
      exact hback (takePayload_left hw h ht).1 hp
    | crashed hh hs ht => exact (takePayload_left hw h ht).1
    | crashedBack hh hs ht hp => exact hback (takePayload_left hw h ht).1 hp
  | _ => exact h

/-- The position counts the history, and the context holds it. -/
structure Sound (n v : Nat) (s : Session (EngineBackend Engine)) : Prop where
  bounded : Bounded n v s.backend
  position : s.position = s.committed.length
  context : s.backend.context.tokens = s.committed

namespace Sound

variable {n m v : Nat} {s t : Session (EngineBackend Engine)} {w w' : World}

theorem position_eq (h : Sound n v s) : s.position = s.backend.context.length := by
  rw [h.position, ← h.context]
  rfl

theorem step (h : Sound n v s) (hw : w.Steady) (tokens : List UInt32) :
    Sound n v (s.step w tokens).2 := by
  have hs := s.step_stepped w tokens
  have hb := h.bounded.perform hw (.step tokens)
  rw [perform_step] at hb
  have he (ht : tokens ≠ []) := evaluate_evaluated hw s.backend s.position ht
  generalize s.step w tokens = r at hs hb
  cases hs with
  | refused hf => exact h
  | idle hf ht => exact h
  | advanced hf ht he' =>
    specialize he ht
    rw [he'] at he
    cases he with
    | advanced hh hroom =>
      refine ⟨hb, ?_, ?_⟩
      · simp only [List.length_append, h.position]
      · simp only [h.context]
  | failed hf ht he' =>
    specialize he ht
    rw [he'] at he
    cases he with
    | refused hd => exact ⟨hb, h.position, h.context⟩
    | undone hd hh => exact ⟨hb, h.position, h.context⟩
    | dirty hd hh hroom => exact ⟨hb, h.position, h.context⟩
  | crashed hf ht he' =>
    specialize he ht
    rw [he'] at he
    cases he

theorem rollback (h : Sound n v s) (hw : w.Steady) (steps : Nat) :
    Sound n v (s.rollback w steps).2 := by
  have hr := s.rollback_rolledBack w steps
  have hb := h.bounded.perform hw (.rollback steps)
  rw [perform_rollback] at hb
  have he := evict_evicted hw s.backend (s.kept steps)
  have hlen : s.kept steps = (s.committed.take (s.kept steps)).length := by
    have := s.kept_le steps
    rw [List.length_take, ← h.position]
    omega
  have htokens : s.backend.context.tokens.take (s.kept steps) =
      s.committed.take (s.kept steps) := by rw [h.context]
  generalize s.rollback w steps = r at hr hb
  cases hr with
  | idle hf hu =>
    refine ⟨hb, hlen, ?_⟩
    simp only [shortened]
    rw [kept, hu, Nat.sub_zero, h.position, List.take_length, h.context]
  | evicted ha he' =>
    rw [he'] at he
    cases he
    exact ⟨hb, hlen, htokens⟩
  | failed ha he' =>
    rw [he'] at he
    cases he
    exact ⟨hb, hlen, htokens⟩
  | crashed ha he' =>
    rw [he'] at he
    cases he

theorem restoreExported (h : Sound n v s) (hw : w.Steady) (ht : Sound m v t) (hw' : w'.Steady)
    {bytes : Bytes} (he : Exports w' t bytes) (limit : Nat) :
    Sound n v (s.restore w bytes limit).2 := by
  rcases restore_exported hw h.bounded.countable hw' ht.bounded.countable ht.position_eq he limit
    with ⟨o, fault, -, -, hr⟩ | ⟨hroom, -, hr⟩
  · rw [hr]
    exact ⟨h.bounded, h.position, h.context⟩
  · obtain ⟨-, -, hsize, -⟩ := exports_eq hw' ht.bounded.countable he
    rw [hr]
    refine ⟨⟨h.bounded.counts, h.bounded.window, h.bounded.vocab, ?_, ht.bounded.logits,
      .inr hsize⟩, ht.position_eq, rfl⟩
    rw [← h.bounded.window]
    exact hroom

/-- Whatever is restored, the state can be put back that a word can express the size of. -/
theorem restore (h : Sound n v s) (hw : w.Steady)
    (hsize : Storable s.backend) (bytes : Bytes) (limit : Nat) :
    Sound n v (s.restore w bytes limit).2 := by
  have hr := s.restore_restored w bytes limit
  have hback {backup : Bytes} (hb : s.backup w = .ok backup) : backup = written s.backend :=
    ((serialize_eq_ok_iff hw h.bounded.countable).mp (backup_eq_ok_iff.mp hb).2).2
  have hb := h.bounded.perform hw (.restore bytes limit)
  rw [perform_restore] at hb
  generalize s.restore w bytes limit = r at hr hb
  cases hr with
  | refused he => exact h
  | unsaved hh hs ho => exact h
  | taken hh hs ht => exact ⟨hb, (takePayload_eq_ok_iff.mp ht).2.symm, rfl⟩
  | putBack hh hs ht hp =>
    obtain ⟨hb', hl, -⟩ := takePayload_left hw h.bounded ht
    rw [hback hs] at hp
    obtain ⟨htokens, -⟩ := deserialize_back hw h.bounded hsize hb' hl hp
    exact ⟨hb, h.position, htokens.trans h.context⟩
  | lost hh hs ht hf =>
    obtain ⟨hb', hl, -⟩ := takePayload_left hw h.bounded ht
    obtain ⟨o, hp⟩ := deserialize_of_lost hf
    rw [hback hs] at hp
    obtain ⟨htokens, -⟩ := deserialize_back hw h.bounded hsize hb' hl hp
    exact ⟨hb, h.position, htokens.trans h.context⟩
  | crashed hh hs ht => exact (takePayload_left hw h.bounded ht).2.2.elim
  | crashedBack hh hs ht hp =>
    obtain ⟨hb', hl, -⟩ := takePayload_left hw h.bounded ht
    rw [hback hs] at hp
    exact (deserialize_back hw h.bounded hsize hb' hl hp).2.elim

end Sound

end Decoding.Simulation
