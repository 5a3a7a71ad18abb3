import Decoding.Proofs.Session.Refusal
import Decoding.Proofs.Snapshot.Canonical

/-!
Snapshots of stubs and of engine backends. A snapshot does not say which kind of backend wrote it,
and both kinds of payload begin with the context. But a stub's payload ends there, and in an engine
backend's two more counts follow at least. A session takes a payload to its last byte or not at all,
so no bytes are a snapshot for both kinds.
-/

namespace Decoding

open Snapshot Payload EngineBackend

/-- Nothing follows the context of a stub, so the count of the logits is missed before the vocabulary
is asked for. -/
theorem EngineBackend.Sections.decode_counted {window : Nat} {vocab : Outcome Empty Nat}
    {tokens : List UInt32} (h : tokens.length < UInt32.size) :
    ∃ e, Sections.decode window vocab (counted tokens) = .error e := by
  unfold Sections.decode
  cases hc : TokenContext.decode window (counted tokens) with
  | error e => exact ⟨e, rfl⟩
  | ok r =>
    obtain ⟨c, rest⟩ := r
    obtain ⟨henc, -, -, hlt⟩ := TokenContext.decode_eq_ok_iff.mp hc
    rw [← List.append_nil (counted tokens)] at henc
    obtain ⟨-, rfl⟩ := counted_append_inj h hlt henc
    exact ⟨_, rfl⟩

variable {ω ε : Type} [Engine ω ε]

/-- An engine is not even asked about the payload of a stub. -/
theorem EngineBackend.deserialize_counted (w : ω) (b : EngineBackend ε) {tokens : List UInt32}
    (h : tokens.length < UInt32.size) :
    ∃ e, Backend.deserialize w b (counted tokens) = (.error e, b) := by
  obtain ⟨e, hp⟩ : ∃ e, Sections.decode b.context.window (Engine.vocab w b.engine)
      (counted tokens) = .error e := Sections.decode_counted h
  refine ⟨e, ?_⟩
  change EngineBackend.deserialize w b (counted tokens) = _
  simp only [EngineBackend.deserialize, hp]

/-- What an engine backend writes begins with its context and goes on behind it. -/
theorem EngineBackend.exists_of_serialize {w : ω} {b : EngineBackend ε} {payload : Bytes}
    (h : Backend.serialize w b = .ok payload) :
    ∃ more, more ≠ [] ∧ payload = b.context.encode ++ more := by
  change EngineBackend.serialize w b = .ok payload at h
  simp only [EngineBackend.serialize, Outcome.bind_eq_ok_iff, Outcome.guard_eq_ok_iff,
    Outcome.pure_eq, Outcome.ok.injEq, List.append_assoc] at h
  obtain ⟨_, -, state, -, -, rfl⟩ := h
  refine ⟨_, fun hnil => ?_, rfl⟩
  have hlength := congrArg List.length hnil
  simp at hlength

namespace Stub

/-- A payload that a stub takes to its last byte is a context. -/
theorem exists_of_deserialize {w : ω} {b b' : Stub} {payload : Bytes}
    (h : Backend.deserialize w b payload = (.ok payload.length, b')) :
    ∃ tokens : List UInt32, tokens.length < UInt32.size ∧ payload = counted tokens := by
  obtain ⟨tokens, rest, hp, -, hlt, hn, -⟩ :=
    restore_eq_ok_iff.mp (backend_deserialize_eq_ok_iff.mp h)
  have hlength := congrArg List.length hp
  simp only [List.length_append, TokenContext.length_encode, TokenContext.encodedSize,
    TokenContext.length] at hlength
  have hrest : rest = [] := List.eq_nil_of_length_eq_zero (by omega)
  refine ⟨tokens, hlt, ?_⟩
  rw [hp, hrest, List.append_nil]
  rfl

end Stub

namespace Session

section Any

variable {ω β : Type} [Device β] [Backend ω β] {w : ω} {s : Session β} {bytes : Bytes}
  {limit : Nat}

/-- A session takes a snapshot only if its backend takes the payload to the last byte. -/
theorem exists_deserialize_of_restore (h : (s.restore w bytes limit).1 = .ok ()) :
    ∃ b, Backend.deserialize w s.backend (bytes.drop headerSize) =
      (.ok (bytes.drop headerSize).length, b) := by
  have hr := s.restore_restored w bytes limit
  generalize s.restore w bytes limit = r at h hr
  cases hr with
  | taken hh hs ht => exact ⟨_, (takePayload_eq_ok_iff.mp ht).1⟩
  | unsaved hh hs ho => exact absurd h ho
  | refused he => cases h
  | putBack hh hs ht hp => cases h
  | lost hh hs ht hf => cases h
  | crashed hh hs ht => cases h
  | crashedBack hh hs ht hp => cases h

/-- What a session exports is a payload of its backend in an envelope that any session accepts that
is given room for it. -/
theorem exists_envelope_of_exports (h : Exports w s bytes) (hlimit : bytes.length ≤ limit) :
    ∃ header payload, Backend.serialize w s.backend = .ok payload ∧
      payload.length < UInt32.size ∧ bytes.drop headerSize = payload ∧
        checkEnvelope bytes limit = .ok header := by
  obtain ⟨_, hs⟩ := exports_iff.mp h
  obtain ⟨-, -, hsize, -, payload, hpayload, -, rfl⟩ := snapshot_eq_ok_iff.mp hs
  have hcount : payload.length < UInt32.size := by
    simp only [List.length_append, Snapshot.maxSize, Config.maxCount, UInt32.size] at *
    omega
  refine ⟨_, payload, hpayload, hcount, drop_encode_append _ _,
    checkEnvelope_eq_ok_iff.mpr ⟨hlimit, rfl, payload, rfl, ?_⟩⟩
  exact (UInt32.toNat_ofNat_of_lt' hcount).symm

/-- The error of a refused payload is what a restore ends with, unless the backend crashes on the
state that it is handed back. -/
theorem restore_of_takePayload_error {header : Header} {backup : Bytes} {b : β} {e : SessionError}
    (hh : checkEnvelope bytes limit = .ok header) (hs : s.backup w = .ok backup)
    (ht : takePayload w s.backend (bytes.drop headerSize) header.position.toNat = (.error e, b)) :
    ((Backend.deserialize w b backup).1.Completed → (s.restore w bytes limit).1 = .error e) ∧
      ∀ t, (Backend.deserialize w b backup).1 = .crash t →
        (s.restore w bytes limit).1 = .crash t := by
  have hr : s.restore w bytes limit = putBack w { s with backend := b } backup e := by
    simp only [restore, hh, hs, ht]
  rw [hr, putBack]
  obtain ⟨o, b'⟩ := Backend.deserialize w b backup
  constructor
  · intro hc
    cases o with
    | ok n => rfl
    | error cause => rfl
    | crash text => exact hc.elim
  · rintro t ⟨⟩
    rfl

end Any

/-- A stub does not take a payload that goes on behind a context. -/
theorem takePayload_stub_append {ω : Type} {w : ω} {b : Stub} {c : TokenContext} {more : Bytes}
    (h : more ≠ []) (position : Nat) :
    ∃ cause b', takePayload w b (c.encode ++ more) position = (.error (.corrupted cause), b') := by
  obtain ⟨o, b', ht⟩ : ∃ o b', takePayload w b (c.encode ++ more) position = (o, b') := ⟨_, _, rfl⟩
  cases o with
  | ok u =>
    obtain ⟨hd, -⟩ := takePayload_eq_ok_iff.mp ht
    obtain ⟨hmore, -, -⟩ := Stub.restore_encode_append (Stub.backend_deserialize_eq_ok_iff.mp hd)
    exact absurd hmore h
  | error e =>
    obtain ⟨cause, rfl⟩ := eq_corrupted_of_takePayload ht
    exact ⟨cause, b', ht⟩
  | crash t => exact absurd ht takePayload_ne_crash

/-- Snapshots of the two kinds are not confused. No bytes are taken by both a session over a stub
and one over an engine, whatever these are. What either exports, the other one refuses as corrupted,
given room for it and provided that its own state can be saved; or its engine crashes on the state
that it is handed back, and then the restore crashes likewise. -/
theorem kinds_not_confused {ω' : Type} (S : Session Stub) (E : Session (EngineBackend ε)) (w : ω')
    (w' : ω) (m₁ m₂ : Nat) (bytes : Bytes) :
    ¬ ((S.restore w bytes m₁).1 = .ok () ∧ (E.restore w' bytes m₂).1 = .ok ()) ∧
      (∀ (S₀ : Session Stub) (w₀ : ω'), Exports w₀ S₀ bytes → bytes.length ≤ m₂ →
        ∀ backup, E.backup w' = .ok backup →
          ((Backend.deserialize w' E.backend backup).1.Completed →
            ∃ cause, (E.restore w' bytes m₂).1 = .error (.corrupted cause)) ∧
          ∀ t, (Backend.deserialize w' E.backend backup).1 = .crash t →
            (E.restore w' bytes m₂).1 = .crash t) ∧
      ∀ (E₀ : Session (EngineBackend ε)) (w₀ : ω), Exports w₀ E₀ bytes → bytes.length ≤ m₁ →
        ∀ backup, S.backup w = .ok backup →
          ∃ cause, (S.restore w bytes m₁).1 = .error (.corrupted cause) := by
  refine ⟨?_, ?_, ?_⟩
  · rintro ⟨hS, hE⟩
    -- what a stub takes to the last byte is a context, and an engine backend wants more than that
    obtain ⟨_, hd⟩ := exists_deserialize_of_restore hS
    obtain ⟨tokens, hlt, hp⟩ := Stub.exists_of_deserialize hd
    obtain ⟨_, hd'⟩ := exists_deserialize_of_restore hE
    obtain ⟨e, he⟩ := EngineBackend.deserialize_counted w' E.backend hlt
    rw [hp, he] at hd'
    cases hd'
  · intro S₀ w₀ hexports hlimit backup hbackup
    obtain ⟨header, payload, hpayload, hsize, hdrop, hh⟩ :=
      exists_envelope_of_exports hexports hlimit
    have hcounted : payload = counted S₀.backend.context.tokens := (Outcome.ok.inj hpayload).symm
    have hlt : S₀.backend.context.tokens.length < UInt32.size := by
      rw [hcounted, length_counted] at hsize
      omega
    obtain ⟨e, he⟩ := EngineBackend.deserialize_counted w' E.backend hlt
    -- the payload never got to the engine, so the saved state goes back into the same backend
    have ht : takePayload w' E.backend (bytes.drop headerSize) header.position.toNat =
        (.error (.corrupted (.backend e)), E.backend) := by
      rw [hdrop, hcounted, takePayload, he]
    obtain ⟨hends, hcrashes⟩ := restore_of_takePayload_error hh hbackup ht
    exact ⟨fun hc => ⟨.backend e, hends hc⟩, hcrashes⟩
  · intro E₀ w₀ hexports hlimit backup hbackup
    obtain ⟨header, payload, hpayload, -, hdrop, hh⟩ := exists_envelope_of_exports hexports hlimit
    obtain ⟨more, hmore, rfl⟩ := EngineBackend.exists_of_serialize hpayload
    obtain ⟨cause, b, ht⟩ :=
      takePayload_stub_append (w := w) (b := S.backend) (c := E₀.backend.context) hmore
        header.position.toNat
    rw [← hdrop] at ht
    refine ⟨cause, (restore_of_takePayload_error hh hbackup ht).1 ?_⟩
    change (Outcome.commit b (b.restore backup)).1.Completed
    cases b.restore backup <;> trivial

/-- An engine that crashes when it loads crashes on its own state too, after the snapshot of a stub
was refused. -/
theorem stub_snapshot_crashes_engine :
    let S := ((fresh (Stub.deterministic { model := "m", vocab := 50, window := 16 })).step
      (Simulation.filed {}) [5]).2
    let E := fresh (EngineBackend.fresh ⟨[], 4⟩ 8 : EngineBackend Simulation.Engine)
    let w := Simulation.filed { loadCrash := some "device lost" }
    let bytes := History.image [5]
    S.snapshot (Simulation.filed {}) 64 = .ok bytes ∧ bytes.length ≤ 64 ∧
      E.backup w = .ok (Simulation.written E.backend) ∧
        (E.restore w bytes 64).1 = .crash "device lost" ∧
          ∀ cause, (E.restore w bytes 64).1 ≠ .error (.corrupted cause) :=
  ⟨rfl, by decide, rfl, rfl, nofun⟩

example :
    ((fresh (EngineBackend.fresh ⟨[], 4⟩ 8 : EngineBackend Simulation.Engine)).restore
      (Simulation.filed {}) (History.image [5]) 64).1 =
        .error (.corrupted (.backend (.truncated 4))) :=
  rfl

end Session

end Decoding
