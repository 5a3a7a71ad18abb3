import Decoding.Proofs.Session.Agreement

/-!
Restores that are refused. Over any backend, a refused restore keeps the position, the
history and the staged tokens. The payload may have been handed to the backend by then,
and the state saved before is handed back; the fault tells whether the backend took it
whole, and only then is it another one than before.
-/

namespace Decoding.Session

open Snapshot

variable {ω β : Type} [Device β] [Backend ω β] {w : ω} {s s' : Session β} {bytes backup : Bytes}
  {limit : Nat} {left : β}

/-- The payload has been handed to the backend and refused, and this has left a backend to which
the saved state is handed next. -/
def HandsBack (w : ω) (s : Session β) (bytes : Bytes) (limit : Nat) (backup : Bytes) (left : β) :
    Prop :=
  ∃ header e, checkEnvelope bytes limit = .ok header ∧ s.backup w = .ok backup ∧
    takePayload w s.backend (bytes.drop headerSize) header.position.toNat = (.error e, left)

/-- The saved state was handed back and refused, or not taken whole. -/
def PutBackFails (w : ω) (s : Session β) (bytes : Bytes) (limit : Nat) : Prop :=
  ∃ backup left, s.HandsBack w bytes limit backup left ∧
    (Backend.deserialize w left backup).1 ≠ .ok backup.length

/-- The ways a restore can be refused: nothing was handed to the backend, or the saved state was
handed back and taken whole, or it was not. -/
inductive Refused (w : ω) (s : Session β) (bytes : Bytes) (limit : Nat) : Session β → Prop
  | early (hn : ∀ backup left, ¬ s.HandsBack w bytes limit backup left) : Refused w s bytes limit s
  | putBack {backup : Bytes} {left b : β} (hb : s.HandsBack w bytes limit backup left)
      (hd : Backend.deserialize w left backup = (.ok backup.length, b)) :
    Refused w s bytes limit { s with backend := b }
  | lost {backup : Bytes} {left b : β} {o : Outcome BackendError Nat} {fault : Fault}
      (hb : s.HandsBack w bytes limit backup left)
      (hd : Backend.deserialize w left backup = (o, b)) (ho : o ≠ .ok backup.length)
      (hf : fault.OfPutBack) :
    Refused w s bytes limit { s with backend := b, fault := some fault }

theorem refused_of_restore {e : SessionError} (h : s.restore w bytes limit = (.error e, s')) :
    Refused w s bytes limit s' := by
  have hr := s.restore_restored w bytes limit
  rw [h] at hr
  cases hr with
  | refused he =>
    refine .early ?_
    rintro backup left ⟨header, e, hh, -⟩
    rw [he] at hh
    cases hh
  | unsaved hh hs ho =>
    refine .early ?_
    rintro backup left ⟨header, e, -, hs', -⟩
    exact hs backup hs'
  | putBack hh hs ht hp => exact .putBack ⟨_, _, hh, hs, ht⟩ hp
  | lost hh hs ht hf =>
    obtain ⟨n, hn, hd, rfl⟩ | ⟨cause, hd, rfl⟩ := hf
    · exact .lost ⟨_, _, hh, hs, ht⟩ hd (fun ho => hn (Outcome.ok.inj ho)) trivial
    · exact .lost ⟨_, _, hh, hs, ht⟩ hd nofun trivial

/-- There is one state to hand back and one backend to hand it to. -/
theorem HandsBack.unique {backup' : Bytes} {left' : β} (h : s.HandsBack w bytes limit backup left)
    (h' : s.HandsBack w bytes limit backup' left') : backup = backup' ∧ left = left' := by
  obtain ⟨header, e, hh, hs, ht⟩ := h
  obtain ⟨header', e', hh', hs', ht'⟩ := h'
  rw [hh] at hh'
  cases hh'
  rw [hs] at hs'
  cases hs'
  rw [ht] at ht'
  cases ht'
  exact ⟨rfl, rfl⟩

theorem Refused.kept (h : Refused w s bytes limit s') :
    s'.position = s.position ∧ s'.committed = s.committed ∧ s'.staged = s.staged := by
  cases h <;> exact ⟨rfl, rfl, rfl⟩

theorem Refused.lost_of_putBackFails (h : Refused w s bytes limit s')
    (hp : s.PutBackFails w bytes limit) : s'.Lost := by
  obtain ⟨backup, left, hb, hd⟩ := hp
  cases h with
  | early hn => exact absurd hb (hn backup left)
  | putBack hb' hd' =>
    obtain ⟨rfl, rfl⟩ := hb.unique hb'
    rw [hd'] at hd
    exact absurd rfl hd
  | lost hb' hd' ho hf => exact ⟨_, rfl, hf⟩

theorem Refused.fault_of_not_putBackFails (h : Refused w s bytes limit s')
    (hp : ¬ s.PutBackFails w bytes limit) : s'.fault = s.fault := by
  cases h with
  | early hn => rfl
  | putBack hb hd => rfl
  | lost hb hd ho hf => exact absurd ⟨_, _, hb, by rw [hd]; exact ho⟩ hp

/-- If whatever takes the saved state whole is the former backend, nothing is left of a refused
restore. -/
theorem Refused.eq_self (h : Refused w s bytes limit s') (hp : ¬ s.PutBackFails w bytes limit)
    (hsame : ∀ {backup : Bytes} {left b : β}, s.HandsBack w bytes limit backup left →
      Backend.deserialize w left backup = (.ok backup.length, b) → b = s.backend) : s' = s := by
  cases h with
  | early hn => rfl
  | putBack hb hd => rw [hsame hb hd]
  | lost hb hd ho hf => exact absurd ⟨_, _, hb, by rw [hd]; exact ho⟩ hp

end Decoding.Session
