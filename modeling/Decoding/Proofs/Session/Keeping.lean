import Decoding.Proofs.Session.Commands

/-!
What holds of a backend whatever it is told to do. A property that every command keeps, however the
command ends, holds after any sequence of commands, and so it holds of the backend of a session
after any sequence of calls.
-/

namespace Decoding

/-- Every command leaves a backend with the property that had it before, in any world and however
the command ends. -/
structure Backend.Keeps (ω : Type) {β : Type} [Device β] [Backend ω β] (P : β → Prop) : Prop where
  evaluate {b : β} (w : ω) (held : Nat) (tokens : List UInt32) :
    P b → P (Backend.evaluate w b held tokens).2
  evict {b : β} (w : ω) (n : Nat) : P b → P (Backend.evict w b n).2
  deserialize {b : β} (w : ω) (payload : Bytes) : P b → P (Backend.deserialize w b payload).2

variable {ω β : Type} [Device β] [Backend ω β] {P : β → Prop}

namespace Backend

/-- What a command makes of a backend. -/
def obey (w : ω) (b : β) : Command → β
  | .evaluate held tokens => (Backend.evaluate w b held tokens).2
  | .evict n => (Backend.evict w b n).2
  | .deserialize payload => (Backend.deserialize w b payload).2

/-- What commands make of a backend, one after another and each in its world. -/
def obeyAll (b : β) : List (ω × Command) → β
  | [] => b
  | (w, command) :: rest => obeyAll (obey w b command) rest

theorem Keeps.obey {b : β} (h : Keeps ω P) (hb : P b) (w : ω) (command : Command) :
    P (Backend.obey w b command) := by
  cases command with
  | evaluate held tokens => exact h.evaluate w held tokens hb
  | evict n => exact h.evict w n hb
  | deserialize payload => exact h.deserialize w payload hb

theorem keeps_of_obey (h : ∀ (w : ω) {b : β} (command : Command), P b → P (obey w b command)) :
    Keeps ω P where
  evaluate w held tokens := h w (.evaluate held tokens)
  evict w n := h w (.evict n)
  deserialize w payload := h w (.deserialize payload)

theorem Keeps.obeyAll {b : β} (h : Keeps ω P) (hb : P b) (commands : List (ω × Command)) :
    P (Backend.obeyAll b commands) := by
  induction commands generalizing b with
  | nil => exact hb
  | cons made rest ih => exact ih (h.obey hb made.1 made.2)

end Backend

namespace Session

variable {s : Session β}

theorem step_keeps (h : Backend.Keeps ω P) (hs : P s.backend) (w : ω) (tokens : List UInt32) :
    P (s.step w tokens).2.backend := by
  have hstep := s.step_stepped w tokens
  have hkept := h.evaluate w s.position tokens hs
  generalize s.step w tokens = r at hstep ⊢
  cases hstep with
  | refused | idle => exact hs
  | advanced hf ht he | failed hf ht he | crashed hf ht he =>
    rw [he] at hkept
    exact hkept

theorem rollback_keeps (h : Backend.Keeps ω P) (hs : P s.backend) (w : ω) (steps : Nat) :
    P (s.rollback w steps).2.backend := by
  have hback := s.rollback_rolledBack w steps
  have hkept := h.evict w (s.kept steps) hs
  generalize s.rollback w steps = r at hback ⊢
  cases hback with
  | idle => exact hs
  | evicted ha he | failed ha he | crashed ha he =>
    rw [he] at hkept
    exact hkept

/-- A restore gives the backend one payload or two, and nothing else. -/
theorem restore_keeps (h : Backend.Keeps ω P) (hs : P s.backend) (w : ω) (bytes : Bytes)
    (limit : Nat) : P (s.restore w bytes limit).2.backend := by
  have hrestored := s.restore_restored w bytes limit
  have htaken {position : Nat} {o : Outcome SessionError Unit} {b : β}
      (ht : takePayload w s.backend (bytes.drop Snapshot.headerSize) position = (o, b)) : P b := by
    have hkept := h.deserialize w (bytes.drop Snapshot.headerSize) hs
    rw [← takePayload_snd w s.backend _ position, ht] at hkept
    exact hkept
  have hback {b b' : β} {backup : Bytes} {o : Outcome BackendError Nat} (hb : P b)
      (hp : Backend.deserialize w b backup = (o, b')) : P b' := by
    have hkept := h.deserialize w backup hb
    rw [hp] at hkept
    exact hkept
  generalize s.restore w bytes limit = r at hrestored ⊢
  cases hrestored with
  | refused | unsaved => exact hs
  | taken hh hs ht | crashed hh hs ht => exact htaken ht
  | putBack hh hs ht hp | crashedBack hh hs ht hp => exact hback (htaken ht) hp
  | lost hh hs ht hl =>
    obtain ⟨o, hp⟩ := deserialize_of_lost hl
    exact hback (htaken ht) hp

/-- A session has its backend obey commands and does nothing else to it. -/
theorem perform_keeps (h : Backend.Keeps ω P) (hs : P s.backend) (w : ω) (call : Call) :
    P (s.perform w call).2.backend := by
  cases call with
  | step tokens => exact step_keeps h hs w tokens
  | rollback steps => exact rollback_keeps h hs w steps
  | restore bytes limit => exact restore_keeps h hs w bytes limit
  | _ => exact hs

theorem run_keeps (h : Backend.Keeps ω P) (hs : P s.backend) (calls : List (ω × Call)) :
    P (s.run calls).2.backend := by
  induction calls generalizing s with
  | nil => exact hs
  | cons made rest ih => exact ih (perform_keeps h hs made.1 made.2)

end Session

end Decoding
