import Decoding.Proofs.Session.Transitions

/-!
The staged tokens decide nothing. Sessions that differ in them only give the same answers
and differ in nothing else after any calls, as long as nobody asks for an account of them.
-/

namespace Decoding.Session

open Snapshot

variable {ω β : Type}

/-- The sessions differ in the staged tokens at most. -/
def Alike (s t : Session β) : Prop := ∃ staged, t = { s with staged }

variable [Device β] [Backend ω β] {s t : Session β}

/-- The same answer, and sessions that are alike again. -/
def Matches {α : Type} (r q : α × Session β) : Prop := r.1 = q.1 ∧ Alike r.2 q.2

theorem step_matches (h : Alike s t) (w : ω) (tokens : List UInt32) :
    Matches (s.step w tokens) (t.step w tokens) := by
  obtain ⟨other, rfl⟩ := h
  obtain ⟨b, position, committed, staged, fault⟩ := s
  cases fault with
  | some fault => exact ⟨rfl, other, rfl⟩
  | none =>
    simp only [step]
    split
    · exact ⟨rfl, other, rfl⟩
    · obtain ⟨o, b'⟩ := Backend.evaluate w b position tokens
      cases o with
      | ok u => exact ⟨rfl, tokens, rfl⟩
      | error e => exact ⟨rfl, other, rfl⟩
      | crash text => exact ⟨rfl, other, rfl⟩

theorem rollback_matches (h : Alike s t) (w : ω) (steps : Nat) :
    Matches (s.rollback w steps) (t.rollback w steps) := by
  obtain ⟨other, rfl⟩ := h
  simp only [rollback]
  split
  · exact ⟨rfl, [], rfl⟩
  · obtain ⟨o, b⟩ := Backend.evict w s.backend (s.position - min steps s.position)
    cases o with
    | ok u => exact ⟨rfl, [], rfl⟩
    | error e => exact ⟨rfl, [], rfl⟩
    | crash text => exact ⟨rfl, [], rfl⟩

theorem restore_matches (h : Alike s t) (w : ω) (bytes : Bytes) (limit : Nat) :
    Matches (s.restore w bytes limit) (t.restore w bytes limit) := by
  obtain ⟨other, rfl⟩ := h
  have hbackup : backup w { s with staged := other } = s.backup w := rfl
  simp only [restore, hbackup]
  cases checkEnvelope bytes limit with
  | error e => exact ⟨rfl, other, rfl⟩
  | ok header =>
    cases s.backup w with
    | error e => exact ⟨rfl, other, rfl⟩
    | crash text => exact ⟨rfl, other, rfl⟩
    | ok saved =>
      simp only
      obtain ⟨o, b⟩ := takePayload w s.backend (bytes.drop headerSize) header.position.toNat
      cases o with
      | ok u => exact ⟨rfl, [], rfl⟩
      | crash text => exact ⟨rfl, other, rfl⟩
      | error e =>
        simp only [putBack]
        obtain ⟨o, b'⟩ := Backend.deserialize w b saved
        cases o with
        | ok n => exact ⟨rfl, other, rfl⟩
        | error e => exact ⟨rfl, other, rfl⟩
        | crash text => exact ⟨rfl, other, rfl⟩

theorem snapshot_alike (h : Alike s t) (w : ω) (limit : Nat) :
    s.snapshot w limit = t.snapshot w limit := by
  obtain ⟨other, rfl⟩ := h
  rfl

theorem peek_alike (h : Alike s t) (w : ω) (count : Nat) : s.peek w count = t.peek w count := by
  obtain ⟨other, rfl⟩ := h
  rfl

/-- Every call but one ends alike. -/
theorem perform_matches (h : Alike s t) (w : ω) {call : Call} (hc : call ≠ .describe) :
    Matches (s.perform w call) (t.perform w call) := by
  cases call with
  | step tokens =>
    obtain ⟨h₁, h₂⟩ := step_matches h w tokens
    exact ⟨congrArg (Outcome.map Reply.count) h₁, h₂⟩
  | rollback steps =>
    obtain ⟨h₁, h₂⟩ := rollback_matches h w steps
    exact ⟨congrArg (Outcome.map Reply.count) h₁, h₂⟩
  | restore bytes limit =>
    obtain ⟨h₁, h₂⟩ := restore_matches h w bytes limit
    exact ⟨congrArg (Outcome.map fun _ => Reply.done) h₁, h₂⟩
  | describe => exact absurd rfl hc
  | _ =>
    refine ⟨?_, h⟩
    obtain ⟨other, rfl⟩ := h
    rfl

theorem run_matches (h : Alike s t) {calls : List (ω × Call)}
    (hc : ∀ p ∈ calls, p.2 ≠ .describe) : Matches (s.run calls) (t.run calls) := by
  induction calls generalizing s t with
  | nil => exact ⟨rfl, h⟩
  | cons p calls ih =>
    obtain ⟨w, call⟩ := p
    have hcall : call ≠ .describe := hc (w, call) List.mem_cons_self
    obtain ⟨houtcome, halike⟩ := perform_matches h w hcall
    obtain ⟨houtcomes, hlast⟩ := ih halike fun p hp => hc p (List.mem_cons_of_mem _ hp)
    refine ⟨?_, hlast⟩
    rw [run_cons, run_cons, houtcome, houtcomes]

end Decoding.Session
