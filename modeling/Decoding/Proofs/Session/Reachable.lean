import Decoding.Proofs.Session.Transitions
import Decoding.Proofs.Snapshot.Envelope

/-!
The sessions that calls lead to. Sessions do not only live apart: one may restore what
another has exported, so all of them are reached together. Which worlds there are, and
which sessions may be given bytes that no session has exported, is left open.
-/

namespace Decoding.Session

variable {ω β : Type} [Device β] [Backend ω β]

/-- The bytes are a snapshot that the session gives in a world, as a value or at the front of a
buffer. -/
inductive Exports (w : ω) (s : Session β) : Bytes → Prop
  | value {limit : Nat} {bytes : Bytes} (h : s.snapshot w limit = .ok bytes) : Exports w s bytes
  | front {limit total : Nat} {buffer out : Bytes}
      (h : s.snapshotInto w buffer limit = (.ok total, out)) : Exports w s (out.take total)

theorem exports_iff {w : ω} {s : Session β} {bytes : Bytes} :
    Exports w s bytes ↔ ∃ limit, s.snapshot w limit = .ok bytes := by
  constructor
  · rintro (@⟨limit, _, h⟩ | @⟨limit, total, buffer, out, h⟩)
    · exact ⟨limit, h⟩
    · obtain ⟨bytes, hb, rfl, -, rfl⟩ := snapshotInto_eq_ok_iff.mp h
      rw [List.take_left]
      exact ⟨limit, hb⟩
  · rintro ⟨limit, h⟩
    exact .value h

/-- The sessions that are reached from those over opened backends, by calls in the worlds that may
be met. Bytes that a reached session exports may always be restored, others only into the sessions
that are open to them. -/
inductive Reachable (opened : β → Prop) (met : ω → Prop) (foreign : Session β → Prop) :
    Session β → Prop
  | fresh {b : β} (hb : opened b) : Reachable opened met foreign (fresh b)
  | call {s : Session β} {w : ω} {call : Call} (hs : Reachable opened met foreign s) (hw : met w)
      (hc : ∀ bytes limit, call ≠ .restore bytes limit) :
    Reachable opened met foreign (s.perform w call).2
  | restore {s t : Session β} {w w' : ω} {bytes : Bytes} {limit : Nat}
      (hs : Reachable opened met foreign s) (hw : met w) (ht : Reachable opened met foreign t)
      (hw' : met w') (he : Exports w' t bytes) :
    Reachable opened met foreign (s.perform w (.restore bytes limit)).2
  | restoreForeign {s : Session β} {w : ω} {bytes : Bytes} {limit : Nat}
      (hs : Reachable opened met foreign s) (hw : met w) (hf : foreign s) :
    Reachable opened met foreign (s.perform w (.restore bytes limit)).2

/-- More worlds reach more sessions. -/
theorem Reachable.mono {opened : β → Prop} {met met' : ω → Prop} {foreign : Session β → Prop}
    {s : Session β} (hmet : ∀ w, met w → met' w) (h : Reachable opened met foreign s) :
    Reachable opened met' foreign s := by
  induction h with
  | fresh hb => exact .fresh hb
  | call hs hw hc ih => exact .call ih (hmet _ hw) hc
  | restore hs hw ht hw' he ihs iht => exact .restore ihs (hmet _ hw) iht (hmet _ hw') he
  | restoreForeign hs hw hf ih => exact .restoreForeign ih (hmet _ hw) hf

/-- Whatever calls are made on a session, if any may be given any bytes. -/
theorem Reachable.run {opened : β → Prop} {met : ω → Prop} {s : Session β}
    {calls : List (ω × Call)} (h : Reachable opened met (fun _ => True) s)
    (hmet : ∀ made ∈ calls, met made.1) : Reachable opened met (fun _ => True) (s.run calls).2 := by
  induction calls generalizing s with
  | nil => exact h
  | cons made calls ih =>
    obtain ⟨w, call⟩ := made
    have hw : met w := hmet _ List.mem_cons_self
    rw [run_cons]
    refine ih ?_ fun made hmem => hmet made (List.mem_cons_of_mem _ hmem)
    by_cases hc : ∀ bytes limit, call ≠ .restore bytes limit
    · exact h.call hw hc
    · obtain ⟨bytes, hc⟩ := not_forall.mp hc
      obtain ⟨limit, hc⟩ := not_forall.mp hc
      rw [not_not.mp hc]
      exact h.restoreForeign hw trivial

end Decoding.Session
