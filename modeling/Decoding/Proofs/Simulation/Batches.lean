import Decoding.Proofs.Backend.Contract
import Decoding.Proofs.Session.Batches
import Decoding.Proofs.Simulation.Engine
import Decoding.Simulation.Families

/-!
Batches over stubs and simulated engines. Both check the window for a whole batch, and a stub the
vocabulary too, before they take any of it. The logits of the engine depend on its cache only,
so it does not show in them how the tokens came in.
-/

namespace Decoding

theorem Backend.clean_of_checkVocab {vocab : Nat} {tokens : List UInt32} {e : BackendError}
    (h : checkVocab vocab tokens = .error e) : e.leavesCacheDirty = false := by
  unfold checkVocab at h
  split at h
  · cases h
    rfl
  · cases h

namespace Stub

theorem clean_of_evaluate {b : Stub} {held : Nat} {tokens : List UInt32} {e : BackendError}
    (h : b.evaluate held tokens = .error e) : e.leavesCacheDirty = false := by
  unfold evaluate TokenContext.append at h
  cases hv : Backend.checkVocab b.vocab tokens with
  | error cause =>
    rw [hv] at h
    cases h
    exact Backend.clean_of_checkVocab hv
  | ok u =>
    cases hc : b.context.checkAppend held tokens with
    | error cause =>
      rw [hv, hc] at h
      cases h
      exact TokenContext.clean_of_checkAppend hc
    | ok u =>
      rw [hv, hc] at h
      cases h

/-- A stub that has evaluated tokens, if it takes them. -/
def advance (held : Nat) (tokens : List UInt32) (b : Stub) : Option Stub :=
  (b.evaluate held tokens).toOption

theorem advance_eq_some_iff {b b' : Stub} {held : Nat} {tokens : List UInt32} :
    advance held tokens b = some b' ↔ b.evaluate held tokens = .ok b' := by
  unfold advance
  cases b.evaluate held tokens <;> simp [Except.toOption]

/-- The tokens of a batch are in the vocabulary if those of its parts are, and then the window has
room for them if it has room for the last ones. -/
theorem advances {ω : Type} (met : ω → Prop) : Backend.Advances met advance where
  evaluate_some _ _ hb := backend_evaluate_eq_ok_iff.mpr (advance_eq_some_iff.mp hb)
  evaluate_none {w b held tokens} _ _ hb := by
    cases he : b.evaluate held tokens with
    | ok b' =>
      rw [advance_eq_some_iff.mpr he] at hb
      cases hb
    | error e => exact ⟨e, clean_of_evaluate he, backend_evaluate_eq_error_iff.mpr ⟨he, rfl⟩⟩
  advance_append {b held xs ys} := by
    refine Option.ext fun b' => ?_
    simp only [Option.bind_eq_some_iff, advance_eq_some_iff, evaluate_eq_ok_iff,
      List.length_append, List.forall_mem_append]
    constructor
    · rintro ⟨⟨hx, hy⟩, rfl, hroom, rfl⟩
      refine ⟨_, ⟨hx, rfl, by omega, rfl⟩, hy, ?_, ?_, ?_⟩
      · simp [holding, TokenContext.length]
      · simp only [holding, TokenContext.length, List.length_append] at hroom ⊢
        omega
      · simp [holding]
    · rintro ⟨_, ⟨hx, rfl, -, rfl⟩, hy, -, hroom, rfl⟩
      refine ⟨⟨hx, hy⟩, rfl, ?_, ?_⟩
      · simp only [holding, TokenContext.length, List.length_append] at hroom ⊢
        omega
      · simp [holding]

end Stub

namespace Simulation

open Session

/-- The engine neither crashes nor misreports in this world, and it evaluates. -/
structure World.Evaluating (w : World) : Prop extends w.Steady where
  evalError : w.switches.evalError = none

/-- A backend that has evaluated tokens after its first `held` positions. -/
def grownBy (held : Nat) (tokens : List UInt32) (b : EngineBackend Engine) :
    EngineBackend Engine :=
  let cache := b.engine.cache.take held ++ tokens
  { engine := { b.engine with cache }
    context := { b.context with tokens := b.context.tokens ++ tokens }
    logits := Engine.logits cache b.engine.vocab }

/-- Evaluating the rest of a batch leaves the first part in the cache where it is. -/
theorem grownBy_grownBy (b : EngineBackend Engine) (held : Nat) (xs ys : List UInt32) :
    grownBy (held + xs.length) ys (grownBy held xs b) = grownBy held (xs ++ ys) b := by
  -- the cache may be shorter than `held`, so the first batch need not end where the second begins
  have hcache : (b.engine.cache.take held ++ xs).take (held + xs.length) =
      b.engine.cache.take held ++ xs := by
    apply List.take_of_length_le
    rw [List.length_append, List.length_take]
    omega
  simp only [grownBy, hcache, List.append_assoc]

def advance (held : Nat) (tokens : List UInt32) (b : EngineBackend Engine) :
    Option (EngineBackend Engine) :=
  if held = b.context.length ∧ b.context.length + tokens.length ≤ b.context.window then
    some (grownBy held tokens b)
  else none

theorem evaluate_eq_grownBy {w : World} (hw : w.Evaluating) {b : EngineBackend Engine} {held : Nat}
    {tokens : List UInt32} (hh : held = b.context.length)
    (hroom : b.context.length + tokens.length ≤ b.context.window) :
    Backend.evaluate w b held tokens = (.ok (), grownBy held tokens b) := by
  have happend : b.context.append held tokens =
      .ok { b.context with tokens := b.context.tokens ++ tokens } :=
    TokenContext.append_eq_ok_iff.mpr ⟨hh, hroom, rfl⟩
  have hcheck : b.context.checkAppend held tokens = .ok () := by
    obtain ⟨_, hc, -⟩ := Except.map_eq_ok_iff.mp happend
    exact hc
  change EngineBackend.evaluate w b held tokens = _
  simp only [EngineBackend.evaluate, hcheck, Engine.eval_of_none hw.toSteady hw.evalError, happend]
  rfl

theorem evaluate_refused (w : World) {b : EngineBackend Engine} {held : Nat}
    {tokens : List UInt32}
    (h : ¬ (held = b.context.length ∧ b.context.length + tokens.length ≤ b.context.window)) :
    ∃ e, e.leavesCacheDirty = false ∧ Backend.evaluate w b held tokens = (.error e, b) := by
  cases hc : b.context.checkAppend held tokens with
  | error e =>
    refine ⟨e, TokenContext.clean_of_checkAppend hc, ?_⟩
    change EngineBackend.evaluate w b held tokens = _
    simp only [EngineBackend.evaluate, hc]
  | ok u =>
    have happend : b.context.append held tokens =
        .ok { b.context with tokens := b.context.tokens ++ tokens } := by
      rw [TokenContext.append, hc]
      rfl
    obtain ⟨hh, hroom, -⟩ := TokenContext.append_eq_ok_iff.mp happend
    exact absurd ⟨hh, hroom⟩ h

theorem advances : Backend.Advances World.Evaluating advance where
  evaluate_some {w b b' held tokens} hw ht hb := by
    obtain ⟨⟨hh, hroom⟩, hb'⟩ := Option.ite_none_right_eq_some.mp hb
    cases hb'
    exact evaluate_eq_grownBy hw hh hroom
  evaluate_none {w b held tokens} hw ht hb := by
    refine evaluate_refused w fun h => ?_
    rw [advance, if_pos h] at hb
    cases hb
  advance_append {b held xs ys} := by
    have hlength : (grownBy held xs b).context.length = b.context.length + xs.length :=
      List.length_append
    have hwindow : (grownBy held xs b).context.window = b.context.window := rfl
    unfold advance
    by_cases hx : held = b.context.length ∧ b.context.length + xs.length ≤ b.context.window
    · rw [if_pos hx, Option.bind_some, hlength, hwindow, grownBy_grownBy, List.length_append]
      congr 1
      simp only [eq_iff_iff]
      omega
    · rw [if_neg hx, if_neg (by rw [List.length_append]; omega)]
      rfl

/-- Batching does not matter. Over a stub or a simulated engine that evaluates, a batch goes through
if and only if its parts go through one after another. The counts then add up and the sessions
differ in their staged tokens at most, so all scores and snapshots of them are the same. A batch
that does not go through leaves the session, its backend and its engine as they were. -/
theorem batching_immaterial (s : Session Plain) (xs ys : List UInt32) {w w₁ w₂ : World}
    (hw : w.Evaluating) (hw₁ : w₁.Evaluating) (hw₂ : w₂.Evaluating) :
    let whole := s.step w (xs ++ ys)
    let first := s.step w₁ xs
    let second := first.2.step w₂ ys
    ((∃ n, whole.1 = .ok n) ↔ (∃ m, first.1 = .ok m) ∧ ∃ k, second.1 = .ok k) ∧
      (∀ m k, first.1 = .ok m → second.1 = .ok k →
        whole.1 = .ok (m + k) ∧ Alike whole.2 second.2 ∧
          ∀ w : World, (∀ count, whole.2.peek w count = second.2.peek w count) ∧
            ∀ limit, whole.2.snapshot w limit = second.2.snapshot w limit) ∧
      ((∀ n, whole.1 ≠ .ok n) → ∃ e, whole = (.error e, s)) := by
  intro whole first second
  have hβ := (Stub.advances World.Evaluating).sum advances
  obtain ⟨hiff, hsum⟩ := step_append hβ hw hw₁ hw₂ s xs ys
  refine ⟨⟨?_, ?_⟩, ?_, step_of_not_ok hβ hw⟩
  · rintro ⟨n, hn⟩
    obtain ⟨m, s₁, k, s₂, h₁, h₂⟩ := hiff.mp ⟨n, whole.2, Prod.ext hn rfl⟩
    have hsecond : second = (.ok k, s₂) := by
      simp only [second, first, h₁, h₂]
    exact ⟨⟨m, congrArg Prod.fst h₁⟩, k, congrArg Prod.fst hsecond⟩
  · rintro ⟨⟨m, hm⟩, k, hk⟩
    obtain ⟨n, s', h⟩ := hiff.mpr ⟨m, first.2, k, second.2, Prod.ext hm rfl, Prod.ext hk rfl⟩
    exact ⟨n, congrArg Prod.fst h⟩
  · intro m k hm hk
    obtain ⟨s', h, halike⟩ := hsum m first.2 k second.2 (Prod.ext hm rfl) (Prod.ext hk rfl)
    have hs' : whole.2 = s' := congrArg Prod.snd h
    rw [hs']
    exact ⟨congrArg Prod.fst h, halike, fun w =>
      ⟨peek_alike halike w, snapshot_alike halike w⟩⟩

/-- A batch that fills the window, and its parts. -/
theorem batching_immaterial_filled :
    let s := Session.fresh (Sum.inr (EngineBackend.fresh ⟨[], 8⟩ 3) : Plain)
    let whole := s.step (filed {}) ([5, 6] ++ [7])
    let second := (s.step (filed {}) [5, 6]).2.step (filed {}) [7]
    whole.1 = .ok (2 + 1) ∧ Alike whole.2 second.2 ∧ whole.2.staged = [5, 6, 7] ∧
      second.2.staged = [7] := by
  intro s whole second
  have hw : (filed {}).Evaluating := ⟨⟨rfl, rfl, rfl, rfl, rfl, rfl⟩, rfl⟩
  obtain ⟨-, hjoin, -⟩ := batching_immaterial s [5, 6] [7] hw hw hw
  obtain ⟨hcount, halike, -⟩ := hjoin 2 1 rfl rfl
  exact ⟨hcount, halike, rfl, rfl⟩

end Simulation

end Decoding
