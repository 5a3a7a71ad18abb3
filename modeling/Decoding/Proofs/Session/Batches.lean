import Decoding.Backend.Either
import Decoding.Proofs.Session.Alike

/-!
Steps in batches. A backend that checks a whole batch before it takes any of it takes the batch if
and only if it takes its parts one after another, and is the same backend then. So is the session,
but for the staged tokens, which are those of the last batch; and a batch that is refused leaves
nothing of its first part behind.
-/

namespace Decoding

/-- In the worlds met, evaluations make the backend `advance`, or are refused and leave it as it
is. To advance by two runs of tokens is to advance by both at once. -/
structure Backend.Advances {ω β : Type} [Device β] [Backend ω β] (met : ω → Prop)
    (advance : Nat → List UInt32 → β → Option β) : Prop where
  evaluate_some {w : ω} {b b' : β} {held : Nat} {tokens : List UInt32} : met w → tokens ≠ [] →
    advance held tokens b = some b' → Backend.evaluate w b held tokens = (.ok (), b')
  evaluate_none {w : ω} {b : β} {held : Nat} {tokens : List UInt32} : met w → tokens ≠ [] →
    advance held tokens b = none →
      ∃ e, e.leavesCacheDirty = false ∧ Backend.evaluate w b held tokens = (.error e, b)
  advance_append {b : β} {held : Nat} {xs ys : List UInt32} :
    advance held (xs ++ ys) b = (advance held xs b).bind (advance (held + xs.length) ys)

/-- A backend of either kind advances as its kind does. -/
theorem Backend.Advances.sum {ω α β : Type} [Device α] [Backend ω α] [Device β] [Backend ω β]
    {met : ω → Prop} {advance : Nat → List UInt32 → α → Option α}
    {advance' : Nat → List UInt32 → β → Option β} (h : Backend.Advances met advance)
    (h' : Backend.Advances met advance') :
    Backend.Advances met fun held tokens => Sum.elim
      (fun a => (advance held tokens a).map (Sum.inl : α → α ⊕ β))
      (fun b => (advance' held tokens b).map (Sum.inr : β → α ⊕ β)) where
  evaluate_some {w b b' held tokens} hw ht hb := by
    cases b with
    | inl a =>
      obtain ⟨a', ha, rfl⟩ := Option.map_eq_some_iff.mp hb
      exact congrArg (Prod.map id Sum.inl) (h.evaluate_some hw ht ha)
    | inr b =>
      obtain ⟨b', hb', rfl⟩ := Option.map_eq_some_iff.mp hb
      exact congrArg (Prod.map id Sum.inr) (h'.evaluate_some hw ht hb')
  evaluate_none {w b held tokens} hw ht hb := by
    cases b with
    | inl a =>
      obtain ⟨e, hd, he⟩ := h.evaluate_none hw ht (Option.map_eq_none_iff.mp hb)
      exact ⟨e, hd, congrArg (Prod.map id Sum.inl) he⟩
    | inr b =>
      obtain ⟨e, hd, he⟩ := h'.evaluate_none hw ht (Option.map_eq_none_iff.mp hb)
      exact ⟨e, hd, congrArg (Prod.map id Sum.inr) he⟩
  advance_append {b held xs ys} := by
    cases b with
    | inl a =>
      simp only [Sum.elim_inl, h.advance_append]
      cases advance held xs a <;> rfl
    | inr b =>
      simp only [Sum.elim_inr, h'.advance_append]
      cases advance' held xs b <;> rfl

namespace Session

variable {ω β : Type}

/-- A session whose backend has taken some tokens. -/
def grown (s : Session β) (tokens : List UInt32) (b : β) : Session β :=
  { s with
    backend := b
    position := s.position + tokens.length
    committed := s.committed ++ tokens
    staged := tokens }

/-- The session that some tokens lead to, if its backend takes them. -/
def advanced (advance : Nat → List UInt32 → β → Option β) (s : Session β)
    (tokens : List UInt32) : Option (Session β) :=
  if tokens = [] then some s else (advance s.position tokens s.backend).map (s.grown tokens)

def unstaged (s : Session β) : Session β := { s with staged := [] }

/-- Sessions that are the same without their staged tokens differ in these at most. -/
theorem alike_of_unstaged_eq {s t : Session β} (h : s.unstaged = t.unstaged) : Alike s t := by
  refine ⟨t.staged, ?_⟩
  have ht : t = { t.unstaged with staged := t.staged } := rfl
  rw [ht, ← h]
  rfl

section Advanced

variable [Device β] [Backend ω β] {met : ω → Prop} {advance : Nat → List UInt32 → β → Option β}
  {w : ω} {s s' : Session β} {tokens : List UInt32}

theorem step_of_advanced (hβ : Backend.Advances met advance) (hw : met w) (hf : s.fault = none)
    (h : s.advanced advance tokens = some s') : s.step w tokens = (.ok tokens.length, s') := by
  unfold advanced at h
  split at h
  · rename_i ht
    cases h
    simp only [step, hf, ht, if_true, List.length_nil]
  · rename_i ht
    obtain ⟨b, hb, rfl⟩ := Option.map_eq_some_iff.mp h
    simp only [step, hf, if_neg ht, hβ.evaluate_some hw ht hb, grown]

theorem step_of_not_advanced (hβ : Backend.Advances met advance) (hw : met w)
    (hf : s.fault = none) (h : s.advanced advance tokens = none) :
    ∃ e, s.step w tokens = (.error e, s) := by
  unfold advanced at h
  split at h
  · cases h
  · rename_i ht
    obtain ⟨e, hd, he⟩ := hβ.evaluate_none hw ht (Option.map_eq_none_iff.mp h)
    refine ⟨.evaluation e, ?_⟩
    simp only [step, hf, if_neg ht, he, hd]
    rw [← hf]
    rfl

/-- A step goes through in every world met, or in none. -/
theorem step_eq_ok_iff (hβ : Backend.Advances met advance) (hw : met w) {n : Nat} :
    s.step w tokens = (.ok n, s') ↔
      s.fault = none ∧ n = tokens.length ∧ s.advanced advance tokens = some s' := by
  cases hf : s.fault with
  | some fault => simp [step, hf]
  | none =>
    cases ha : s.advanced advance tokens with
    | some t =>
      rw [step_of_advanced hβ hw hf ha]
      simp [eq_comm]
    | none =>
      obtain ⟨e, he⟩ := step_of_not_advanced hβ hw hf ha
      simp [he]

omit [Device β] in
theorem fault_advanced (h : s.advanced advance tokens = some s') : s'.fault = s.fault := by
  unfold advanced at h
  split at h
  · cases h
    rfl
  · obtain ⟨b, -, rfl⟩ := Option.map_eq_some_iff.mp h
    rfl

/-- What the parts of a batch lead to is what the batch leads to, with the last part staged. -/
theorem advanced_append (hβ : Backend.Advances met advance) (s : Session β)
    (xs ys : List UInt32) :
    ((s.advanced advance xs).bind (advanced advance · ys)).map unstaged =
      (s.advanced advance (xs ++ ys)).map unstaged := by
  by_cases hx : xs = []
  · rw [hx]
    rfl
  · by_cases hy : ys = []
    · rw [hy, List.append_nil]
      cases s.advanced advance xs <;> rfl
    · have hxy : xs ++ ys ≠ [] := fun h => hx (List.append_eq_nil_iff.mp h).1
      simp only [advanced, if_neg hx, if_neg hy, if_neg hxy, hβ.advance_append]
      cases advance s.position xs s.backend with
      | none => rfl
      | some b =>
        simp only [Option.map_some, Option.bind_some, grown]
        cases advance (s.position + xs.length) ys b with
        | none => rfl
        | some b' =>
          simp only [Option.map_some, grown, unstaged, List.length_append, List.append_assoc,
            Nat.add_assoc]

/-- A batch goes through exactly if its parts do. Then the counts add up, and the sessions differ in
the staged tokens at most. -/
theorem step_append (hβ : Backend.Advances met advance) {w₁ w₂ : ω} (hw : met w) (hw₁ : met w₁)
    (hw₂ : met w₂) (s : Session β) (xs ys : List UInt32) :
    ((∃ n s', s.step w (xs ++ ys) = (.ok n, s')) ↔
      ∃ m s₁ k s₂, s.step w₁ xs = (.ok m, s₁) ∧ s₁.step w₂ ys = (.ok k, s₂)) ∧
    ∀ m s₁ k s₂, s.step w₁ xs = (.ok m, s₁) → s₁.step w₂ ys = (.ok k, s₂) →
      ∃ s', s.step w (xs ++ ys) = (.ok (m + k), s') ∧ Alike s' s₂ := by
  have happend := advanced_append hβ s xs ys
  have hjoin {m s₁ k s₂} (h₁ : s.step w₁ xs = (.ok m, s₁)) (h₂ : s₁.step w₂ ys = (.ok k, s₂)) :
      ∃ s', s.step w (xs ++ ys) = (.ok (m + k), s') ∧ Alike s' s₂ := by
    obtain ⟨hf, rfl, ha₁⟩ := (step_eq_ok_iff hβ hw₁).mp h₁
    obtain ⟨-, rfl, ha₂⟩ := (step_eq_ok_iff hβ hw₂).mp h₂
    rw [ha₁, Option.bind_some, ha₂] at happend
    obtain ⟨s', ha, hsame⟩ := Option.map_eq_some_iff.mp happend.symm
    exact ⟨s', (step_eq_ok_iff hβ hw).mpr ⟨hf, by simp, ha⟩, alike_of_unstaged_eq hsame⟩
  refine ⟨⟨?_, ?_⟩, fun m s₁ k s₂ => hjoin⟩
  · rintro ⟨n, s', h⟩
    obtain ⟨hf, -, ha⟩ := (step_eq_ok_iff hβ hw).mp h
    rw [ha] at happend
    obtain ⟨s₂, hbind, -⟩ := Option.map_eq_some_iff.mp happend
    obtain ⟨s₁, ha₁, ha₂⟩ := Option.bind_eq_some_iff.mp hbind
    have hf₁ : s₁.fault = none := (fault_advanced ha₁).trans hf
    exact ⟨_, s₁, _, s₂, (step_eq_ok_iff hβ hw₁).mpr ⟨hf, rfl, ha₁⟩,
      (step_eq_ok_iff hβ hw₂).mpr ⟨hf₁, rfl, ha₂⟩⟩
  · rintro ⟨m, s₁, k, s₂, h₁, h₂⟩
    obtain ⟨s', h, -⟩ := hjoin h₁ h₂
    exact ⟨_, s', h⟩

/-- A batch that does not go through leaves no trace. -/
theorem step_of_not_ok (hβ : Backend.Advances met advance) (hw : met w)
    (h : ∀ n, (s.step w tokens).1 ≠ .ok n) : ∃ e, s.step w tokens = (.error e, s) := by
  cases hf : s.fault with
  | some fault => exact ⟨.faulted fault, by simp only [step, hf]⟩
  | none =>
    cases ha : s.advanced advance tokens with
    | some t =>
      rw [step_of_advanced hβ hw hf ha] at h
      exact absurd rfl (h _)
    | none => exact step_of_not_advanced hβ hw hf ha

end Advanced

end Session

end Decoding
