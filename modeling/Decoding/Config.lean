/-!
What a model is opened with. The score width and the context window must fit a
signed 32-bit integer, in which callers count tokens.
-/

namespace Decoding

/-- The settings of one backend. -/
structure Config where
  /-- The name of the model, or the path of its file. -/
  model : String
  /-- The number of scores, and the bound on token ids. -/
  vocab : Nat := 32000
  /-- The most tokens that the context may hold. -/
  window : Nat := 4096
  /-- The seed of backends that draw a fixed state at random. -/
  seed : UInt64 := 0
  deriving DecidableEq, Repr

namespace Config

/-- The largest count that a signed 32-bit integer holds. -/
def maxCount : Nat := 2147483647

inductive Fault where
  | emptyModel
  | vocabOutOfRange (vocab : Nat)
  | windowOutOfRange (window : Nat)
  deriving DecidableEq, Repr

def Fault.message : Fault → String
  | .emptyModel => "model reference is empty"
  | .vocabOutOfRange n => s!"vocab must be in 1..={maxCount}, got {n}"
  | .windowOutOfRange n => s!"n_ctx must be in 1..={maxCount}, got {n}"

/-- The bounds that every backend relies on. -/
structure Valid (c : Config) : Prop where
  model : c.model ≠ ""
  vocab : 0 < c.vocab ∧ c.vocab ≤ maxCount
  window : 0 < c.window ∧ c.window ≤ maxCount

/-- Check the bounds, the model first and the window last. -/
def validate (c : Config) : Except Fault Unit :=
  if c.model = "" then .error .emptyModel
  else if c.vocab = 0 ∨ c.vocab > maxCount then .error (.vocabOutOfRange c.vocab)
  else if c.window = 0 ∨ c.window > maxCount then .error (.windowOutOfRange c.window)
  else .ok ()

theorem validate_eq_ok_iff {c : Config} : c.validate = .ok () ↔ c.Valid := by
  unfold validate
  split
  · rename_i h
    simp only [reduceCtorEq, false_iff]
    exact fun v => v.model h
  · split
    · simp only [reduceCtorEq, false_iff]
      intro v
      have := v.vocab
      omega
    · split
      · simp only [reduceCtorEq, false_iff]
        intro v
        have := v.window
        omega
      · exact ⟨fun _ => ⟨by assumption, by omega, by omega⟩, fun _ => rfl⟩

end Config

end Decoding
