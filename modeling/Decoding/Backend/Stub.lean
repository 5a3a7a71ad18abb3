import Decoding.Backend.Basic
import Decoding.Backend.ByteTokens
import Decoding.Buffer
import Decoding.Config
import Decoding.Keystream

/-!
Backends without an engine. Their context is all their state, and their scores come
from a rule: a ramp that moves with the length of the context, or a distribution
drawn once from the seed. Texts are tokenized byte by byte.
-/

namespace Decoding

/-- Where a stub's scores come from. -/
inductive Scoring where
  /-- Score `i` of `vocab` is the remainder of the context length plus `i` by 100, over 100. -/
  | ramp (vocab : Nat)
  /-- The scores never change. -/
  | table (scores : List Score)
  deriving DecidableEq, Repr

namespace Scoring

def vocab : Scoring → Nat
  | .ramp vocab => vocab
  | .table scores => scores.length

/-- The first scores, at most `room` of them, for a context of the given length. -/
def scores (held : Nat) (room : Nat) : Scoring → List Score
  | .ramp vocab =>
    (List.range (min room vocab)).map fun i =>
      .ofFloat (Score.ofCount ((held + i) % 100) / 100.0)
  | .table scores => scores.take room

/-- Weights drawn from the seed, each divided by their sum; equal shares if the sum is zero. -/
def distribution (vocab : Nat) (seed : UInt64) : List Score :=
  let weights := (Keystream.words seed vocab).map Keystream.unit
  let sum := weights.foldl (· + ·) 0
  if sum ≤ 0 then List.replicate vocab (.ofFloat (1.0 / Score.ofCount vocab))
  else weights.map fun w => .ofFloat (w / sum)

/-- A distribution in a buffer of its own. -/
def draw (vocab : Nat) (seed : UInt64) : Outcome BackendError (List Score) :=
  Buffer.make (Score.size * vocab) fun _ => .ok (distribution vocab seed)

@[simp] theorem length_scores (s : Scoring) (held room : Nat) :
    (s.scores held room).length = min room s.vocab := by
  cases s <;> simp [scores, vocab]

@[simp] theorem length_distribution (vocab : Nat) (seed : UInt64) :
    (distribution vocab seed).length = vocab := by
  unfold distribution
  simp only
  split <;> simp

end Scoring

structure Stub where
  scoring : Scoring
  context : TokenContext
  deriving DecidableEq, Repr

namespace Stub

/-- A stub with ramp scores and an empty context. The configuration is not checked. -/
def deterministic (c : Config) : Stub := ⟨.ramp c.vocab, .empty c.window⟩

/-- A stub with scores drawn from the seed and an empty context. The configuration is not
checked, so its scores may be more than a buffer can hold. -/
def fixed (c : Config) : Outcome BackendError Stub :=
  (Scoring.draw c.vocab c.seed).map fun scores => ⟨.table scores, .empty c.window⟩

/-- A valid configuration has few enough scores. -/
theorem fixed_of_valid {c : Config} (h : c.Valid) :
    fixed c = .ok ⟨.table (Scoring.distribution c.vocab c.seed), .empty c.window⟩ := by
  have hv : c.vocab ≤ Config.maxCount := h.vocab.2
  have hfits : Score.size * c.vocab ≤ Buffer.maxBytes := by
    simp only [Config.maxCount, Score.size, Buffer.maxBytes] at *
    omega
  rw [fixed, Scoring.draw, Buffer.make_of_le hfits]
  rfl

def vocab (b : Stub) : Nat := b.scoring.vocab

def name (b : Stub) : String :=
  match b.scoring with
  | .ramp _ => "deterministic"
  | .table _ => "fixed"

/-- The memory that a stub reports while its context is empty, in MiB. -/
def baseMemory : Nat := 256

def evaluate (b : Stub) (held : Nat) (tokens : List UInt32) : Except BackendError Stub := do
  Backend.checkVocab b.vocab tokens
  let context ← b.context.append held tokens
  return { b with context }

/-- Read a context from the front of a payload; its tokens must be in the vocabulary. -/
def restore (b : Stub) (payload : Bytes) : Except BackendError (Nat × Stub) := do
  let (context, rest) ← TokenContext.decode b.context.window payload
  Backend.checkVocab b.vocab context.tokens
  return (payload.length - rest.length, { b with context })

instance : Device Stub where
  name := name
  context b := b.context.tokens
  release _ := []

instance {ω : Type} : Backend ω Stub where
  evaluate _ b held tokens := Outcome.commit b ((b.evaluate held tokens).map fun b' => ((), b'))
  scores _ b buffer :=
    let scores := b.scoring.scores b.context.length buffer.length
    (.ok scores.length, scores)
  evict _ b n := (.ok (), { b with context := b.context.truncate n })
  stateSize _ b := .ok (.ofNat b.context.encodedSize)
  serialize _ b := .ok b.context.encode
  deserialize _ b payload := Outcome.commit b (b.restore payload)
  tokenize _ _ text := .ok (ByteTokens.tokenize text)
  piece _ _ token := .ofExcept (ByteTokens.piece token)
  memory _ b := .ok (baseMemory + b.context.length / 4)

end Stub

end Decoding
