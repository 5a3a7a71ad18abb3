import Decoding.Backend.Payload

/-!
The token context: the tokens that a backend has evaluated, oldest first, within a
window of fixed size. Its encoding is a count and the tokens, all 32-bit words.
-/

namespace Decoding

structure TokenContext where
  tokens : List UInt32
  window : Nat
  deriving DecidableEq, Repr

namespace TokenContext

def empty (window : Nat) : TokenContext := ⟨[], window⟩

/-- The number of tokens held. -/
def length (c : TokenContext) : Nat := c.tokens.length

/-- Whether tokens may follow the first `held` ones: these must be all there are, and the window
must have room. -/
def checkAppend (c : TokenContext) (held : Nat) (tokens : List UInt32) :
    Except BackendError Unit :=
  if held ≠ c.length then .error (.prefixMismatch c.length held)
  else if c.length + tokens.length > c.window then
    .error (.contextFull (c.length + tokens.length) c.window)
  else .ok ()

def append (c : TokenContext) (held : Nat) (tokens : List UInt32) :
    Except BackendError TokenContext :=
  (c.checkAppend held tokens).map fun _ => { c with tokens := c.tokens ++ tokens }

/-- Keep the first `n` tokens only. -/
def truncate (c : TokenContext) (n : Nat) : TokenContext :=
  { c with tokens := c.tokens.take n }

def encodedSize (c : TokenContext) : Nat := 4 + 4 * c.length

def encode (c : TokenContext) : Bytes :=
  Bytes.ofWord (.ofNat c.length) ++ Bytes.ofWords c.tokens

/-- Read a context for a window. A count beyond the window is refused whatever follows it. -/
def decode (window : Nat) (bs : Bytes) : Except BackendError (TokenContext × Bytes) := do
  let (count, rest) ← Payload.takeWord bs
  if count.toNat > window then
    throw (.mismatch (.contextTooLong count.toNat window))
  let (tokens, rest) ← Payload.takeRun count.toNat rest
  return (⟨tokens, window⟩, rest)

@[simp] theorem tokens_empty (n : Nat) : (empty n).tokens = [] := rfl
@[simp] theorem tokens_truncate (c : TokenContext) (n : Nat) :
    (c.truncate n).tokens = c.tokens.take n := rfl
@[simp] theorem window_truncate (c : TokenContext) (n : Nat) :
    (c.truncate n).window = c.window := rfl

@[simp] theorem length_encode (c : TokenContext) : c.encode.length = c.encodedSize := by
  simp [encode, encodedSize, length]

/-- A context is read back from its encoding, whatever follows, if its window is below the bound
of a word. -/
theorem decode_encode_append {c : TokenContext} (rest : Bytes) (h : c.length ≤ c.window)
    (hw : c.window < UInt32.size) : decode c.window (c.encode ++ rest) = .ok (c, rest) := by
  have hcount : (UInt32.ofNat c.length).toNat = c.length := by
    simp only [UInt32.toNat_ofNat', UInt32.size] at *
    omega
  simp only [decode, encode, List.append_assoc, Payload.takeWord_ofWord_append, bind, Except.bind]
  rw [hcount, if_neg (by omega)]
  simp only [pure, Except.pure, length, Payload.takeRun_ofWords_append]

theorem append_eq_ok_iff {c d : TokenContext} {held : Nat} {ts : List UInt32} :
    c.append held ts = .ok d ↔
      held = c.length ∧ c.length + ts.length ≤ c.window ∧ d = ⟨c.tokens ++ ts, c.window⟩ := by
  unfold append checkAppend
  split
  · simp [Except.map, *]
  · split
    · simp only [Except.map, reduceCtorEq, false_iff]
      omega
    · simp only [Except.map, Except.ok.injEq]
      constructor
      · rintro rfl
        exact ⟨by omega, by omega, rfl⟩
      · rintro ⟨_, _, rfl⟩
        rfl

end TokenContext

end Decoding
