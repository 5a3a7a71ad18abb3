import Decoding.Backend.Engine
import Decoding.Backend.Family
import Decoding.Simulation.World
import Decoding.Text.Blank
import Decoding.Text.Numeral
import Decoding.Text.Utf8

/-!
A simulated engine. Its cache is the list of evaluated tokens, and its logits are a
function of their sum: logit `i` is the sum plus `i`, over ten. It writes the first
token before it fails to evaluate, so that a failure leaves something to clean up.
-/

namespace Decoding.Simulation

structure Engine where
  cache : List UInt32
  vocab : Nat
  deriving DecidableEq, Repr

namespace Engine

/-- The sum of the cached tokens, as a 32-bit word. -/
def sum (cache : List UInt32) : UInt32 := cache.foldl (· + ·) 0

/-- The logits of a cache. -/
def logits (cache : List UInt32) (width : Nat) : List Score :=
  let base := Score.ofCount (sum cache).toNat
  (List.range width).map fun i => .ofFloat ((base + Score.ofCount i) / 10.0)

def eval (w : World) (e : Engine) (held : Nat) (tokens : List UInt32) :
    Outcome BackendError (List Score) × Engine :=
  match w.switches.evalCrash with
  | some t => (.crash t, e)
  | none =>
    let kept := e.cache.take held
    match w.switches.evalError, tokens with
    | some _, [] => (.crash noFirstToken, { e with cache := kept })
    | some text, first :: _ => (.error (.engine text), { e with cache := kept ++ [first] })
    | none, tokens =>
      let cache := kept ++ tokens
      let result := match w.switches.evalWidth with
        | none => .ok (logits cache e.vocab)
        | some width => Buffer.make (Score.size * width) fun _ => .ok (logits cache width)
      (result, { e with cache })

def removeFrom (w : World) (e : Engine) (n : Nat) : Outcome BackendError Unit × Engine :=
  match w.switches.removeCrash, w.switches.removeError with
  | some t, _ => (.crash t, e)
  | none, some text => (.error (.engine text), e)
  | none, none => (.ok (), { e with cache := e.cache.take n })

/-- The number of cached tokens and the tokens. -/
def encode (cache : List UInt32) : Bytes :=
  Bytes.ofWord (.ofNat cache.length) ++ Bytes.ofWords cache

def stateSize (w : World) (e : Engine) : UInt64 :=
  w.switches.stateSize.getD (.ofNat (4 + 4 * e.cache.length))

def save (w : World) (e : Engine) : Outcome BackendError Bytes :=
  match w.switches.saveError with
  | some text => .error (.engine text)
  | none => .ok (encode e.cache ++ List.replicate w.switches.saveExtra padding)

/-- Read a cache from the front of a state. -/
def decode (bytes : Bytes) : Except BackendError (List UInt32 × Bytes) := do
  let (count, rest) ← Payload.takeWord bytes
  Payload.takeWords count.toNat rest

def load (w : World) (e : Engine) (bytes : Bytes) : Outcome BackendError Nat × Engine :=
  match w.switches.loadCrash, w.switches.loadError with
  | some t, _ => (.crash t, e)
  | none, some text => (.error (.engine text), e)
  | none, none =>
    match decode bytes with
    | .error cause => (.error cause, e)
    | .ok (cache, rest) => (.ok (bytes.length - rest.length), { e with cache })

/-- A word is the token that it writes in decimal, or else its length in bytes. -/
def wordToken (word : List Char) : UInt32 :=
  match Text.readNumeral? UInt32.size word with
  | some n => .ofNat n
  | none => .ofNat (String.ofList word).utf8ByteSize

/-- The tokens of the words between spaces. -/
def tokenize (w : World) (_ : Engine) (text : String) : Outcome BackendError (List UInt32) :=
  match w.switches.tokenizeError with
  | some text => .error (.engine text)
  | none => .ok (((Text.parts ' ' text.toList).filter (· ≠ [])).map wordToken)

def piece (w : World) (_ : Engine) (token : UInt32) : Outcome BackendError Bytes :=
  match w.switches.tokenizeError with
  | some text => .error (.engine text)
  | none => .ok (Text.Utf8.encode ("<" ++ toString token.toNat ++ ">"))

def memory (w : World) (e : Engine) : Nat := w.switches.memory.getD (64 + e.cache.length)

instance : Decoding.Engine World Engine where
  eval := eval
  removeFrom := removeFrom
  stateSize w e := .ok (stateSize w e)
  save := save
  load := load
  tokenize := tokenize
  piece := piece
  vocab _ e := .ok e.vocab
  memory w e := .ok (memory w e)

end Engine

/-- The factory of simulated engines. It logs what it does. -/
def factory : EngineFactory World Engine :=
  { start := fun w =>
      match w.switches.startCrash, w.switches.startError with
      | some t, _ => (.crash t, [])
      | none, some text => (.error (.engine text), [])
      | none, none => (.ok (), ["init_process"])
    stop := fun w =>
      match w.switches.stopCrash with
      | some t => (.crash t, ["shutdown_process"])
      | none => (.ok (), ["shutdown_process"])
    load := fun w model config =>
      match w.switches.factoryCrash, w.switches.factoryError with
      | some t, _ => (.crash t, [])
      | none, some text => (.error (.engine text), [])
      | none, none =>
        (.ok { cache := [], vocab := config.vocab },
          ["load " ++ model.path ++ " v" ++ toString model.version.toNat ++ " " ++
            toString model.content.length ++ " bytes"]) }

/-- The family of backends over simulated engines. -/
def engineFamily : Family World (EngineBackend Engine) := factory.family World.files

end Decoding.Simulation
