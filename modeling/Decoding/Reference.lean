import Decoding.Config
import Decoding.Text.Blank
import Decoding.Text.Numeral
import Decoding.Text.Quoted

/-!
Model references: `scheme:model?key=value&key=value`. The part before the first colon
is a scheme only if it is a known one; any other reference is as a whole the path of
an engine model, so paths may hold colons. The options begin at the first question
mark. A later option overrides an earlier one of the same key.
-/

namespace Decoding

/-- The families that a reference can name. -/
inductive Scheme where
  | deterministic
  | fixed
  | engine
  deriving DecidableEq, Repr

namespace Scheme

def all : List Scheme := [.deterministic, .fixed, .engine]

def name : Scheme → String
  | .deterministic => "deterministic"
  | .fixed => "fixed"
  | .engine => "engine"

/-- The scheme of references that name none. -/
def default : Scheme := .engine

def ofName? (cs : List Char) : Option Scheme := all.find? fun s => s.name.toList = cs

theorem ofName?_eq_some_iff {cs : List Char} {s : Scheme} :
    ofName? cs = some s ↔ cs = s.name.toList := by
  constructor
  · intro h
    have := List.find?_some h
    simpa [eq_comm] using this
  · rintro rfl
    cases s <;> decide

end Scheme

/-- The settings that a reference can override. -/
inductive Config.Key where
  | vocab
  | window
  | seed
  deriving DecidableEq, Repr

namespace Config.Key

def all : List Key := [.vocab, .window, .seed]

def name : Key → String
  | .vocab => "vocab"
  | .window => "n_ctx"
  | .seed => "seed"

def ofName? (cs : List Char) : Option Key := all.find? fun k => k.name.toList = cs

theorem ofName?_eq_some_iff {cs : List Char} {k : Key} :
    ofName? cs = some k ↔ cs = k.name.toList := by
  constructor
  · intro h
    have := List.find?_some h
    simpa [eq_comm] using this
  · rintro rfl
    cases k <;> decide

end Config.Key

/-- Override one setting. -/
def Config.set (c : Config) (n : Nat) : Config.Key → Config
  | .vocab => { c with vocab := n }
  | .window => { c with window := n }
  | .seed => { c with seed := .ofNat n }

/-- A family and the configuration to open a backend of it with. -/
structure Reference where
  scheme : Scheme
  config : Config
  deriving DecidableEq, Repr

namespace Reference

/-- Why a text is no reference. -/
inductive Fault where
  | empty
  | notKeyValue (option : String)
  | unknownOption (key : String)
  | invalidValue (key : Config.Key) (value : String)
  | config (fault : Config.Fault)
  deriving DecidableEq, Repr

def Fault.message : Fault → String
  | .empty => "model reference is empty"
  | .notKeyValue option => "option " ++ Text.quoted option ++ " is not key=value"
  | .unknownOption key => "unknown model option: " ++ key
  | .invalidValue key value => "invalid value for " ++ key.name ++ ": " ++ Text.quoted value
  | .config fault => "invalid configuration: " ++ fault.message

/-- Settings are 64-bit numbers. -/
def settingBound : Nat := UInt64.size

/-- The scheme of a reference and what follows it. -/
def splitScheme (cs : List Char) : Scheme × List Char :=
  match Text.cut? ':' cs with
  | none => (.default, cs)
  | some (before, after) =>
    match Scheme.ofName? before with
    | some s => (s, after)
    | none => (.default, cs)

/-- The model and the options, without empty ones. -/
def splitOptions (cs : List Char) : List Char × List (List Char) :=
  match Text.cut? '?' cs with
  | none => (cs, [])
  | some (model, query) => (model, (Text.parts '&' query).filter (· ≠ []))

def applyOption (c : Config) (option : List Char) : Except Fault Config :=
  match Text.cut? '=' option with
  | none => .error (.notKeyValue (.ofList option))
  | some (key, value) =>
    match Config.Key.ofName? key with
    | none => .error (.unknownOption (.ofList key))
    | some k =>
      match Text.readNumeral? settingBound value with
      | none => .error (.invalidValue k (.ofList value))
      | some n => .ok (c.set n k)

/-- Read a reference whose ends are not blank. -/
def read (cs : List Char) : Except Fault Reference := do
  if cs = [] then throw .empty
  let (scheme, rest) := splitScheme cs
  let (model, options) := splitOptions rest
  let config ← options.foldlM applyOption { model := .ofList model }
  match config.validate with
  | .ok () => return { scheme, config }
  | .error fault => throw (.config fault)

/-- Read a reference, blanks around it aside. -/
def parse (text : String) : Except Fault Reference := read (Text.trim text.toList)

/-- An option as it stands in a reference. -/
def printOption (o : Config.Key × Nat) : List Char :=
  o.1.name.toList ++ '=' :: Text.numeral o.2

/-- A reference with its options in the given order. -/
def print (scheme : Scheme) (model : List Char) (options : List (Config.Key × Nat)) :
    List Char :=
  scheme.name.toList ++ ':' :: model ++ '?' :: List.intercalate ['&'] (options.map printOption)

end Reference

end Decoding
