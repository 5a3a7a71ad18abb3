import Decoding.Backend.Error

/-!
Model files. A file is accepted by its first eight bytes, the letters GGUF and a
version from 2 to 3, and is kept whole.
-/

namespace Decoding

/-- A model file that has been probed. -/
structure ModelFile where
  path : String
  version : UInt32
  content : Bytes
  deriving DecidableEq, Repr

namespace ModelFile

def magic : Bytes := [0x47, 0x47, 0x55, 0x46]
def minVersion : UInt32 := 2
def maxVersion : UInt32 := 3

/-- The version in the first bytes of a model file. A wrong magic is reported even where the
version is cut off. -/
def probe (content : Bytes) : Except BackendError UInt32 :=
  if content.length < 4 then .error (.file .endOfFile)
  else if content.take 4 ≠ magic then .error (.badMagic (content.take 4))
  else match Bytes.takeWord (content.drop 4) with
    | none => .error (.file .endOfFile)
    | some (version, _) =>
      if minVersion ≤ version ∧ version ≤ maxVersion then .ok version
      else .error (.unsupportedVersion version)

def load (files : FileTable) (path : String) : Except BackendError ModelFile :=
  match files.read path with
  | .error e => .error (.file e)
  | .ok content => (probe content).map fun version => ⟨path, version, content⟩

end ModelFile

end Decoding
