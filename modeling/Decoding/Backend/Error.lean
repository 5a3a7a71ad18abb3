import Decoding.Model.FileTable

/-!
The errors that backends, engines and their families report, with the text of each.
-/

namespace Decoding

/-- How a state payload can disagree with the backend that reads or writes it. -/
inductive StateMismatch where
  | contextTooLong (held window : Nat)
  | tooManyLogits (count vocab : Nat)
  | engineWrote (reported written : Nat)
  | engineConsumed (consumed size : Nat)
  deriving DecidableEq, Repr

def StateMismatch.message : StateMismatch → String
  | .contextTooLong held window => s!"context holds {held} tokens but n_ctx is {window}"
  | .tooManyLogits count vocab => s!"{count} logits exceed vocab size {vocab}"
  | .engineWrote reported written =>
    s!"engine reported {reported} state bytes but wrote {written}"
  | .engineConsumed consumed size => s!"engine consumed {consumed} of {size} state bytes"

inductive BackendError where
  | file (cause : FileError)
  | badMagic (found : Bytes)
  | unsupportedVersion (version : UInt32)
  | config (reason : String)
  | bootstrap (reason : String)
  /-- The tokens would need more positions than the window has. -/
  | contextFull (needed window : Nat)
  | tokenOutOfRange (token : UInt32) (vocab : Nat)
  /-- The caller takes the context to be longer or shorter than it is. -/
  | prefixMismatch (held expected : Nat)
  /-- The payload ends `wanted` bytes before the field that is being read. -/
  | truncated (wanted : Nat)
  | mismatch (cause : StateMismatch)
  | unknownToken (token : UInt32)
  | engine (text : String)
  /-- An evaluation failed, and so did the removal of what it had written. -/
  | partialEvaluation (error cleanup : BackendError)
  deriving DecidableEq, Repr

namespace BackendError

def message : BackendError → String
  | .file e => "IO error: " ++ e.message
  | .badMagic found => "invalid model file magic: expected 'GGUF', got " ++ Bytes.describe found
  | .unsupportedVersion v => s!"unsupported model file version: {v.toNat}"
  | .config reason => "invalid configuration: " ++ reason
  | .bootstrap reason => "backend bootstrap failed: " ++ reason
  | .contextFull needed window => s!"context window full: {needed} tokens > n_ctx {window}"
  | .tokenOutOfRange token vocab => s!"token id {token.toNat} exceeds vocab size {vocab}"
  | .prefixMismatch held expected =>
    s!"prefix mismatch: backend holds {held} tokens, caller expects {expected}"
  | .truncated wanted => s!"truncated state payload: wanted {wanted} more bytes"
  | .mismatch cause => "state payload does not match backend: " ++ cause.message
  | .unknownToken token => s!"unknown token id: {token.toNat}"
  | .engine text => "engine error: " ++ text
  | .partialEvaluation error cleanup =>
    "evaluation failed (" ++ error.message ++
      ") and its partial cache writes could not be discarded: " ++ cleanup.message

/-- Whether the call that failed may have left positions in the cache. -/
def leavesCacheDirty : BackendError → Bool
  | .partialEvaluation .. => true
  | _ => false

end BackendError

end Decoding
