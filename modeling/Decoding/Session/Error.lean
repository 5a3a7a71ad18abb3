import Decoding.Backend.Error
import Decoding.Reference
import Decoding.Session.Id
import Decoding.Snapshot.Header
import Decoding.Text.Utf8

/-!
The errors of sessions, of the host that owns them and of the boundary through
which foreign callers reach them. Each names its cause; `SessionError.message` gives
the text.
-/

namespace Decoding

/-- Why the cache of a session may not hold what its history says. -/
inductive Session.Fault where
  /-- An eviction failed, or an evaluation whose leftovers could not be removed. -/
  | staleCache (cause : BackendError)
  /-- After a failed import the former state was taken back only in part. -/
  | restoreShort
  /-- After a failed import the former state was refused. -/
  | restoreFailed (cause : BackendError)
  deriving DecidableEq, Repr

def Session.Fault.message : Session.Fault → String
  | .staleCache cause => cause.message
  | .restoreShort => "pre-import state could not be restored"
  | .restoreFailed cause => "pre-import state could not be restored: " ++ cause.message

/-- A call that should not have been made as it was. -/
inductive Misuse where
  | zeroScores
  | emptyScoreBuffer
  /-- A text or token that the backend cannot convert. -/
  | conversion (cause : BackendError)
  | shortSnapshot (size : Nat)
  | unknownSession (id : SessionId)
  | busyFamily (name : String) (live : Nat)
  | nullHandle
  | null (argument : String)
  | nullText
  | scoreBuffer
  | negative (argument : String)
  | negativeToken (token : Int32)
  | notUtf8 (argument : String) (fault : Text.Utf8.Fault)
  deriving DecidableEq, Repr

def Misuse.message : Misuse → String
  | .zeroScores => "requested score count must be positive"
  | .emptyScoreBuffer => "score buffer is empty"
  | .conversion cause => cause.message
  | .shortSnapshot size =>
    s!"snapshot of {size} bytes is shorter than the {Snapshot.headerSize}-byte header"
  | .unknownSession id => "unknown session " ++ id.text
  | .busyFamily name live => s!"family {name} has {live} live sessions"
  | .nullHandle => "null session handle"
  | .null argument => argument ++ " is null"
  | .nullText => "text and out_tokens must be non-null"
  | .scoreBuffer => "out_buffer must be non-null and top_k_size positive"
  | .negative argument => argument ++ " must not be negative"
  | .negativeToken token => s!"negative token id {token.toInt}"
  | .notUtf8 argument fault => argument ++ " is not UTF-8: " ++ fault.message

/-- Why no session could be created. -/
inductive InitFailure where
  | reference (fault : Reference.Fault)
  | noFamily (scheme : String)
  | backend (cause : BackendError)
  deriving DecidableEq, Repr

def InitFailure.message : InitFailure → String
  | .reference fault => fault.message
  | .noFamily scheme => "no backend family registered for " ++ scheme
  | .backend cause => cause.message

/-- What is wrong with a snapshot of the right format. -/
inductive Corruption where
  | shortHeader
  | payloadSize (declared present : Nat)
  | backend (cause : BackendError)
  | leftover (consumed size : Nat)
  | position (held declared : Nat)
  deriving DecidableEq, Repr

def Corruption.message : Corruption → String
  | .shortHeader => "short header: " ++ FileError.endOfFile.message
  | .payloadSize declared present =>
    s!"header declares {declared} payload bytes but {present} follow"
  | .backend cause => cause.message
  | .leftover consumed size => s!"backend consumed {consumed} of {size} payload bytes"
  | .position held declared => s!"payload holds {held} positions but header says {declared}"

/-- A failure that no argument of the caller explains. -/
inductive InternalFault where
  | serializing (cause : BackendError)
  | payloadSize (reported written : Nat)
  | backup (cause : BackendError)
  | tableFull
  | tokenOverflow (token : UInt32)
  deriving DecidableEq, Repr

def InternalFault.message : InternalFault → String
  | .serializing cause => "serializing backend state: " ++ cause.message
  | .payloadSize reported written =>
    s!"backend reported {reported} payload bytes but wrote {written}"
  | .backup cause => "saving pre-import state: " ++ cause.message
  | .tableFull => "session table is full"
  | .tokenOverflow token => s!"token id {token.toNat} overflows int"

inductive SessionError where
  | invalidArgument (reason : Misuse)
  | initialization (reason : InitFailure)
  | evaluation (cause : BackendError)
  | eviction (cause : BackendError)
  | faulted (fault : Session.Fault)
  | bufferTooSmall (needed capacity : Nat)
  | limitExceeded (size limit : Nat)
  | formatMismatch (cause : FormatMismatch)
  | corrupted (cause : Corruption)
  | poisoned
  | internal (cause : InternalFault)
  deriving DecidableEq, Repr

namespace SessionError

def message : SessionError → String
  | .invalidArgument reason => "invalid argument: " ++ reason.message
  | .initialization reason => "initialization failed: " ++ reason.message
  | .evaluation cause => "evaluation failed: " ++ cause.message
  | .eviction cause => "cache eviction failed: " ++ cause.message
  | .faulted fault =>
    "session is faulted, its cache may hold stale positions (" ++ fault.message ++
      "); roll back to retry or destroy it"
  | .bufferTooSmall needed capacity =>
    s!"buffer too small: need {needed} bytes, have {capacity}"
  | .limitExceeded size limit => s!"size limit exceeded: {size} bytes > limit {limit}"
  | .formatMismatch cause => "snapshot format mismatch: " ++ cause.message
  | .corrupted cause => "corrupted snapshot: " ++ cause.message
  | .poisoned => "session poisoned by an earlier panic"
  | .internal cause => "internal error: " ++ cause.message

/-- A header that cannot be read is of another format, or a damaged one of this format. -/
def ofHeader : Snapshot.Header.Fault → SessionError
  | .mismatch cause => .formatMismatch cause
  | .short => .corrupted .shortHeader

end SessionError

end Decoding
