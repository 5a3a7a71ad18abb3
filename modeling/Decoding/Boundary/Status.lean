import Decoding.Session.Error

/-!
Status codes. A call from foreign code answers with a count, which is not negative,
or with the negative code of what went wrong.
-/

namespace Decoding

inductive Status where
  | ok
  | invalidArgument
  | limitExceeded
  | bufferTooSmall
  | initialization
  | evaluation
  | eviction
  | formatMismatch
  | corruptedSnapshot
  | internal
  deriving DecidableEq, Repr

namespace Status

def code : Status → Int
  | .ok => 0
  | .invalidArgument => -1
  | .limitExceeded => -2
  | .bufferTooSmall => -3
  | .initialization => -4
  | .evaluation => -5
  | .eviction => -6
  | .formatMismatch => -7
  | .corruptedSnapshot => -8
  | .internal => -9

end Status

/-- A faulted session needs an eviction, so it has the status of a failed one. -/
def SessionError.status : SessionError → Status
  | .invalidArgument _ => .invalidArgument
  | .initialization _ => .initialization
  | .evaluation _ => .evaluation
  | .eviction _ => .eviction
  | .faulted _ => .eviction
  | .bufferTooSmall .. => .bufferTooSmall
  | .limitExceeded .. => .limitExceeded
  | .formatMismatch _ => .formatMismatch
  | .corrupted _ => .corruptedSnapshot
  | .poisoned => .internal
  | .internal _ => .internal

theorem SessionError.code_status_neg (e : SessionError) : e.status.code < 0 := by
  cases e <;> simp [SessionError.status, Status.code]

end Decoding
