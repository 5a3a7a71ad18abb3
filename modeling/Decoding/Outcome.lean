/-!
The three ways a call into foreign code can end. An error is reported by the
callee and leaves the caller in charge; a crash unwinds through every caller up
to the one that contains it.
-/

namespace Decoding

/-- The end of a call: a value, a reported error, or a crash with its text. -/
inductive Outcome (ε α : Type) where
  | ok (value : α)
  | error (cause : ε)
  | crash (text : String)
  deriving DecidableEq, Repr

namespace Outcome

variable {ε ε' α β : Type}

def map (f : α → β) : Outcome ε α → Outcome ε β
  | .ok a => .ok (f a)
  | .error e => .error e
  | .crash t => .crash t

def mapError (f : ε → ε') : Outcome ε α → Outcome ε' α
  | .ok a => .ok a
  | .error e => .error (f e)
  | .crash t => .crash t

/-- A call that reports no errors, among calls that do. -/
def lift : Outcome Empty α → Outcome ε α := mapError nofun

/-- A computation that cannot crash. -/
def ofExcept : Except ε α → Outcome ε α
  | .ok a => .ok a
  | .error e => .error e

/-- The value of a call, if it gives one. -/
def toOption : Outcome ε α → Option α
  | .ok a => some a
  | .error _ | .crash _ => none

/-- What a call that has come back reported. A crash goes on. -/
def attempt : Outcome ε α → Outcome ε' (Except ε α)
  | .ok a => .ok (.ok a)
  | .error e => .ok (.error e)
  | .crash t => .crash t

/-- Go on with the value of a call. Errors and crashes end what it is a part of. -/
protected def bind (o : Outcome ε α) (f : α → Outcome ε β) : Outcome ε β :=
  match o with
  | .ok a => f a
  | .error e => .error e
  | .crash t => .crash t

instance : Monad (Outcome ε) where
  pure := .ok
  bind := Outcome.bind

/-- The end of a step that replaces the state `s` only if it succeeds. -/
def commit {σ : Type} (s : σ) : Except ε (α × σ) → Outcome ε α × σ
  | .ok (a, s') => (.ok a, s')
  | .error e => (.error e, s)

/-- The call came back, with a value or with an error. -/
def Completed : Outcome ε α → Prop
  | .crash _ => False
  | _ => True

instance : DecidablePred (Completed : Outcome ε α → Prop)
  | .ok _ | .error _ => .isTrue trivial
  | .crash _ => .isFalse id

@[simp] theorem map_ok (f : α → β) (a : α) : (ok a : Outcome ε α).map f = .ok (f a) := rfl
@[simp] theorem map_error (f : α → β) (e : ε) : (error e : Outcome ε α).map f = .error e := rfl
@[simp] theorem map_crash (f : α → β) (t : String) :
    (crash t : Outcome ε α).map f = .crash t := rfl

@[simp] theorem completed_map (f : α → β) (o : Outcome ε α) :
    (o.map f).Completed ↔ o.Completed := by
  cases o <;> rfl

@[simp] theorem mapError_ok (f : ε → ε') (a : α) :
    (ok a : Outcome ε α).mapError f = .ok a := rfl
@[simp] theorem mapError_error (f : ε → ε') (e : ε) :
    (error e : Outcome ε α).mapError f = .error (f e) := rfl
@[simp] theorem mapError_crash (f : ε → ε') (t : String) :
    (crash t : Outcome ε α).mapError f = .crash t := rfl

@[simp] theorem lift_ok (a : α) : (lift (.ok a) : Outcome ε α) = .ok a := rfl
@[simp] theorem lift_crash (t : String) : (lift (.crash t) : Outcome ε α) = .crash t := rfl

@[simp] theorem pure_eq (a : α) : (pure a : Outcome ε α) = .ok a := rfl
@[simp] theorem ok_bind (a : α) (f : α → Outcome ε β) : (ok a : Outcome ε α) >>= f = f a := rfl
@[simp] theorem error_bind (e : ε) (f : α → Outcome ε β) :
    (error e : Outcome ε α) >>= f = .error e := rfl
@[simp] theorem crash_bind (t : String) (f : α → Outcome ε β) :
    (crash t : Outcome ε α) >>= f = .crash t := rfl

@[simp] theorem commit_ok {σ : Type} (s s' : σ) (a : α) :
    commit s (.ok (a, s') : Except ε (α × σ)) = (.ok a, s') := rfl
@[simp] theorem commit_error {σ : Type} (s : σ) (e : ε) :
    commit s (.error e : Except ε (α × σ)) = (.error e, s) := rfl

@[simp] theorem ofExcept_ok (a : α) : ofExcept (.ok a : Except ε α) = .ok a := rfl
@[simp] theorem ofExcept_error (e : ε) : ofExcept (.error e : Except ε α) = .error e := rfl

end Outcome

end Decoding
