import Boundary.Error

/-!
# Call errors

How a failed call looks to its caller.
-/

namespace Boundary

/-- The ways in which a call fails that may declare errors of type `ε`. -/
inductive CallError (ε : Type) where
  | declared (error : ε)
  | panic (message : String)
  | cancelled
  | internal (cause : Error)
  deriving DecidableEq, Repr

namespace CallError

variable {ε : Type}

/-- The wording of a call error, given that of the declared ones. -/
def message (wording : ε → String) : CallError ε → String
  | declared error => wording error
  | panic message => s!"Native call panicked: {message}"
  | cancelled => "Call was cancelled"
  | internal cause => cause.message

/-- The name of a call error. -/
def name : CallError ε → String
  | declared _ => "Declared"
  | panic _ => "Panic"
  | cancelled => "Cancelled"
  | internal cause => "Internal." ++ cause.name

/-- Whether the call ended with an error that it declares. -/
def isDeclared : CallError ε → Bool
  | declared _ => true
  | _ => false

/-- Whether the call was cancelled. -/
def isCancelled : CallError ε → Bool
  | cancelled => true
  | _ => false

/-- Whether the call failed in a way that it does not account for. -/
def isFatal : CallError ε → Bool
  | panic _ | internal _ => true
  | _ => false

end CallError

end Boundary
