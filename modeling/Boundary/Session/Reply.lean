import Boundary.Call.Error
import Boundary.Call.Passing
import Boundary.Call.Status

/-!
# Replies

What a step of a session answers.  Sessions run the parts of the boundary against each other, step
by step; their replies share this type.
-/

namespace Boundary

/-- The answer to a step whose calls may declare errors of type `ε`. -/
inductive Reply (ε : Type) where
  | done
  | flag (holds : Bool)
  | count (number : Nat)
  | text (content : String)
  | handle (handle : Handle)
  /-- A result that was passed, without its status. -/
  | passed (result : Passed)
  /-- A result that was passed, and the status it came with. -/
  | returned (result : Passed) (status : Status)
  | failed (cause : Error)
  | callFailed (cause : CallError ε)
  /-- The step panicked. -/
  | unwound (payload : PanicPayload)
  /-- Something that was started has not ended yet. -/
  | pending
  /-- What the step is about has ended before. -/
  | gone

namespace Reply

variable {ε α : Type}

/-- The answer to a step that may report an error. -/
def ofOutcome (answer : α → Reply ε) : Outcome Error α → Reply ε
  | .ok result => answer result
  | .error (.error cause) => .failed cause
  | .error (.panic payload) => .unwound payload

/-- The answer to a step that calls. -/
def ofCall (answer : α → Reply ε) : Outcome (CallError ε) α → Reply ε
  | .ok result => answer result
  | .error (.error cause) => .callFailed cause
  | .error (.panic payload) => .unwound payload

/-- A call error where none is declared, among calls that declare some. -/
def widen : CallError Empty → CallError ε
  | .panic message => .panic message
  | .cancelled => .cancelled
  | .internal cause => .internal cause

end Reply

end Boundary
