/-!
# Faults

A computation that runs code it does not control can fail in two ways: it reports an error of its
own error type, or the code it runs panics and control unwinds through it.  `Fault` keeps the two
apart, so that "never panics" and "reports this error" are statements about constructors.

Computations over a state are `Act`s.  Their state survives every fault: what was registered,
consumed or logged before the failure stays that way.
-/

namespace Boundary

/-- What a panic carries while control unwinds: a text, or a value that is not a text. -/
inductive PanicPayload where
  | text (message : String)
  | other
  deriving DecidableEq, Repr, Inhabited

/-- The text under which a panic is reported to the other side of the boundary. -/
def PanicPayload.message : PanicPayload → String
  | .text message => message
  | .other => "panic with a non-string payload"

/-- The panic of an addition whose sum is no word. -/
def PanicPayload.additionOverflow : PanicPayload := .text "attempt to add with overflow"

/-- A failed computation either reported an error or is unwinding. -/
inductive Fault (ε : Type) where
  | error (reported : ε)
  | panic (payload : PanicPayload)
  deriving DecidableEq, Repr

namespace Fault

/-- Rewords the reported error; a panic passes through unchanged. -/
def map {ε ε' : Type} (reword : ε → ε') : Fault ε → Fault ε'
  | .error reported => .error (reword reported)
  | .panic payload => .panic payload

end Fault

/-- The result of a computation without state that may fail either way. -/
abbrev Outcome (ε α : Type) := Except (Fault ε) α

/-- A computation over the state `σ` whose effects survive a fault. -/
abbrev Act (σ ε α : Type) := EStateM (Fault ε) σ α

namespace Act

variable {σ ε ε' α : Type}

/-- Reports an error. -/
def fail (reported : ε) : Act σ ε α := throw (.error reported)

/-- Starts unwinding. -/
def unwind (payload : PanicPayload) : Act σ ε α := throw (.panic payload)

/-- Rewords the errors a computation reports. -/
def mapError (reword : ε → ε') (act : Act σ ε α) : Act σ ε' α := fun state =>
  match act state with
  | .ok value state => .ok value state
  | .error fault state => .error (fault.map reword) state

/-- A result without effects, as a computation. -/
def ofOutcome : Outcome ε α → Act σ ε α
  | .ok value => pure value
  | .error fault => throw fault

/-- A check that never panics, as a computation. -/
def ofExcept : Except ε α → Act σ ε α
  | .ok value => pure value
  | .error reported => fail reported

/-- A computation that never panics, as one that might. -/
def ofReporting (act : EStateM ε σ α) : Act σ ε α := fun state =>
  match act state with
  | .ok value state => .ok value state
  | .error reported state => .error (.error reported) state

/-- Runs a computation and yields how it ended instead of failing with it. -/
def observe (act : Act σ ε α) : StateM σ (Outcome ε α) := fun state =>
  match act state with
  | .ok value state => (.ok value, state)
  | .error fault state => (.error fault, state)

/-- A computation that cannot fail, as one that might. -/
def ofTotal (run : StateM σ α) : Act σ ε α := fun state =>
  let (value, state) := run state
  .ok value state

end Act

end Boundary
