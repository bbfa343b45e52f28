/-!
# Continuation slots

Whoever polls a future leaves a continuation, named by its data, and is to be resumed when the
future can make progress.  The slot of a future remembers the continuation that waits, or that the
future was woken while none waited.  A slot only decides which continuation is to be resumed; the
resuming is left to its user.
-/

namespace Boundary

/-- Why a continuation is resumed. -/
inductive PollCode where
  /-- The result can be fetched. -/
  | ready
  /-- The future is to be polled again. -/
  | wake
  deriving DecidableEq, Repr

namespace PollCode

/-- The number of a code. -/
def number : PollCode → Int
  | ready => 0
  | wake => 1

/-- The code of a number, if it has a meaning. -/
def ofNumber? : Int → Option PollCode
  | 0 => some ready
  | 1 => some wake
  | _ => none

/-- The name of a code. -/
def name : PollCode → String
  | ready => "READY"
  | wake => "WAKE"

end PollCode

/-- A continuation that is to be resumed, and why. -/
structure Signal where
  data : UInt64
  code : PollCode
  deriving DecidableEq, Repr

/-- What is remembered between polls. -/
inductive Slot where
  | empty
  /-- Woken while no continuation waited. -/
  | waked
  | waiting (data : UInt64)
  /-- Nothing will be resumed any more. -/
  | cancelled
  deriving DecidableEq, Repr

namespace Slot

/-- Leaves a continuation.  One that waited before is resumed, so that it polls again; if the future
was woken in the meantime, the new one is. -/
def store (data : UInt64) : Slot → Option Signal × Slot
  | empty => (none, waiting data)
  | waked => (some ⟨data, .wake⟩, empty)
  | waiting earlier => (some ⟨earlier, .wake⟩, waiting data)
  | cancelled => (none, cancelled)

/-- The future can make progress. -/
def wake : Slot → Option Signal × Slot
  | waiting data => (some ⟨data, .wake⟩, empty)
  | empty | waked => (none, waked)
  | cancelled => (none, cancelled)

/-- Whether the slot was cancelled. -/
def isCancelled : Slot → Bool
  | cancelled => true
  | _ => false

end Slot

end Boundary
