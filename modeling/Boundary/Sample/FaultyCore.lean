import Boundary.Call.Caller

/-!
# A core with faulty entry points

A core of which some buffer entry points do not do their work but leave a status of someone else's
choice, as a caller has to expect of a core it knows nothing about.
-/

namespace Boundary

/-- The ledger, and the names of the faulty entry points that were called. -/
structure FaultyCore where
  ledger : Ledger
  calls : List String

namespace FaultyCore

instance : Part FaultyCore Ledger where
  get core := core.ledger
  set ledger core := { core with ledger := ledger }
  get_set _ _ := rfl
  set_get _ := rfl
  set_set _ _ _ := rfl

/-- A core that was not called yet. -/
def fresh : FaultyCore := ⟨Ledger.empty, []⟩

/-- Leaves the code, and an error buffer with the data. -/
def leave {τ : Type} (value : τ) (code : Int) (data : Bytes) : StateM FaultyCore (τ × Status) := do
  return (value, ⟨code, ← onPart (Buffer.ofBytes data)⟩)

/-- Records a call. -/
def record (name : String) : StateM FaultyCore Unit :=
  modify fun core => { core with calls := core.calls ++ [name] }

/-- A copying entry point that copies nothing. -/
def fromBytes (code : Int) (data : Bytes) : StateM FaultyCore (Buffer × Status) := do
  record "from_bytes"
  leave Buffer.empty code data

/-- A releasing entry point that releases its argument and complains nevertheless. -/
def free (code : Int) (data : Bytes) (buffer : Buffer) : StateM FaultyCore (Unit × Status) := do
  record "free"
  let _ ← (Act.ofReporting buffer.free).onPart.observe
  leave () code data

/-- The caller of a core whose copying or releasing entry point is faulty. -/
def caller (faultyFromBytes faultyFree : Bool) (code : Int) (data : Bytes) : Caller FaultyCore where
  allocate := Caller.inProcess.allocate
  fromBytes view :=
    if faultyFromBytes then fromBytes code data else Caller.inProcess.fromBytes view
  free buffer :=
    if faultyFree then free code data buffer else Caller.inProcess.free buffer
  reserve := Caller.inProcess.reserve

end FaultyCore

end Boundary
