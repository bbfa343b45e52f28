import Boundary.Text.Hex

/-!
# Buffer errors

Violations of the ownership and the layout of buffers.
-/

namespace Boundary

/-- The causes for which a buffer is refused. -/
inductive BufferError where
  | notOwned (address : Nat)
  | capacityMismatch (recorded claimed : Nat)
  | invalidLayout (length capacity : Nat) (isNull : Bool)
  | lengthOverflow (length : Nat)
  | tooLarge (size : Nat)
  deriving DecidableEq, Repr

/-- The name of each cause. -/
def BufferError.name : BufferError → String
  | notOwned _ => "NotOwned"
  | capacityMismatch .. => "CapacityMismatch"
  | invalidLayout .. => "InvalidLayout"
  | lengthOverflow _ => "LengthOverflow"
  | tooLarge _ => "TooLarge"

/-- The wording of each cause. -/
def BufferError.message : BufferError → String
  | notOwned address =>
    s!"Buffer at {Hex.address address} is not owned by the caller (double free or foreign memory)"
  | capacityMismatch recorded claimed =>
    s!"Buffer capacity mismatch: allocated {recorded}, claimed {claimed}"
  | invalidLayout length capacity isNull =>
    s!"Invalid buffer layout: len {length}, capacity {capacity}, null data: {isNull}"
  | lengthOverflow length => s!"Buffer length {length} exceeds the maximum of i32::MAX"
  | tooLarge size => s!"Cannot allocate {size} bytes"

end Boundary
