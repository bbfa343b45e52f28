import Boundary.Codec.Lowering
import Boundary.Shape.Decoding

/-!
# The errors of a store

An error type as a user of the boundary declares it: an enumeration that brings its own encoding.
-/

namespace Boundary

/-- Why a store refuses an operation. -/
inductive StoreError where
  | notFound (key : String)
  | readOnly
  deriving DecidableEq, Repr

namespace StoreError

/-- The wording of each cause. -/
def message : StoreError → String
  | notFound key => s!"not found: {key}"
  | readOnly => "read only"

/-- The encoding: the number of the case, and the key that was not found. -/
def lowering : StoreError → Lowering
  | notFound key => Lowering.case 0 [Lowering.string key]
  | readOnly => Lowering.case 1 []

/-- Reads an error. -/
def read : Read StoreError := do
  match ← Read.discriminant "StoreError" 2 with
  | 0 => return notFound (← Utf8.read)
  | _ => return readOnly

end StoreError

end Boundary
