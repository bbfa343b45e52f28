import Boundary.Handle

/-!
# Handle errors
-/

namespace Boundary

/-- The causes for which a table refuses a handle. -/
inductive HandleError where
  /-- The table has no object under the handle. -/
  | invalidHandle (table operation : String) (handle : Handle)
  /-- The table has no handle left to issue. -/
  | exhausted (table : String)
  deriving DecidableEq, Repr

/-- The name of each cause. -/
def HandleError.name : HandleError → String
  | invalidHandle .. => "InvalidHandle"
  | exhausted _ => "Exhausted"

/-- The wording of each cause. -/
def HandleError.message : HandleError → String
  | invalidHandle table operation handle => s!"{table}.{operation}: invalid handle {handle.text}"
  | exhausted table => s!"{table}: handle space exhausted"

end Boundary
