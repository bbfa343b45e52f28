import Boundary.Contract.Binding

/-!
# A contract

A small core that exports two functions: one that adds numbers, and one that does nothing.
-/

namespace Boundary

/-- A function that adds two numbers. -/
def demoAdd : Signature where
  name := "demo_add"
  arguments := [("a", .scalar .i32), ("b", .scalar .i32)]
  result := some (.scalar .i32)
  error := none
  isAsync := false

/-- A function without arguments and without a result. -/
def demoPing : Signature where
  name := "ping"
  arguments := []
  result := none
  error := none
  isAsync := false

/-- What the core exports. -/
def demoContract : ExportedContract :=
  ExportedContract.ofChecksums 7
    ([demoAdd, demoPing].map fun signature => (signature.name, signature.checksum Checksum.crc32))

end Boundary
