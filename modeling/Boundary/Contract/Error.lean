import Boundary.Text.Hex

/-!
# Integrity errors

The bindings and the core were built from different contracts.
-/

namespace Boundary

/-- The causes for which a core is refused. -/
inductive IntegrityError where
  | versionMismatch (expected found : Nat)
  | checksumMismatch (function : String) (expected found : Nat)
  | missingChecksum (function : String)
  deriving DecidableEq, Repr

/-- The name of each cause. -/
def IntegrityError.name : IntegrityError → String
  | versionMismatch .. => "VersionMismatch"
  | checksumMismatch .. => "ChecksumMismatch"
  | missingChecksum _ => "MissingChecksum"

/-- The wording of each cause. -/
def IntegrityError.message : IntegrityError → String
  | versionMismatch expected found =>
    s!"Contract version mismatch: bindings expect {expected}, native core reports {found}"
  | checksumMismatch function expected found =>
    s!"Checksum mismatch for '{function}': bindings expect {Hex.checksum expected}, " ++
      s!"native core reports {Hex.checksum found}"
  | missingChecksum function => s!"Native core does not export a checksum for '{function}'"

end Boundary
