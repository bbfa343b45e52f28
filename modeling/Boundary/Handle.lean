import Boundary.Wire.Reader
import Boundary.Wire.Writer

/-!
# Handles

A handle names an object on the other side of the boundary.  It is a 64-bit word; zero is the null
handle, and words that are negative as signed numbers are reserved.
-/

namespace Boundary

/-- A 64-bit name for an object on the other side. -/
structure Handle where
  raw : UInt64
  deriving DecidableEq, Repr

namespace Handle

/-- The handle that names nothing. -/
def null : Handle := ⟨0⟩

/-- The greatest handle that can name an object. -/
def greatest : Nat := signedLimit - 1

/-- Whether the handle can name an object: neither null nor reserved. -/
def isValid (handle : Handle) : Bool := 1 ≤ handle.raw.toNat && handle.raw.toNat ≤ greatest

/-- The text of a handle in messages. -/
def text (handle : Handle) : String := s!"#{handle.raw.toNat}"

/-- The text of a handle in diagnostic output. -/
def debugText (handle : Handle) : String := s!"Handle({handle.raw.toNat})"

/-- Handles are ordered as unsigned words. -/
def order (handle other : Handle) : Ordering := compare handle.raw.toNat other.raw.toNat

/-- Writes the handle as a word. -/
def write (handle : Handle) : Write := Write.word 8 handle.raw.toNat

/-- Reads any word as a handle, valid or not. -/
def read : Read Handle := do
  return ⟨UInt64.ofBitVec (← Read.word 8)⟩

end Handle

end Boundary
