import Boundary.Codec.Error
import Boundary.Fault
import Boundary.Wire.Region

/-!
# Writers

A writer fills a region of fixed size from front to back.  A primitive write that does not fit
changes nothing; a composite write that fails keeps what its parts wrote before.
-/

namespace Boundary

/-- The bytes written so far, and the region still as it was found. -/
structure Writer where
  written : Array UInt8
  untouched : Region
  deriving DecidableEq, Repr

/-- Writing, without a result. -/
abbrev Write := Act Writer CodecError Unit

namespace Writer

/-- A writer at the start of the given region. -/
def ofRegion (region : Region) : Writer := ⟨#[], region⟩

/-- The number of bytes written. -/
def position (writer : Writer) : Nat := writer.written.size

/-- The whole region, written and untouched. -/
def toBytes (writer : Writer) : Bytes := writer.written.toList ++ writer.untouched.toBytes

end Writer

namespace Write

/-- Writes the bytes at the position, if all of them fit. -/
def bytes (data : Bytes) : Write := fun writer =>
  if data.length ≤ writer.untouched.size then
    .ok () ⟨writer.written ++ data, writer.untouched.drop data.length⟩
  else
    .error (.error (.bufferTooSmall (writer.position + data.length)
      (writer.position + writer.untouched.size))) writer

/-- Writes a number as a big-endian word. -/
def word (width number : Nat) : Write := bytes (BigEndian.encode width number)

/-- Writes a length prefix. -/
def length (count : Nat) : Write :=
  if count ≤ maxLength then word 4 count
  else Act.fail (.lengthOverflow count)

/-- Writes the one-based number of the case at a position. -/
def discriminant (position : Nat) : Write :=
  if position + 1 ≤ maxLength then word 4 (position + 1)
  else Act.fail (.lengthOverflow position)

/-- Writes a length prefix and then as many bytes. -/
def counted (data : Bytes) : Write := do
  length data.length
  bytes data

/-- Writes each part in order, up to the first that fails. -/
def inOrder : List Write → Write
  | [] => pure ()
  | part :: parts => do part; inOrder parts

end Write

end Boundary
