import Boundary.Shape
import Boundary.Wire.Utf8

/-!
# Decoding values of known shape

`read` reads a value of a shape, without a schema.  Of several map entries with one key the last
counts.
-/

namespace Boundary

/-- Reads a truth value: one byte, zero or one. -/
def Read.bool : Read Bool := do
  match ← Read.byte with
  | 0 => return false
  | 1 => return true
  | other => Act.fail (.invalidBool other)

/-- Reads an optional value: a tag, and the value if it is there. -/
def Read.optional {α : Type} (item : Read α) : Read (Option α) := do
  match ← Read.byte with
  | 0 => return none
  | 1 => return some (← item)
  | other => Act.fail (.invalidOptionTag other)

/-- Reads a counted sequence of values. -/
def Read.sequence {α : Type} (item : Read α) : Read (List α) := do
  Read.times item (← Read.length)

/-- Refuses to read an error where none is declared. -/
def Read.undeclared {α : Type} : Read α :=
  Act.fail (.typeMismatch "no declared error" "error payload")

namespace Shape

/-- Reads a value. -/
def read : (shape : Shape) → Read shape.Carrier
  | scalar type => type.read
  | bool => Read.bool
  | string => Utf8.read
  | duration => Duration.read
  | instant => Instant.read
  | handle => Handle.read
  | optional item => Read.optional item.read
  | list item => Read.sequence item.read
  | map key value => do
    let entries ← Read.sequence (do return (← key.read, ← value.read))
    return Entries.ofList entries

/-- Reads a value that takes up the bytes entirely. -/
def decode (shape : Shape) (bytes : Bytes) : Outcome CodecError shape.Carrier :=
  shape.read.liftExact bytes

end Shape

end Boundary
