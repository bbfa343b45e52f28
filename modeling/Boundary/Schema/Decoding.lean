import Boundary.Schema
import Boundary.Value
import Boundary.Wire.Utf8

/-!
# Decoding values by schema

`read` reads the encoding of a value under a schema.  Every length, tag and case number is checked
before anything it announces is read, so that malformed input is refused where it departs from the
format.
-/

namespace Boundary

namespace Schema

mutual

/-- Reads a value. -/
def read : Schema → Read Value
  | .bool => do
    match ← Read.byte with
    | 0 => return .bool false
    | 1 => return .bool true
    | other => Act.fail (.invalidBool other)
  | .scalar type => do return .scalar type (← type.read)
  | .string => do return .string (← Utf8.read)
  | .bytes => do return .bytes (← Read.bytes (← Read.length))
  | .timestamp => do return .timestamp (← Instant.read)
  | .duration => do return .duration (← Duration.read)
  | .object _ => do return .object (← Handle.read)
  | .optional item => do
    match ← Read.byte with
    | 0 => return .absent
    | 1 => return .present (← item.read)
    | other => Act.fail (.invalidOptionTag other)
  | .sequence item => do
    let count ← Read.length
    return .sequence (← Read.times item.read count)
  | .map key value => do
    let count ← Read.length
    return .map (← Read.times (do return (← key.read, ← value.read)) count)
  | .record _ fields => do return .record (← readFields fields)
  | .enumeration name variants => do
    let position ← Read.discriminant name variants.length
    (readVariants variants)[position]?.getD
      (Act.fail (.invalidDiscriminant name (position + 1) variants.length))
termination_by structural schema => schema

/-- Reads the fields of a record or variant in order. -/
def readFields : List (String × Schema) → Read (List (String × Value))
  | [] => pure []
  | (name, schema) :: rest => do
    let value ← schema.read
    let others ← readFields rest
    return (name, value) :: others
termination_by structural fields => fields

/-- The reading of each variant, in order. -/
def readVariants : List (String × List (String × Schema)) → List (Read Value)
  | [] => []
  | (name, fields) :: rest =>
    (do return .variant name (← readFields fields)) :: readVariants rest
termination_by structural variants => variants

end

/-- Reads a value from the front of the bytes, and tells how many bytes it took. -/
def lift (schema : Schema) (bytes : Bytes) : Outcome CodecError (Value × Nat) :=
  schema.read.lift bytes

/-- Reads a value that takes up the bytes entirely. -/
def decode (schema : Schema) (bytes : Bytes) : Outcome CodecError Value :=
  schema.read.liftExact bytes

end Schema

end Boundary
