import Boundary.Codec.Lowering
import Boundary.Schema
import Boundary.Value

/-!
# Encoding values by schema

`size` computes the size of a value's encoding and refuses values that do not have the shape that
the schema asks for; `write` writes the encoding.  Both walk the schema, each on its own.
`encode` computes the size, fills memory of that size and compares what was written with it.  The
size is the exact sum; that it has to be a 64-bit word is left to `Lowering.announce`, as no value
that is in memory comes near.

Fields are matched by position, and their names have to be the declared ones in the declared order.
A variant is looked up by name, and the first one of that name is meant.
-/

namespace Boundary

namespace Schema

/-- Values that do not have the shape of the schema. -/
def mismatch (schema : Schema) (value : Value) : CodecError :=
  .typeMismatch schema.text value.kind

/-- Accepts fields that have the declared names, in the declared order. -/
def checkFields (typeName : String) (declared : List (String × Schema))
    (fields : List (String × Value)) : Except CodecError Unit :=
  if declared.length ≠ fields.length then
    .error (.typeMismatch s!"{declared.length} fields in {typeName}" s!"{fields.length} fields")
  else
    match (declared.zip fields).find? fun (field, given) => field.1 ≠ given.1 with
    | some (_, given) => .error (.unknownMember "field" given.1 typeName)
    | none => .ok ()

/-- The error for a variant that the enumeration does not have. -/
def unknownVariant (typeName variant : String) : CodecError :=
  .unknownMember "variant" variant typeName

/-- The sum of the sizes of items, or the error of the first that has none. -/
def sumSizes {α : Type} (sizeOf : α → Except CodecError Nat) :
    List α → Nat → Except CodecError Nat
  | [], total => .ok total
  | item :: items, total => do
    let size ← sizeOf item
    sumSizes sizeOf items (total + size)

mutual

/-- The size of the encoding of a value. -/
def size : Schema → Value → Except CodecError Nat
  | .bool, .bool _ => .ok 1
  | .scalar type, .scalar type' word =>
    if type = type' then .ok (type.width)
    else .error (mismatch (.scalar type) (.scalar type' word))
  | .string, .string text => .ok (4 + Utf8.size text)
  | .bytes, .bytes data => .ok (4 + data.length)
  | .timestamp, .timestamp _ => .ok 12
  | .duration, .duration _ => .ok 12
  | .object _, .object _ => .ok 8
  | .optional _, .absent => .ok 1
  | .optional item, .present value => do return 1 + (← item.size value)
  | .sequence item, .sequence values => sumSizes item.size values 4
  | .map key value, .map entries =>
    sumSizes (fun entry => do return (← key.size entry.1) + (← value.size entry.2)) entries 4
  | .record name declared, .record fields => do
    checkFields name declared fields
    fieldsSize declared fields
  | .enumeration name variants, .variant variant fields => do
    return 4 + (← variantSize name variants variant fields)
  | schema, value => .error (mismatch schema value)
termination_by structural schema => schema

/-- The sum of the sizes of field values, by position. -/
def fieldsSize : List (String × Schema) → List (String × Value) → Except CodecError Nat
  | (_, schema) :: declared, (_, value) :: fields => do
    return (← schema.size value) + (← fieldsSize declared fields)
  | _, _ => .ok 0
termination_by structural declared => declared

/-- The size of the fields of the first variant of a name. -/
def variantSize (typeName : String) : List (String × List (String × Schema)) →
    (variant : String) → List (String × Value) → Except CodecError Nat
  | [], variant, _ => .error (unknownVariant typeName variant)
  | (name, declared) :: rest, variant, fields =>
    if name = variant then do
      checkFields typeName declared fields
      fieldsSize declared fields
    else
      variantSize typeName rest variant fields
termination_by structural variants => variants

end

mutual

/-- Writes the encoding of a value. -/
def write : Schema → Value → Write
  | .bool, .bool truth => Write.word 1 truth.toNat
  | .scalar type, .scalar type' word =>
    if type = type' then type'.write word
    else Act.fail (mismatch (.scalar type) (.scalar type' word))
  | .string, .string text => Utf8.write text
  | .bytes, .bytes data => Write.counted data
  | .timestamp, .timestamp instant => instant.write
  | .duration, .duration length => length.write
  | .object _, .object handle => handle.write
  | .optional _, .absent => Write.word 1 0
  | .optional item, .present value => do Write.word 1 1; item.write value
  | .sequence item, .sequence values => do
    Write.length values.length
    Write.inOrder (values.map item.write)
  | .map key value, .map entries => do
    Write.length entries.length
    Write.inOrder (entries.map fun entry => do key.write entry.1; value.write entry.2)
  | .record name declared, .record fields => do
    Act.ofExcept (checkFields name declared fields)
    writeFields declared fields
  | .enumeration name variants, .variant variant fields =>
    writeVariant name variants 0 variant fields
  | schema, value => Act.fail (mismatch schema value)
termination_by structural schema => schema

/-- Writes field values, by position. -/
def writeFields : List (String × Schema) → List (String × Value) → Write
  | (_, schema) :: declared, (_, value) :: fields => do
    schema.write value
    writeFields declared fields
  | _, _ => pure ()
termination_by structural declared => declared

/-- Writes the number and the fields of the first variant of a name, `position` variants having
been passed over before. -/
def writeVariant (typeName : String) : List (String × List (String × Schema)) → (position : Nat) →
    (variant : String) → List (String × Value) → Write
  | [], _, variant, _ => Act.fail (unknownVariant typeName variant)
  | (name, declared) :: rest, position, variant, fields =>
    if name = variant then do
      Write.discriminant position
      Act.ofExcept (checkFields typeName declared fields)
      writeFields declared fields
    else
      writeVariant typeName rest (position + 1) variant fields
termination_by structural variants => variants

end

/-- The encoding of a value. -/
def encode (schema : Schema) (value : Value) : Outcome CodecError Bytes := do
  let size ← (schema.size value).mapError .error
  Lowering.toBytes ⟨size, schema.write value⟩

/-- A value under a schema as a lowering of its own.  A value that does not fit its schema announces
no size, and its write fails with the reason. -/
def lowering (schema : Schema) (value : Value) : Lowering where
  size := (schema.size value).toOption.getD 0
  write := do
    let data ← Act.ofOutcome (schema.encode value)
    Write.bytes data

end Schema

end Boundary
