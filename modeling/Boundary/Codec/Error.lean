/-!
# Codec errors

Why bytes cannot be read as a value, or a value written as bytes.
-/

namespace Boundary

/-- The causes for which lowering or lifting a value fails. -/
inductive CodecError where
  /-- A read or write reaches past the end. -/
  | bufferTooSmall (needed available : Nat)
  | invalidUtf8
  | invalidDiscriminant (typeName : String) (discriminant : Int) (caseCount : Nat)
  | invalidBool (byte : Nat)
  | invalidOptionTag (byte : Nat)
  | negativeLength (length : Int)
  /-- A length, or the position of a case, has no signed 32-bit form. -/
  | lengthOverflow (length : Nat)
  | invalidTimestamp (detail : String)
  | typeMismatch (expected got : String)
  /-- A value names a member, such as a field or a variant, that its type does not have there. -/
  | unknownMember (kind name typeName : String)
  /-- A value wrote a number of bytes other than the size it had announced. -/
  | sizeMismatch (computed written : Nat)
  | trailingBytes (count : Nat)
  deriving DecidableEq, Repr

namespace CodecError

/-- The wording of each cause. -/
def message : CodecError → String
  | bufferTooSmall needed available =>
    s!"Buffer too small: need {needed} bytes, have {available}"
  | invalidUtf8 => "Invalid UTF-8 in string"
  | invalidDiscriminant typeName discriminant caseCount =>
    s!"Invalid discriminant {discriminant} for {typeName} with {caseCount} cases"
  | invalidBool byte => s!"Invalid bool value: {byte}"
  | invalidOptionTag byte => s!"Invalid option tag: {byte}"
  | negativeLength length => s!"Negative length prefix: {length}"
  | lengthOverflow length => s!"Length {length} does not fit in an i32 prefix"
  | invalidTimestamp detail => s!"Invalid timestamp: {detail}"
  | typeMismatch expected got => s!"Type mismatch: expected {expected}, got {got}"
  | unknownMember kind name typeName => s!"Unknown {kind} '{name}' in {typeName}"
  | sizeMismatch computed written =>
    s!"Allocation size mismatch: computed {computed} bytes, wrote {written}"
  | trailingBytes count => s!"{count} trailing bytes after value"

/-- The name of each cause. -/
def name : CodecError → String
  | bufferTooSmall .. => "BufferTooSmall"
  | invalidUtf8 => "InvalidUtf8"
  | invalidDiscriminant .. => "InvalidDiscriminant"
  | invalidBool _ => "InvalidBool"
  | invalidOptionTag _ => "InvalidOptionTag"
  | negativeLength _ => "NegativeLength"
  | lengthOverflow _ => "LengthOverflow"
  | invalidTimestamp _ => "InvalidTimestamp"
  | typeMismatch .. => "TypeMismatch"
  | unknownMember .. => "UnknownMember"
  | sizeMismatch .. => "SizeMismatch"
  | trailingBytes _ => "TrailingBytes"

/-- Whether the failure is a short buffer, which more bytes could cure. -/
def isBounds : CodecError → Bool
  | bufferTooSmall .. => true
  | _ => false

end CodecError

end Boundary
