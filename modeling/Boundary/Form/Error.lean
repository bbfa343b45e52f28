import Boundary.Call.Error
import Boundary.Form.Value

/-!
# Forms of errors

An error is read from its name and its parts, and shown by its name and its wording.  What is shown
does not depend on where memory lies: the address in a complaint about ownership is left out.
-/

namespace Boundary

namespace CodecError

/-- Reads the parts of the cause of a name. -/
def ofParts? (name : String) (form : Form) : Option CodecError :=
  let count (cause : Nat → CodecError) : Option CodecError := (form.get? "value").map cause
  match name with
  | "BufferTooSmall" => do return bufferTooSmall (← form.get? "needed") (← form.get? "available")
  | "InvalidUtf8" => some invalidUtf8
  | "InvalidDiscriminant" => do
    return invalidDiscriminant (← form.get? "type_name") (← form.get? "discriminant")
      (← form.get? "num_cases")
  | "InvalidBool" => count invalidBool
  | "InvalidOptionTag" => count invalidOptionTag
  | "NegativeLength" => (form.get? "value").map negativeLength
  | "LengthOverflow" => count lengthOverflow
  | "InvalidTimestamp" => (form.get? "text").map invalidTimestamp
  | "TypeMismatch" => do return typeMismatch (← form.get? "expected") (← form.get? "got")
  | "UnknownMember" => do
    return unknownMember (← form.get? "member") (← form.get? "name") (← form.get? "type_name")
  | "SizeMismatch" => do return sizeMismatch (← form.get? "computed") (← form.get? "written")
  | "TrailingBytes" => count trailingBytes
  | _ => none

end CodecError

/-- Reads the parts of the cause of a name. -/
def BufferError.ofParts? (name : String) (form : Form) : Option BufferError :=
  match name with
  | "NotOwned" => (form.get? "address").map notOwned
  | "CapacityMismatch" => do
    return capacityMismatch (← form.get? "recorded") (← form.get? "claimed")
  | "InvalidLayout" => do
    return invalidLayout (← form.get? "len") (← form.get? "capacity") (← form.getD "null" false)
  | "LengthOverflow" => (form.get? "value").map lengthOverflow
  | "TooLarge" => (form.get? "value").map tooLarge
  | _ => none

/-- Reads the parts of the cause of a name. -/
def HandleError.ofParts? (name : String) (form : Form) : Option HandleError :=
  match name with
  | "InvalidHandle" => do
    return invalidHandle (← form.get? "table") (← form.get? "op_name") (← form.get? "handle")
  | "Exhausted" => (form.get? "table").map exhausted
  | _ => none

/-- Reads the parts of the cause of a name. -/
def IntegrityError.ofParts? (name : String) (form : Form) : Option IntegrityError :=
  match name with
  | "VersionMismatch" => do return versionMismatch (← form.get? "expected") (← form.get? "found")
  | "ChecksumMismatch" => do
    return checksumMismatch (← form.get? "function") (← form.get? "expected")
      (← form.get? "found")
  | "MissingChecksum" => (form.get? "function").map missingChecksum
  | _ => none

namespace Error

/-- Reads the parts of the error of a name. -/
def ofParts? (name : String) (form : Form) : Option Error :=
  match name.splitOn "." with
  | ["Codec", cause] => (CodecError.ofParts? cause form).map codec
  | ["Buffer", cause] => (BufferError.ofParts? cause form).map buffer
  | ["Handle", cause] => (HandleError.ofParts? cause form).map handle
  | ["Integrity", cause] => (IntegrityError.ofParts? cause form).map integrity
  | ["Panic"] => (form.get? "text").map panic
  | ["UnknownStatus"] => (form.get? "value").map unknownStatus
  | ["Protocol"] => (form.get? "text").map protocol
  | ["ObjectDestroyed"] => (form.get? "text").map objectDestroyed
  | ["VTableMissing"] => (form.get? "text").map tableMissing
  | _ => none

instance : FromForm Error := ⟨fun form => do ofParts? (← form.get? "kind") form⟩

end Error

/-- A message without the addresses that it complains about. -/
def withoutAddresses (message : String) : String :=
  let complaint (rest : String) : String :=
    let behind := rest.toList.dropWhile fun digit => (Hex.value? digit).isSome
    if " is not owned".toList.isPrefixOf behind then "Buffer at ADDR" ++ String.ofList behind
    else "Buffer at 0x" ++ rest
  match message.splitOn "Buffer at 0x" with
  | [] => message
  | first :: rest => first ++ String.join (rest.map complaint)

/-- Failures that can be shown. -/
class Failure (ε : Type) where
  failure : ε → Members

export Failure (failure)

/-- Errors that calls declare, with their form and their wording. -/
class Declarable (ε : Type) where
  form : ε → Form
  wording : ε → String

instance : Declarable Empty := ⟨nofun, nofun⟩

instance : Declarable String := ⟨toForm, id⟩

instance : Declarable StoreError := ⟨toForm, StoreError.message⟩

instance : Declarable (Form × String) := ⟨Prod.fst, Prod.snd⟩

instance : Failure Error where
  failure cause := [("error", .text cause.name),
    ("message", .text (withoutAddresses cause.message))]

instance : Failure CodecError := ⟨fun cause => failure (Error.codec cause)⟩

instance : Failure BufferError := ⟨fun cause => failure (Error.buffer cause)⟩

instance : Failure HandleError := ⟨fun cause => failure (Error.handle cause)⟩

instance : Failure IntegrityError := ⟨fun cause => failure (Error.integrity cause)⟩

/-- The settings of a file fail with a wording that belongs to the reader of the file, so it is not
shown. -/
instance : Failure ConfigError where
  failure cause := [("error", .text (Error.config cause).name),
    ("is_fatal", .truth (Error.config cause).isFatal)]

instance {ε : Type} [Failure ε] [Failure PanicPayload] : Failure (Fault ε) where
  failure
    | .error cause => failure cause
    | .panic payload => failure payload

instance {ε : Type} [Declarable ε] : Failure (CallError ε) where
  failure cause :=
    [("error", .text cause.name),
      ("display", .text (withoutAddresses (cause.message Declarable.wording))),
      ("declared", .truth cause.isDeclared), ("cancelled", .truth cause.isCancelled),
      ("fatal", .truth cause.isFatal)] ++
    match cause with
    | .declared own => [("value", Declarable.form own)]
    | _ => []

section

variable {ε α : Type} [Failure ε] [ToForm α]

/-- Shows a result. -/
def done (result : α) : Members := [("ok", toForm result)]

/-- Shows how something ended. -/
def ended : Except ε α → Members
  | .ok result => done result
  | .error cause => failure cause

/-- Shows a result alone, or the failure in its place. -/
def inPlace : Except ε α → Form
  | .ok result => toForm result
  | .error cause => .members (failure cause)

end

end Boundary
