import Boundary.Buffer
import Boundary.Call.Passing
import Boundary.Form.Error
import Boundary.Form.Schema
import Boundary.Schema.Encoding
import Boundary.Shape.Decoding
import Boundary.Shape.Encoding

/-!
# Types by name

The types that are known where a call is written are told apart by their names: shapes, the errors
of a store, and the error type without errors.  A name determines how values are read from forms
and lowered, and how lifted values are written as forms.
-/

namespace Boundary

/-- A value of a user brings its own encoding.  It is written by a schema and a value, or by the
size it claims and the bytes it writes, unless it panics instead. -/
instance : FromForm Lowering where
  ofForm? form := do
    match form.get "faulty" with
    | .empty =>
      let schema : Schema ← form.get? "type"
      return schema.lowering (← form.get? "value")
    | faulty =>
      let data : Bytes ← faulty.getD "hex" []
      let message : Option String := faulty.get? "panic"
      let claimed : UInt64 ← faulty.get? "claimed"
      return ⟨claimed.toNat,
        message.elim (Write.bytes data) fun text => Act.unwind (.text text)⟩

/-- How the values of a type cross between forms and bytes. -/
structure Typed where
  lowering? : Form → Option Lowering
  reading : Read Form
  /-- Reads a value in order to lower it again. -/
  again : Read Lowering

namespace Typed

/-- The type of a name. -/
def ofName? : String → Option Typed
  | "store_error" => some
    ⟨fun form => (ofForm? form).map StoreError.lowering, toForm <$> StoreError.read,
      StoreError.lowering <$> StoreError.read⟩
  | "infallible" => some ⟨fun _ => none, Read.undeclared, Read.undeclared⟩
  | name => do
    let shape ← Shape.ofName? name
    return ⟨fun form => (shape.ofForm? form).map shape.lowering, shape.toForm <$> shape.read,
      shape.lowering <$> shape.read⟩

/-- How the errors of a declared type are read: their form and their wording. -/
def errors? : String → Option (Read (Form × String))
  | "infallible" => some Read.undeclared
  | "store_error" => some ((fun cause => (toForm cause, cause.message)) <$> StoreError.read)
  | "string" => some ((fun text => (toForm text, text)) <$> Utf8.read)
  | "u32" => some ((fun word => (toForm word.toNat, toString word.toNat)) <$> Scalar.read .u32)
  | _ => none

end Typed

/-- How the results of a call are read from forms, and the channel that they cross. -/
structure Returning where
  channel : Channel
  output? : Form → Option (StateM Ledger Output)

namespace Returning

/-- Results that are passed by their encoding. -/
def lowered (lowering? : Form → Option Lowering) : Returning :=
  ⟨.buffer, fun form => do return pure (.lowered (← lowering? form))⟩

/-- The results of a name; those under `any` bring their own encoding, and those under `buffer` are
buffers that the body filled itself. -/
def ofName? : String → Option Returning
  | "void" => some ⟨.void, fun _ => some (pure .void)⟩
  | "bool" => some ⟨.word .i8, fun form => do return pure (.bool (← ofForm? form))⟩
  | "handle" => some ⟨.word .u64, fun form => do return pure (.handle (← ofForm? form))⟩
  | "any" => some (lowered ofForm?)
  | "buffer" => some ⟨.buffer, fun form => do
    let data : Bytes ← ofForm? form
    return Output.buffer <$> Buffer.ofBytes data⟩
  | name =>
    match Scalar.ofName? name with
    | some type =>
      some ⟨.word type, fun form => do return pure (.word type (← type.ofForm? form))⟩
    | none => do return lowered (← Typed.ofName? name).lowering?

/-- Reads a body that ends with a result, a declared error or a panic. -/
def body? (returning : Returning) : Form → Option (Act Ledger Lowering Output)
  | .members [("ok", form)] => (returning.output? form).map Act.ofTotal
  | .members [("err", form)] => (ofForm? form).map Act.fail
  | .members [("panic_other", _)] => some (Act.unwind .other)
  | .members [(_, .text message)] => some (Act.unwind (.text message))
  | _ => none

end Returning

end Boundary
