import Boundary.Contract.Checksum
import Boundary.Schema

/-!
# Signatures

The signature of a function that can be called across the boundary, and its canonical text.
-/

namespace Boundary

/-- A function with its arguments, its result and the error it declares. -/
structure Signature where
  name : String
  arguments : List (String × Schema)
  result : Option Schema
  error : Option Schema
  isAsync : Bool
  deriving BEq

namespace Signature

/-- The canonical text of a signature. -/
def text (signature : Signature) : String :=
  (if signature.isAsync then "async " else "") ++
    "fn " ++ signature.name ++
    "(" ++ ", ".intercalate (Schema.fieldTexts signature.arguments) ++ ")" ++
    (match signature.result with
      | some schema => " -> " ++ schema.text
      | none => "") ++
    (match signature.error with
      | some schema => " throws " ++ schema.text
      | none => "")

/-- The checksum under which the core exports the function. -/
def checksum (hash : Bytes → UInt32) (signature : Signature) : UInt16 :=
  Checksum.ofText hash signature.text

end Signature

end Boundary
