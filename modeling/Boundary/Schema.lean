import Boundary.Scalar

/-!
# Schemas

A schema describes the layout of a value that crosses the boundary.  Both sides derive the canonical
text of the schemas they use, so that comparing texts, or checksums of them, compares layouts.
-/

namespace Boundary

/-- The layout of a value.  Records list their fields and enumerations their variants, each variant
with the fields it carries; all in the order in which they are written. -/
inductive Schema where
  | bool
  | scalar (type : Scalar)
  | string
  | bytes
  | timestamp
  | duration
  | object (name : String)
  | optional (item : Schema)
  | sequence (item : Schema)
  | map (key value : Schema)
  | record (name : String) (fields : List (String × Schema))
  | enumeration (name : String) (variants : List (String × List (String × Schema)))
  deriving BEq, Inhabited

namespace Schema

/-- Whether values of the layout travel in registers. -/
def isScalar : Schema → Bool
  | bool | scalar _ | object _ => true
  | _ => false

/-- The position and the fields of the first variant of a name. -/
def variant? (variants : List (String × List (String × Schema))) (name : String) :
    Option (Nat × List (String × Schema)) :=
  match variants with
  | [] => none
  | (first, fields) :: rest =>
    if first = name then some (0, fields)
    else (variant? rest name).map fun (position, fields) => (position + 1, fields)

mutual

/-- The canonical text of a schema. -/
def text : Schema → String
  | bool => "bool"
  | scalar type => type.name
  | string => "string"
  | bytes => "bytes"
  | timestamp => "timestamp"
  | duration => "duration"
  | object name => "object<" ++ name ++ ">"
  | optional item => "option<" ++ item.text ++ ">"
  | sequence item => "sequence<" ++ item.text ++ ">"
  | map key value => "map<" ++ key.text ++ ", " ++ value.text ++ ">"
  | record name fields =>
    "record " ++ name ++ " \x7b" ++ ", ".intercalate (fieldTexts fields) ++ "\x7d"
  | enumeration name variants =>
    "enum " ++ name ++ " \x7b" ++ ", ".intercalate (variantTexts variants) ++ "\x7d"
termination_by structural schema => schema

/-- The text of each field: its name and its layout. -/
def fieldTexts : List (String × Schema) → List String
  | [] => []
  | (name, schema) :: rest => (name ++ ": " ++ schema.text) :: fieldTexts rest
termination_by structural fields => fields

/-- The text of each variant: its name, and its fields unless it has none. -/
def variantTexts : List (String × List (String × Schema)) → List String
  | [] => []
  | (name, fields) :: rest =>
    (match fieldTexts fields with
      | [] => name
      | texts => name ++ "(" ++ ", ".intercalate texts ++ ")") :: variantTexts rest
termination_by structural variants => variants

end

end Schema

end Boundary
