import Boundary.Contract.Binding
import Boundary.Form

/-!
# Forms of contracts

A schema is written by its name, or by one member whose name tells how it is composed.  Records and
enumerations list their fields and variants as pairs of a name and what it stands for; a variant
without fields may stand alone.
-/

namespace Boundary

namespace Schema

/-- The schema that a single name stands for. -/
def ofName? : String → Option Schema
  | "bool" => some bool
  | "string" => some string
  | "bytes" => some bytes
  | "timestamp" => some timestamp
  | "duration" => some duration
  | name => (Scalar.ofName? name).map scalar

mutual

/-- Reads a schema. -/
def read? : Form → Option Schema
  | .text name => ofName? name
  | .members [("object", .text name)] => some (object name)
  | .members [("optional", item)] => do return optional (← read? item)
  | .members [("sequence", item)] => do return sequence (← read? item)
  | .members [("map", .list [key, value])] => do return map (← read? key) (← read? value)
  | .members [("record", .members [("fields", .list fields), ("name", .text name)])] => do
    return record name (← readFields? fields)
  | .members [("enum", .members [("name", .text name), ("variants", .list variants)])] => do
    return enumeration name (← readVariants? variants)
  | _ => none
termination_by structural form => form

/-- Reads fields. -/
def readFields? : List Form → Option (List (String × Schema))
  | [] => some []
  | .list [.text name, form] :: rest => do
    return (name, ← read? form) :: (← readFields? rest)
  | _ => none
termination_by structural forms => forms

/-- Reads variants. -/
def readVariants? : List Form → Option (List (String × List (String × Schema)))
  | [] => some []
  | .list [.text name] :: rest => do return (name, []) :: (← readVariants? rest)
  | .list [.text name, .list fields] :: rest => do
    return (name, ← readFields? fields) :: (← readVariants? rest)
  | _ => none
termination_by structural forms => forms

end

instance : FromForm Schema := ⟨read?⟩

end Schema

instance : FromForm Signature where
  ofForm? form := do
    return ⟨← form.get? "name", ← form.getD "args" [], form.get? "returns", form.get? "throws",
      ← form.getD "async" false⟩

/-- Bindings are written as the signatures and the checksums that they are made from, in that
order. -/
instance : FromForm Bindings where
  ofForm? form := do
    let bindings := Bindings.ofSignatures Checksum.crc32 (← form.get? "version")
      (← form.getD "signatures" [])
    let checksums : List (String × UInt16) ← form.getD "checksums" []
    return checksums.foldl (fun bindings (function, checksum) =>
      bindings.withChecksum function checksum) bindings

instance : FromForm DeclaredContract where
  ofForm? form := do
    return DeclaredContract.ofSignatures (← form.get? "version") (← form.getD "signatures" [])

instance : FromForm ExportedContract where
  ofForm? form := do
    return ExportedContract.ofChecksums (← form.get? "version") (← form.getD "checksums" [])

end Boundary
