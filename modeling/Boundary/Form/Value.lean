import Boundary.Form
import Boundary.Sample.StoreError
import Boundary.Shape.Name

/-!
# Forms of values

A value is written by one member, whose name tells its kind.  A value of a shape needs no such name,
since the shape tells how to read it; the entries of a map of a shape are listed in the order of
their keys.  Floats are written by the hexadecimal digits of their bits.
-/

namespace Boundary

namespace Scalar

/-- Reads a word of a type. -/
def ofForm? (type : Scalar) (form : Form) : Option type.Word :=
  if type.isFloat then do return BitVec.ofNat _ (BigEndian.decode (← Boundary.ofForm? form))
  else do return BitVec.ofInt _ (← Boundary.ofForm? form)

/-- Writes a word of a type. -/
def toForm (type : Scalar) (word : type.Word) : Form :=
  if type.isFloat then Boundary.toForm (BigEndian.encode type.width word.toNat)
  else if type.width = 8 then .digits (type.number word)
  else .number (type.number word)

end Scalar

namespace Value

/-- Reads a value whose kind has no parts. -/
def plainOfForm? (kind : String) (form : Form) : Option Value :=
  match kind with
  | "bool" => (ofForm? form).map bool
  | "string" => (ofForm? form).map string
  | "bytes" => (ofForm? form).map bytes
  | "timestamp" => (ofForm? form).map timestamp
  | "duration" => (ofForm? form).map duration
  | "object" => (ofForm? form).map object
  | "none" => some absent
  | kind => do
    let type ← Scalar.ofName? kind
    return scalar type (← type.ofForm? form)

mutual

/-- Reads a value. -/
def read? : Form → Option Value
  | .members [("some", item)] => do return present (← read? item)
  | .members [("sequence", .list items)] => do return sequence (← readItems? items)
  | .members [("map", .list entries)] => do return map (← readEntries? entries)
  | .members [("record", .list fields)] => do return record (← readFields? fields)
  | .members [("enum", .members [("variant", .text name)])] => some (variant name [])
  | .members [("enum", .members [("fields", .list fields), ("variant", .text name)])] => do
    return variant name (← readFields? fields)
  | .members [(kind, form)] => plainOfForm? kind form
  | _ => none
termination_by structural form => form

/-- Reads the items of a sequence. -/
def readItems? : List Form → Option (List Value)
  | [] => some []
  | item :: rest => do return (← read? item) :: (← readItems? rest)
termination_by structural forms => forms

/-- Reads the entries of a map. -/
def readEntries? : List Form → Option (List (Value × Value))
  | [] => some []
  | .list [key, value] :: rest => do
    return (← read? key, ← read? value) :: (← readEntries? rest)
  | _ => none
termination_by structural forms => forms

/-- Reads named fields. -/
def readFields? : List Form → Option (List (String × Value))
  | [] => some []
  | .list [.text name, value] :: rest => do
    return (name, ← read? value) :: (← readFields? rest)
  | _ => none
termination_by structural forms => forms

end

mutual

/-- Writes a value. -/
def written : Value → Form
  | bool truth => .members [("bool", toForm truth)]
  | scalar type word => .members [(type.name, type.toForm word)]
  | string text => .members [("string", toForm text)]
  | bytes data => .members [("bytes", toForm data)]
  | timestamp time => .members [("timestamp", toForm time)]
  | duration length => .members [("duration", toForm length)]
  | object handle => .members [("object", toForm handle)]
  | absent => .members [("none", .truth true)]
  | present item => .members [("some", item.written)]
  | sequence items => .members [("sequence", .list (writtenItems items))]
  | map entries => .members [("map", .list (writtenEntries entries))]
  | record fields => .members [("record", .list (writtenFields fields))]
  | variant name fields =>
    .members [("enum", .members
      [("fields", .list (writtenFields fields)), ("variant", .text name)])]
termination_by structural value => value

/-- Writes the items of a sequence. -/
def writtenItems : List Value → List Form
  | [] => []
  | item :: rest => item.written :: writtenItems rest
termination_by structural items => items

/-- Writes the entries of a map. -/
def writtenEntries : List (Value × Value) → List Form
  | [] => []
  | (key, value) :: rest => .list [key.written, value.written] :: writtenEntries rest
termination_by structural entries => entries

/-- Writes named fields. -/
def writtenFields : List (String × Value) → List Form
  | [] => []
  | (name, value) :: rest => .list [.text name, value.written] :: writtenFields rest
termination_by structural fields => fields

end

instance : FromForm Value := ⟨read?⟩

instance : ToForm Value := ⟨written⟩

end Value

namespace Shape

/-- Reads a value of a shape. -/
def ofForm? : (shape : Shape) → Form → Option shape.Carrier
  | scalar type, form => type.ofForm? form
  | bool, form => (Boundary.ofForm? form : Option Bool)
  | string, form => (Boundary.ofForm? form : Option String)
  | duration, form => (Boundary.ofForm? form : Option Duration)
  | instant, form => (Boundary.ofForm? form : Option Instant)
  | handle, form => (Boundary.ofForm? form : Option Handle)
  | optional _, .empty => some none
  | optional item, form => do return some (← item.ofForm? (form.get "some"))
  | list item, form => do List.mapM item.ofForm? (← Boundary.ofForm? form)
  | map key value, form => do
    let entries : List (Form × Form) ← Boundary.ofForm? form
    return Entries.ofList (← entries.mapM fun entry => do
      return (← key.ofForm? entry.1, ← value.ofForm? entry.2))

/-- Writes a value of a shape. -/
def toForm : (shape : Shape) → shape.Carrier → Form
  | scalar type, word => type.toForm word
  | bool, truth => .truth truth
  | string, text => .text text
  | duration, (length : Duration) => Boundary.toForm length
  | instant, (time : Instant) => Boundary.toForm time
  | handle, (name : Handle) => Boundary.toForm name
  | optional _, none => .empty
  | optional item, some value => .members [("some", item.toForm value)]
  | list item, items => .list (List.map item.toForm items)
  | map key value, entries =>
    .list ((entries.toList.mergeSort fun entry other => (key.order entry.1 other.1).isLE).map
      fun entry => .list [key.toForm entry.1, value.toForm entry.2])

end Shape

instance : FromForm StoreError where
  ofForm?
    | .members [("not_found", .text key)] => some (.notFound key)
    | .members [("read_only", _)] => some .readOnly
    | _ => none

instance : ToForm StoreError where
  toForm
    | .notFound key => .members [("not_found", .text key)]
    | .readOnly => .members [("read_only", .truth true)]

end Boundary
