import Boundary.Shape

/-!
# Names of shapes

Shapes have names such as `vec<option<i16>>` and `map<string,u32>`, which `Shape.ofName?` reads.
`Shape.order` is the order in which the keys of a map are listed: numbers by value, texts by their
bytes, and the false before the true.
-/

namespace Boundary

namespace Shape

/-- The name of a shape. -/
def name : Shape → String
  | scalar type => type.name
  | bool => "bool"
  | string => "string"
  | duration => "duration"
  | instant => "timestamp"
  | handle => "handle"
  | optional item => s!"option<{item.name}>"
  | list item => s!"vec<{item.name}>"
  | map key value => s!"map<{key.name},{value.name}>"

/-- A mark in the name of a shape. -/
def isMark (character : Char) : Bool := "<>,".toList.contains character

/-- Removes a character from the front of a name. -/
def behindMark? (mark : Char) : List Char → Option (List Char)
  | [] => none
  | character :: rest => if character = mark then some rest else none

/-- Reads a shape from the front of a name, and yields it with what follows.  Shapes within shapes
need one unit of fuel less. -/
def readName : (fuel : Nat) → List Char → Option (Shape × List Char)
  | 0, _ => none
  | fuel + 1, name => do
    let word := name.takeWhile fun character => !isMark character
    let rest := name.drop word.length
    let within : Option (Shape × List Char) := do readName fuel (← behindMark? '<' rest)
    match String.ofList word with
    | "bool" => return (bool, rest)
    | "string" => return (string, rest)
    | "duration" => return (duration, rest)
    | "timestamp" => return (instant, rest)
    | "handle" => return (handle, rest)
    | "option" => do
      let (item, rest) ← within
      return (optional item, ← behindMark? '>' rest)
    | "vec" => do
      let (item, rest) ← within
      return (list item, ← behindMark? '>' rest)
    | "map" => do
      let (key, rest) ← within
      let (value, rest) ← readName fuel (← behindMark? ',' rest)
      return (map key value, ← behindMark? '>' rest)
    | word => do return (scalar (← Scalar.ofName? word), rest)

/-- The shape of a name. -/
def ofName? (name : String) : Option Shape :=
  match readName (name.length + 1) name.toList with
  | some (shape, []) => some shape
  | _ => none

/-- The order of the values of a shape that can be keys of maps; other values are not told apart. -/
def order : (shape : Shape) → shape.Carrier → shape.Carrier → Ordering
  | scalar type, word, other => compare (type.number word) (type.number other)
  | bool, (truth : Bool), (other : Bool) => compare truth.toNat other.toNat
  | string, (text : String), (other : String) => compare text other
  | handle, (name : Handle), (other : Handle) => name.order other
  | _, _, _ => .eq

end Shape

end Boundary
