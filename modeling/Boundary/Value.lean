import Boundary.Handle
import Boundary.Scalar
import Boundary.Time

/-!
# Values

A value on its own, without the schema that lays it out.  Maps keep the order of their entries and
entries of equal keys; records and variants keep the names of their fields.
-/

namespace Boundary

/-- A value that can cross the boundary. -/
inductive Value where
  | bool (truth : Bool)
  | scalar (type : Scalar) (word : type.Word)
  | string (text : String)
  | bytes (data : Bytes)
  | timestamp (instant : Instant)
  | duration (length : Duration)
  | object (handle : Handle)
  | absent
  | present (item : Value)
  | sequence (items : List Value)
  | map (entries : List (Value × Value))
  | record (fields : List (String × Value))
  | variant (name : String) (fields : List (String × Value))

namespace Value

/-- The word for the kind of a value in messages. -/
def kind : Value → String
  | bool _ => "bool"
  | scalar type _ => type.name
  | string _ => "string"
  | bytes _ => "bytes"
  | timestamp _ => "timestamp"
  | duration _ => "duration"
  | object _ => "object"
  | absent | present _ => "option"
  | sequence _ => "sequence"
  | map _ => "map"
  | record _ => "record"
  | variant .. => "enum"

mutual

/-- Equality of values, floats compared as numbers. -/
def same : Value → Value → Bool
  | bool truth, bool other => truth == other
  | scalar type word, scalar type' other =>
    if alike : type' = type then type.same word (alike ▸ other) else false
  | string text, string other => text == other
  | bytes data, bytes other => data == other
  | timestamp instant, timestamp other => instant == other
  | duration length, duration other => length == other
  | object handle, object other => handle == other
  | absent, absent => true
  | present item, present other => item.same other
  | sequence items, sequence others => sameItems items others
  | map entries, map others => sameEntries entries others
  | record fields, record others => sameFields fields others
  | variant name fields, variant name' others => name == name' && sameFields fields others
  | _, _ => false
termination_by structural value => value

/-- Item by item equality. -/
def sameItems : List Value → List Value → Bool
  | [], [] => true
  | item :: items, other :: others => item.same other && sameItems items others
  | _, _ => false
termination_by structural items => items

/-- Entry by entry equality, in order. -/
def sameEntries : List (Value × Value) → List (Value × Value) → Bool
  | [], [] => true
  | (key, value) :: entries, (key', value') :: others =>
    key.same key' && value.same value' && sameEntries entries others
  | _, _ => false
termination_by structural entries => entries

/-- Field by field equality, names included. -/
def sameFields : List (String × Value) → List (String × Value) → Bool
  | [], [] => true
  | (name, value) :: fields, (name', value') :: others =>
    name == name' && value.same value' && sameFields fields others
  | _, _ => false
termination_by structural fields => fields

end

end Value

end Boundary
