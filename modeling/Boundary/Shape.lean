import Boundary.Entries
import Boundary.Schema
import Boundary.Value

/-!
# Shapes

A shape is a type known where a call is written, so that its values are encoded and decoded without
consulting a schema. `Carrier` is the type that a shape stands for; `schema` and `toValue` say which
schema and which value on their own correspond to it.
-/

namespace Boundary

/-- The types that are composed of the built-in ones. -/
inductive Shape where
  | scalar (type : Scalar)
  | bool
  | string
  | duration
  | instant
  | handle
  | optional (item : Shape)
  | list (item : Shape)
  | map (key value : Shape)
  deriving DecidableEq, Repr

namespace Shape

/-- The values of a shape. -/
def Carrier : Shape → Type
  | scalar type => type.Word
  | bool => Bool
  | string => String
  | duration => Duration
  | instant => Instant
  | handle => Handle
  | optional item => Option item.Carrier
  | list item => List item.Carrier
  | map key value => Entries key.Carrier value.Carrier

/-- Values of a shape can be told apart, as the keys of a map have to be. -/
instance decidableEqCarrier : (shape : Shape) → DecidableEq shape.Carrier
  | scalar type => inferInstanceAs (DecidableEq type.Word)
  | bool => inferInstanceAs (DecidableEq Bool)
  | string => inferInstanceAs (DecidableEq String)
  | duration => inferInstanceAs (DecidableEq Duration)
  | instant => inferInstanceAs (DecidableEq Instant)
  | handle => inferInstanceAs (DecidableEq Handle)
  | optional item =>
    have := decidableEqCarrier item
    inferInstanceAs (DecidableEq (Option item.Carrier))
  | list item =>
    have := decidableEqCarrier item
    inferInstanceAs (DecidableEq (List item.Carrier))
  | map key value =>
    have := decidableEqCarrier key
    have := decidableEqCarrier value
    inferInstanceAs (DecidableEq (Entries key.Carrier value.Carrier))

/-- The schema that lays out the values of a shape. -/
def schema : Shape → Schema
  | scalar type => .scalar type
  | bool => .bool
  | string => .string
  | duration => .duration
  | instant => .timestamp
  | handle => .object ""
  | optional item => .optional item.schema
  | list item => .sequence item.schema
  | map key value => .map key.schema value.schema

/-- A value of a shape as a value on its own. -/
def toValue : (shape : Shape) → shape.Carrier → Value
  | scalar type, word => .scalar type word
  | bool, truth => .bool truth
  | string, text => .string text
  | duration, length => .duration length
  | instant, time => .timestamp time
  | handle, name => .object name
  | optional _, none => .absent
  | optional item, some value => .present (item.toValue value)
  | list item, items => .sequence (List.map item.toValue items)
  | map key value, entries =>
    .map (entries.toList.map fun entry => (key.toValue entry.1, value.toValue entry.2))

end Shape

end Boundary
