/-!
# TOML values

A document in TOML is a table of values, some of which are tables themselves.  How a table came
about decides who may extend it: a table from a header is extended by the lines below its header
only, one from dotted keys by dotted keys only, and an inline table by nobody.
-/

namespace Boundary

namespace Toml

/-- How a table came about. -/
inductive TableKind where
  /-- It has a header of its own. -/
  | header
  /-- A longer header passed through it. -/
  | implied
  /-- A dotted key passed through it. -/
  | dotted
  | inline
  deriving DecidableEq, Repr

/-- A value of a document. -/
inductive Value where
  | text (content : String)
  | integer (number : Int)
  /-- A decimal number: a significand and a power of ten. -/
  | decimal (significand : Nat) (exponent : Int)
  /-- An infinity, or no number at all. -/
  | nonfinite
  | boolean (truth : Bool)
  /-- A date, a time, or both. -/
  | moment (numeral : String)
  /-- A list of values; `ofTables` tells that each has a header of its own. -/
  | array (ofTables : Bool) (items : List Value)
  | table (kind : TableKind) (entries : List (String × Value))

/-- A table: how it came about, and its entries. -/
abbrev Table := TableKind × List (String × Value)

/-- A change of a table that is not always allowed. -/
abbrev Change := Table → Option Table

/-- Replaces the value of a key that is present. -/
def replace (key : String) (value : Value) (entries : List (String × Value)) :
    List (String × Value) :=
  entries.map fun entry => if entry.1 = key then (key, value) else entry

/-- Changes the table at the end of a path, and makes those that are missing on the way. A path of a
dotted key does not lead through tables with a header; no path leads into an inline table. -/
def changeAt (dotted : Bool) (change : Change) : List String → Change
  | [], table => change table
  | key :: path, (kind, entries) =>
    match entries.lookup key with
    | none => do
      let (childKind, child) ← changeAt dotted change path
        (if dotted then .dotted else .implied, [])
      return (kind, entries ++ [(key, .table childKind child)])
    | some (.table .inline _) => none
    | some (.table childKind child) =>
      if dotted ∧ childKind = .header then none
      else do
        let (childKind, child) ← changeAt dotted change path (childKind, child)
        return (kind, replace key (.table childKind child) entries)
    | some (.array true items) =>
      match items.getLast? with
      | some (.table childKind child) => do
        let (childKind, child) ← changeAt dotted change path (childKind, child)
        return (kind,
          replace key (.array true (items.dropLast ++ [.table childKind child])) entries)
      | _ => none
    | some _ => none

/-- Adds an entry under a key that is not present. -/
def addEntry (key : String) (value : Value) : Change := fun (kind, entries) =>
  match entries.lookup key with
  | none => some (kind, entries ++ [(key, value)])
  | some _ => none

/-- Adds an entry under a dotted key.  The table that takes the entry is itself one of dotted keys,
if the key has more than one part. -/
def addDotted (path : List String) (key : String) (value : Value) : Change :=
  changeAt true (fun table =>
    if (table.1 = .dotted) = (path ≠ []) then addEntry key value table else none) path

/-- Adds a table with a header; one that was implied so far gets it. -/
def addHeader (key : String) : Change := fun (kind, entries) =>
  match entries.lookup key with
  | none => some (kind, entries ++ [(key, .table .header [])])
  | some (.table .implied child) => some (kind, replace key (.table .header child) entries)
  | some _ => none

/-- Adds a table to an array of tables. -/
def addElement (key : String) : Change := fun (kind, entries) =>
  match entries.lookup key with
  | none => some (kind, entries ++ [(key, .array true [.table .header []])])
  | some (.array true items) =>
    some (kind, replace key (.array true (items ++ [.table .header []])) entries)
  | some _ => none

end Toml

end Boundary
