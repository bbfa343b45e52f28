import Boundary.Config.Toml.Numeral
import Boundary.Config.Toml.Quoted

/-!
# TOML documents

A document is read line by line: a header names the table that the entries below it go into.  What
is read are the changes of the root table; a document is accepted if all of them are allowed.

Arrays and inline tables nest no deeper than a fixed limit.
-/

namespace Boundary

namespace Toml

/-- The number of arrays and inline tables around a value that is too many. -/
def depthLimit : Nat := 80

namespace Scan

/-- Runs a reader on some further input again and again, until it yields no value, but no more than
`fuel` times. -/
def manyUpTo {α : Type} (item : Scan (Option α)) : (fuel : Nat) → Scan (List α)
  | 0 => return []
  | fuel + 1 => do
    match ← item with
    | none => return []
    | some first => do
      let rest ← manyUpTo item fuel
      return first :: rest

/-- Runs a reader again and again, until it yields no value.  It has to take a character each time,
so that the length of the text is fuel enough. -/
def many {α : Type} (item : Scan (Option α)) : Scan (List α) := do
  manyUpTo item ((← get).length + 1)

/-- Items between commas up to a closing mark.  A comma may follow the last item. -/
def listed {α : Type} (closing : Char) (item : Scan α) : Scan (List α) := do
  gap
  let items ← many do
    if (← get).head? = some closing then return none
    let value ← item
    gap
    if !(← accept [',']) then
      if (← get).head? ≠ some closing then refuse
    gap
    return some value
  require [closing]
  return items

/-- One part of a key. -/
def simpleKey : Scan String := do
  match (← get).head? with
  | some '"' | some '\'' => quotedLine
  | _ =>
    let name ← span fun character =>
      character.isAlphanum || character = '_' || character = '-'
    if name.isEmpty then refuse
    return String.ofList name

/-- A key: its last part, and the parts before it. -/
def key : Scan (List String × String) := do
  let first ← simpleKey
  blanks
  let others ← many do
    if ← accept ['.'] then
      blanks
      let part ← simpleKey
      blanks
      return some part
    else return none
  let parts := first :: others
  return (parts.dropLast, parts.getLastD first)

/-- An entry: its key and its value. -/
def entry (value : Scan Value) : Scan ((List String × String) × Value) := do
  let key ← key
  require ['=']
  blanks
  return (key, ← value)

/-- Makes a change, if it is allowed. -/
def allow {α : Type} : Option α → Scan α
  | some result => return result
  | none => refuse

/-- A value, around which there may be `depth` more arrays and inline tables. -/
def value : (depth : Nat) → Scan Value
  | 0 => refuse
  | depth + 1 => do
    match (← get).head? with
    | some '"' | some '\'' => return .text (← quoted)
    | some '[' =>
      require ['[']
      return .array false (← listed ']' (value depth))
    | some '\x7b' =>
      require ['\x7b']
      let entries ← listed '\x7d' (entry (value depth))
      let (_, entries) ← allow (entries.foldlM
        (fun table entry => addDotted entry.1.1 entry.1.2 entry.2 table) (TableKind.header, []))
      return .table .inline entries
    | _ => fun text => do
      let (token, rest) := splitToken text
      return (← valueOfToken? token, rest)

/-- A header: its key, and whether it adds a table to an array. -/
def header : Scan ((List String × String) × Bool) := do
  require ['[']
  let isElement ← accept ['[']
  blanks
  let key ← key
  require (if isElement then [']', ']'] else [']'])
  return (key, isElement)

/-- What is known while a document is read: the path of the last header, and the root table. -/
structure Reading where
  path : List String
  root : Table

/-- Reads a line, unless the text is at its end. -/
def line (reading : Reading) : Scan (Option Reading) := do
  blanks
  match (← get).head? with
  | none => return none
  | some '[' =>
    let ((path, last), isElement) ← header
    let change := if isElement then addElement last else addHeader last
    let root ← allow (changeAt false change path reading.root)
    lineEnd
    return some ⟨path ++ [last], root⟩
  | some '#' | some '\n' | some '\r' =>
    lineEnd
    return some reading
  | some _ =>
    let ((path, last), value) ← entry (value depthLimit)
    let root ← allow (changeAt false (addDotted path last value) reading.path reading.root)
    lineEnd
    return some { reading with root := root }

/-- Reads lines to the end of the text, but no more than `fuel` of them. -/
def lines : (fuel : Nat) → Reading → Scan Table
  | 0, _ => refuse
  | fuel + 1, reading => do
    match ← line reading with
    | none => return reading.root
    | some reading => lines fuel reading

end Scan

/-- The root table of a document, or nothing if the text is none.  A byte order mark may precede. -/
def read? (text : String) : Option (List (String × Value)) :=
  let text := match text.toList with
    | '\ufeff' :: text => text
    | text => text
  (Scan.lines (text.length + 1) ⟨[], (.header, [])⟩ text).map fun read => read.1.2

end Toml

end Boundary
