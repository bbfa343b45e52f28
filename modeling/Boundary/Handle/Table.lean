import Boundary.Handle.Error
import Boundary.Text.Quoted

/-!
# Handle tables

A table keeps the objects that the other side knows by their handles.  Handles are issued in
ascending order from one and never twice, so a handle that was removed stays unknown.
-/

namespace Boundary

/-- Objects under the handles that were issued for them. -/
structure Table (α : Type) where
  name : String
  /-- The number of the handle to be issued next. -/
  next : Nat
  entries : List (Handle × α)

namespace Table

variable {α : Type}

/-- A table that has issued no handle. -/
def named (name : String) : Table α := ⟨name, 1, []⟩

/-- The number of objects in the table. -/
def size (table : Table α) : Nat := table.entries.length

/-- Whether the table has no objects. -/
def isEmpty (table : Table α) : Bool := table.entries.isEmpty

/-- The object under a handle. -/
def find? (table : Table α) (handle : Handle) : Option α := table.entries.lookup handle

/-- Whether the table has an object under the handle. -/
def contains (table : Table α) (handle : Handle) : Bool := (table.find? handle).isSome

/-- Issues a new handle for an object.  The number of the handle is used up even if it is too great
for a handle. -/
def insert (table : Table α) (object : α) : Except HandleError Handle × Table α :=
  if table.next ≤ Handle.greatest then
    let handle : Handle := ⟨UInt64.ofNat table.next⟩
    (.ok handle,
      { table with next := table.next + 1, entries := table.entries ++ [(handle, object)] })
  else
    (.error (.exhausted table.name), { table with next := table.next + 1 })

/-- The object under a handle, or the error of looking it up. -/
def get (table : Table α) (handle : Handle) : Except HandleError α :=
  match table.find? handle with
  | some object => .ok object
  | none => .error (.invalidHandle table.name "get" handle)

/-- The table without a handle. -/
def erase (table : Table α) (handle : Handle) : Table α :=
  { table with entries := table.entries.filter fun entry => entry.1 != handle }

/-- Takes the object under a handle out of the table. -/
def remove (table : Table α) (handle : Handle) : Except HandleError (α × Table α) :=
  match table.find? handle with
  | some object => .ok (object, table.erase handle)
  | none => .error (.invalidHandle table.name "remove" handle)

/-- Replaces the object under a handle. -/
def update (table : Table α) (handle : Handle) (change : α → α) : Table α :=
  { table with
    entries := table.entries.map fun entry =>
      if entry.1 = handle then (entry.1, change entry.2) else entry }

/-- Issues another handle for the object under a handle. -/
def cloneHandle (table : Table α) (handle : Handle) : Except HandleError Handle × Table α :=
  match table.get handle with
  | .ok object => table.insert object
  | .error cause => (.error cause, table)

/-- The table in diagnostic output. -/
def debugText (table : Table α) : String :=
  s!"HandleMap \x7b name: {Quoted.encode table.name}, next: {table.next}, len: {table.size} \x7d"

end Table

/-- An object that several handles may share. -/
structure Shared (α : Type) where
  /-- Tells objects apart that hold equal contents. -/
  identity : Nat
  contents : α

/-- Issues a handle for a new object, which no other handle shares. -/
def Table.insertNew {α : Type} (table : Table (Shared α)) (contents : α) :
    Except HandleError Handle × Table (Shared α) :=
  table.insert ⟨table.next, contents⟩

/-- Replaces the contents of an object, under all the handles that share it. -/
def Table.setShared {α : Type} (table : Table (Shared α)) (object : Shared α) (contents : α) :
    Table (Shared α) :=
  { table with
    entries := table.entries.map fun entry =>
      if entry.2.identity = object.identity then (entry.1, { entry.2 with contents := contents })
      else entry }

/-- The number of handles that share an object. -/
def Table.shareCount {α : Type} (table : Table (Shared α)) (object : Shared α) : Nat :=
  table.entries.countP fun entry => entry.2.identity == object.identity

end Boundary
