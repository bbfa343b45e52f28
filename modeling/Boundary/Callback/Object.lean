import Boundary.Call.Caller
import Boundary.Text.Quoted

/-!
# Callback objects

The core's side of a callback interface.  The host registers its table of functions once, in the
slot of the interface; later tables are ignored.  A callback object is the core's hold on one object
of the host: a handle and the table to call it through.  The table's own function frees the handle
when the object is dropped.
-/

namespace Boundary

/-- The place for the table of functions of a callback interface. -/
structure CallbackSlot (ν : Type) where
  interface : String
  table : Option ν

namespace CallbackSlot

variable {ν : Type}

/-- The slot of an interface, without a table. -/
def named (interface : String) : CallbackSlot ν := ⟨interface, none⟩

/-- Registers a table.  The first one stays. -/
def register (slot : CallbackSlot ν) (table : ν) : CallbackSlot ν :=
  { slot with table := slot.table.or (some table) }

/-- Whether a table was registered. -/
def isRegistered (slot : CallbackSlot ν) : Bool := slot.table.isSome

/-- The registered table. -/
def get (slot : CallbackSlot ν) : Except Error ν :=
  match slot.table with
  | some table => .ok table
  | none => .error (.tableMissing slot.interface)

/-- The slot in diagnostic output. -/
def debugText (slot : CallbackSlot ν) : String :=
  s!"VTableSlot \x7b interface: {Quoted.encode slot.interface}, " ++
    s!"registered: {slot.isRegistered} \x7d"

end CallbackSlot

/-- The core's hold on an object of the host. -/
structure CallbackObject (ν : Type) where
  handle : Handle
  table : ν

namespace CallbackObject

variable {ν : Type}

/-- Takes hold of the object under a handle, which must be one that can name an object. -/
def ofSlot? (slot : CallbackSlot ν) (handle : Handle) : Except Error (CallbackObject ν) :=
  if handle.isValid then do return ⟨handle, ← slot.get⟩
  else .error (.protocol s!"invalid callback handle {handle.text}")

/-- The object in diagnostic output. -/
def debugText (object : CallbackObject ν) : String :=
  s!"ForeignObject \x7b handle: {object.handle.debugText} \x7d"

variable {σ τ ε : Type} [Part σ Ledger]

/-- Calls a method of the object. -/
def invoke (object : CallbackObject ν) (caller : Caller σ) (declared : Read ε)
    (method : ν → Handle → EntryPoint σ τ) : Act σ (CallError ε) τ :=
  caller.call declared (method object.table object.handle)

/-- Drops the object: the table's function frees its handle. -/
def drop (object : CallbackObject ν) (free : ν → Handle → StateM σ Unit) : StateM σ Unit :=
  free object.table object.handle

end CallbackObject

end Boundary
