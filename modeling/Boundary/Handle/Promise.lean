import Boundary.Handle.Table

/-!
# Promises

Whoever waits for a value from the other side makes a promise and names it by a handle.  The promise
leaves its table with the first attempt to keep it, to break it or to forget it; so it is kept at
most once, and an attempt for a handle that is not open has no effect.

A promise carries a label, which tells what values it may be kept with.
-/

namespace Boundary

/-- Promises with labels of type `κ` for values of type `α`. -/
structure Promises (κ α : Type) where
  /-- The labels of the promises that are open. -/
  table : Table κ
  /-- The values with which promises were kept, as long as nobody took them. -/
  kept : List (Handle × α)

/-- What became of a promise. -/
inductive Promised (α : Type) where
  | waiting
  | kept (value : α)
  /-- Nobody can keep it any more. -/
  | broken
  deriving DecidableEq, Repr

namespace Promises

variable {κ α : Type}

/-- No promise was made. -/
def named (name : String) : Promises κ α := ⟨Table.named name, []⟩

/-- Makes a promise. -/
def make (label : κ) : StateM (Promises κ α) (Except HandleError Handle) := fun promises =>
  let (issued, table) := promises.table.insert label
  (issued, { promises with table := table })

/-- The label of an open promise. -/
def label? (promises : Promises κ α) (handle : Handle) : Option κ := promises.table.find? handle

/-- Keeps a promise, if it is open. -/
def keep (handle : Handle) (value : α) : StateM (Promises κ α) Unit :=
  modify fun promises =>
    match promises.table.remove handle with
    | .ok (_, table) => ⟨table, promises.kept ++ [(handle, value)]⟩
    | .error _ => promises

/-- Breaks a promise, if it is open. -/
def breakOff (handle : Handle) : StateM (Promises κ α) Unit :=
  modify fun promises => { promises with table := promises.table.erase handle }

/-- What became of a promise. -/
def status (promises : Promises κ α) (handle : Handle) : Promised α :=
  match promises.kept.lookup handle with
  | some value => .kept value
  | none => if promises.table.contains handle then .waiting else .broken

/-- Forgets a promise, whatever became of it. -/
def forget (handle : Handle) : StateM (Promises κ α) Unit :=
  modify fun promises =>
    ⟨promises.table.erase handle, promises.kept.filter fun entry => entry.1 != handle⟩

end Promises

end Boundary
