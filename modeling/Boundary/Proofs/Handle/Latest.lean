import Boundary.Proofs.Handle.Promise

/-! # The latest object of a table

A table with one more object at the end (`Boundary.Table.holding`) is told from the one before by
that object alone: it can be looked up, changed and taken out, and then the table has what it had
(`Boundary.Table.erase_holding`). So it is with the latest promise, which is open
(`Boundary.Promises.pledged`) or kept (`Boundary.Promises.fulfilled`) until it is forgotten.
-/

namespace Boundary

namespace Table

variable {α : Type} {table : Table α} {handle : Handle}

/-- The handle to be issued next. -/
def upcoming (table : Table α) : Handle := ⟨UInt64.ofNat table.next⟩

/-- The table after handles were issued, of which nothing is left. -/
def later (table : Table α) (count : Nat) : Table α := { table with next := table.next + count }

/-- The table with one more object. -/
def holding (table : Table α) (handle : Handle) (object : α) : Table α :=
  { table with next := table.next + 1, entries := table.entries ++ [(handle, object)] }

/-- As long as there are handles, the next one is issued. -/
theorem insert_of_room (room : table.next ≤ Handle.greatest) (object : α) :
    table.insert object = (.ok table.upcoming, table.holding table.upcoming object) :=
  if_pos room

/-- The next handle has the next number. -/
theorem toNat_upcoming (room : table.next ≤ Handle.greatest) :
    table.upcoming.raw.toNat = table.next := by
  refine UInt64.toNat_ofNat_of_lt ?_
  unfold Handle.greatest signedLimit at room
  unfold UInt64.size
  omega

theorem Orderly.find?_upcoming (orderly : table.Orderly) (room : table.next ≤ Handle.greatest) :
    table.find? table.upcoming = none :=
  orderly.find?_eq_none (Nat.le_of_eq (toNat_upcoming room).symm)

theorem Orderly.later (orderly : table.Orderly) (count : Nat) : (table.later count).Orderly :=
  ⟨fun entry member => Nat.lt_of_lt_of_le (orderly.issued entry member) (Nat.le_add_right _ _)⟩

variable (fresh : table.find? handle = none) (object : α)

include fresh

theorem find?_holding : (table.holding handle object).find? handle = some object := by
  have absent : table.entries.lookup handle = none := fresh
  change (table.entries ++ [(handle, object)]).lookup handle = some object
  rw [List.lookup_append, absent, List.lookup_cons_self]
  rfl

/-- Updating the object that a table holds changes what it holds. -/
theorem update_holding (change : α → α) :
    (table.holding handle object).update handle change = table.holding handle (change object) := by
  have others : (table.entries.map fun entry =>
      if entry.1 = handle then (entry.1, change entry.2) else entry) = table.entries := by
    refine (List.map_congr_left fun entry member => if_neg ?_).trans (List.map_id _)
    exact (bne_iff_ne.mp (List.lookup_eq_none_iff.mp fresh entry member)).symm
  unfold holding update
  rw [List.map_append, others, List.map_singleton, if_pos rfl]

/-- Erasing the object that a table holds leaves one handle more issued. -/
theorem erase_holding : (table.holding handle object).erase handle = table.later 1 := by
  have others := congrArg Table.entries (erase_of_find?_eq_none fresh)
  have gone : (table.entries ++ [(handle, object)]).filter (fun entry => entry.1 != handle) =
      table.entries := by
    rw [List.filter_append, List.filter_cons_of_neg (by simp), List.filter_nil, List.append_nil]
    exact others
  unfold holding erase later
  rw [gone]

end Table

namespace Promises

variable {κ α : Type} {promises : Promises κ α}

/-- The promises after others were made and forgotten. -/
def later (promises : Promises κ α) (count : Nat) : Promises κ α :=
  { promises with table := promises.table.later count }

/-- The promises with one more that is open. -/
def pledged (promises : Promises κ α) (handle : Handle) (label : κ) : Promises κ α :=
  { promises with table := promises.table.holding handle label }

/-- The promises with one more that was kept. -/
def fulfilled (promises : Promises κ α) (handle : Handle) (value : α) : Promises κ α :=
  ⟨promises.table.later 1, promises.kept ++ [(handle, value)]⟩

theorem Orderly.later (orderly : promises.Orderly) (count : Nat) :
    (promises.later count).Orderly :=
  ⟨orderly.table.later count,
    fun entry member => Nat.lt_of_lt_of_le (orderly.kept entry member) (Nat.le_add_right _ _)⟩

/-- As long as there are handles, a promise is made under the next one. -/
theorem make_of_room (room : promises.table.next ≤ Handle.greatest) (label : κ) :
    make label promises =
      (.ok promises.table.upcoming, promises.pledged promises.table.upcoming label) := by
  unfold make
  rw [Table.insert_of_room room]
  rfl

variable (orderly : promises.Orderly) (room : promises.table.next ≤ Handle.greatest)

include orderly room

theorem lookup_kept_upcoming : promises.kept.lookup promises.table.upcoming = none :=
  orderly.value?_eq_none (Nat.le_of_eq (Table.toNat_upcoming room).symm)

theorem filter_kept_upcoming :
    (promises.kept.filter fun entry => entry.1 != promises.table.upcoming) = promises.kept := by
  refine List.filter_eq_self.mpr fun entry member => bne_iff_ne.mpr ?_
  have absent := lookup_kept_upcoming orderly room
  exact (bne_iff_ne.mp (List.lookup_eq_none_iff.mp absent entry member)).symm

/-- A promise that was made waits to be kept. -/
theorem status_pledged (label : κ) :
    (promises.pledged promises.table.upcoming label).status promises.table.upcoming =
      .waiting := by
  have open' := Table.find?_holding (orderly.table.find?_upcoming room) label
  unfold status pledged
  dsimp only
  rw [lookup_kept_upcoming orderly room]
  unfold Table.contains
  rw [open']
  rfl

/-- Keeping it fulfils it. -/
theorem keep_pledged (label : κ) (value : α) :
    keep promises.table.upcoming value (promises.pledged promises.table.upcoming label) =
      ((), promises.fulfilled promises.table.upcoming value) := by
  have fresh := orderly.table.find?_upcoming room
  have open' : (promises.pledged promises.table.upcoming label).isOpen
      promises.table.upcoming = true := congrArg Option.isSome (Table.find?_holding fresh label)
  rw [keep_of_isOpen open']
  unfold pledged fulfilled
  rw [Table.erase_holding fresh label]

/-- A promise that is fulfilled has its value. -/
theorem status_fulfilled (value : α) :
    (promises.fulfilled promises.table.upcoming value).status promises.table.upcoming =
      .kept value := by
  have found : (promises.kept ++ [(promises.table.upcoming, value)]).lookup
      promises.table.upcoming = some value := by
    rw [List.lookup_append, lookup_kept_upcoming orderly room, List.lookup_cons_self]
    rfl
  unfold status fulfilled
  dsimp only
  rw [found]

/-- Forgetting it leaves one handle more issued. -/
theorem forget_fulfilled (value : α) :
    forget promises.table.upcoming (promises.fulfilled promises.table.upcoming value) =
      ((), promises.later 1) := by
  have unlisted : (promises.table.later 1).find? promises.table.upcoming = none :=
    orderly.table.find?_upcoming room
  change ((), (⟨(promises.table.later 1).erase promises.table.upcoming,
    (promises.kept ++ [(promises.table.upcoming, value)]).filter fun entry =>
      entry.1 != promises.table.upcoming⟩ : Promises κ α)) = _
  rw [Table.erase_of_find?_eq_none unlisted, List.filter_append,
    filter_kept_upcoming orderly room, List.filter_cons_of_neg (by simp), List.filter_nil,
    List.append_nil]
  rfl

end Promises

end Boundary
