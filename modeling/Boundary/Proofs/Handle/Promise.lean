import Boundary.Handle.Promise
import Boundary.Proofs.Handle.Table
import Boundary.Proofs.Sequencing

/-! # Promises side by side

Making, keeping and forgetting one promise leaves the others alone. A promise is kept at most once:
keeping it closes it, and one that is not open is left as it is.
-/

namespace Boundary.Promises

variable {κ α : Type} {promises : Promises κ α} {handle other : Handle}

/-- Whether a promise is open. -/
def isOpen (promises : Promises κ α) (handle : Handle) : Bool := promises.table.contains handle

/-- What a promise was kept with, if nobody took it. -/
def value? (promises : Promises κ α) (handle : Handle) : Option α := promises.kept.lookup handle

/-- A promise has its value, waits for it, or is broken. -/
theorem status_eq (promises : Promises κ α) (handle : Handle) :
    promises.status handle =
      match promises.value? handle with
      | some value => .kept value
      | none => if promises.isOpen handle then .waiting else .broken := rfl

/-- An open promise that is kept is closed. -/
theorem keep_of_isOpen (open' : promises.isOpen handle = true) (value : α) :
    keep handle value promises =
      ((), ⟨promises.table.erase handle, promises.kept ++ [(handle, value)]⟩) := by
  obtain ⟨label, known⟩ := Option.isSome_iff_exists.mp open'
  have removed : promises.table.remove handle = .ok (label, promises.table.erase handle) := by
    unfold Table.remove
    rw [known]
  unfold keep
  rw [modify_apply, removed]

/-- A promise that is not open cannot be kept. -/
theorem keep_of_not_isOpen (closed : promises.isOpen handle = false) (value : α) :
    keep handle value promises = ((), promises) := by
  have unknown : promises.table.find? handle = none :=
    Option.not_isSome_iff_eq_none.mp (ne_true_of_eq_false closed)
  have refused : ∃ cause, promises.table.remove handle = .error cause := by
    unfold Table.remove
    rw [unknown]
    exact ⟨_, rfl⟩
  obtain ⟨cause, refused⟩ := refused
  unfold keep
  rw [modify_apply, refused]

/-- A promise that is kept is not open any more. -/
theorem isOpen_keep (promises : Promises κ α) (handle other : Handle) (value : α) :
    (keep handle value promises).2.isOpen other =
      if other = handle then false else promises.isOpen other := by
  cases known : promises.isOpen handle with
  | false =>
      rw [keep_of_not_isOpen known]
      split
      next same => exact same ▸ known
      next => rfl
  | true =>
      rw [keep_of_isOpen known]
      change ((promises.table.erase handle).find? other).isSome = _
      rw [Table.find?_erase]
      split <;> rfl

/-- A promise is kept once, while it is open. -/
theorem value?_keep (promises : Promises κ α) (handle other : Handle) (value : α) :
    (keep handle value promises).2.value? other =
      if other = handle ∧ promises.isOpen handle = true then
        (promises.value? other).or (some value)
      else promises.value? other := by
  cases known : promises.isOpen handle with
  | false => rw [keep_of_not_isOpen known, if_neg fun both => Bool.false_ne_true both.2]
  | true =>
      rw [keep_of_isOpen known]
      change (promises.kept ++ [(handle, value)]).lookup other = _
      rw [List.lookup_append]
      by_cases same : other = handle
      · rw [if_pos ⟨same, rfl⟩, same, List.lookup_cons_self]
        rfl
      · rw [if_neg fun both => same both.1, List.lookup_cons, beq_eq_false_iff_ne.mpr same]
        exact Option.or_none

/-- A promise that is forgotten is not open. -/
theorem isOpen_forget (promises : Promises κ α) (handle other : Handle) :
    (forget handle promises).2.isOpen other =
      if other = handle then false else promises.isOpen other := by
  change ((promises.table.erase handle).find? other).isSome = _
  rw [Table.find?_erase]
  split <;> rfl

theorem value?_forget (promises : Promises κ α) (handle other : Handle) :
    (forget handle promises).2.value? other =
      if other = handle then none else promises.value? other :=
  lookup_filter_ne promises.kept handle other

/-- Only handles that were issued belong to promises. -/
structure Orderly (promises : Promises κ α) : Prop where
  table : promises.table.Orderly
  kept : ∀ entry ∈ promises.kept, entry.1.raw.toNat < promises.table.next

namespace Orderly

theorem named (name : String) : (Promises.named name : Promises κ α).Orderly :=
  ⟨.named _, List.forall_mem_nil _⟩

/-- A promise that was not made has no value. -/
theorem value?_eq_none (orderly : promises.Orderly)
    (unissued : promises.table.next ≤ handle.raw.toNat) : promises.value? handle = none := by
  refine List.lookup_eq_none_iff.mpr fun entry member => bne_iff_ne.mpr ?_
  intro same
  have issued := orderly.kept entry member
  rw [← same] at issued
  exact absurd issued (Nat.not_lt.mpr unissued)

theorem make (orderly : promises.Orderly) (label : κ) : (make label promises).2.Orderly := by
  refine ⟨orderly.table.insert label, fun entry member => ?_⟩
  have next := Table.next_insert promises.table label
  exact next ▸ Nat.lt_succ_of_lt (orderly.kept entry member)

theorem forget (orderly : promises.Orderly) (handle : Handle) :
    (forget handle promises).2.Orderly :=
  ⟨orderly.table.erase handle,
    fun entry member => orderly.kept entry (List.mem_filter.mp member).1⟩

theorem keep (orderly : promises.Orderly) (handle : Handle) (value : α) :
    (keep handle value promises).2.Orderly := by
  cases known : promises.isOpen handle with
  | false =>
      rw [keep_of_not_isOpen known]
      exact orderly
  | true =>
      have issued : handle.raw.toNat < promises.table.next := by
        apply Nat.lt_of_not_le
        intro unissued
        have unknown := congrArg Option.isSome (orderly.table.find?_eq_none unissued)
        exact Bool.false_ne_true (unknown.symm.trans known)
      rw [keep_of_isOpen known]
      refine ⟨orderly.table.erase handle, List.forall_mem_append.mpr ⟨orderly.kept, ?_⟩⟩
      exact List.forall_mem_singleton.mpr issued

end Orderly

/-- Every promise uses up a handle. -/
theorem next_make (promises : Promises κ α) (label : κ) :
    (make label promises).2.table.next = promises.table.next + 1 :=
  Table.next_insert promises.table label

/-- Keeping a promise issues no handle. -/
theorem next_keep (promises : Promises κ α) (handle : Handle) (value : α) :
    (keep handle value promises).2.table.next = promises.table.next := by
  cases known : promises.isOpen handle with
  | false => rw [keep_of_not_isOpen known]
  | true =>
      rw [keep_of_isOpen known]
      rfl

theorem isOpen_make_of_issued (issued : other.raw.toNat < promises.table.next) (label : κ) :
    (make label promises).2.isOpen other = promises.isOpen other :=
  congrArg Option.isSome (Table.find?_insert_of_issued issued label)

/-- A promise that is made has a handle of its own, and is open. -/
theorem make_eq_ok (orderly : promises.Orderly) {label : κ} {after : Promises κ α}
    (made : make label promises = (.ok handle, after)) :
    handle.raw.toNat = promises.table.next ∧ after.isOpen handle = true ∧
      after.value? handle = none := by
  rcases inserted : promises.table.insert label with ⟨issued, table⟩
  unfold make at made
  rw [inserted] at made
  cases made
  have number := (Table.insert_eq_ok inserted).1
  refine ⟨number, congrArg Option.isSome (orderly.table.find?_insert inserted), ?_⟩
  exact orderly.value?_eq_none (Nat.le_of_eq number.symm)

end Boundary.Promises
