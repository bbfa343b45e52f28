import Boundary.Handle.Table

/-! # What is under a handle

Taking a handle out of a table, or changing the object under it, leaves every other handle
alone. A table that has issued its handles in order (`Boundary.Table.Orderly`) issues one
next that has nothing under it yet (`Boundary.Table.Orderly.find?_insert`). Issuing it leaves
those alone that were issued before, so that one that was taken out stays unknown
(`Boundary.Table.find?_insert_of_issued`).
-/

namespace Boundary

section

variable {α : Type} (entries : List (Handle × α)) (handle other : Handle)

/-- Entries without those of a handle. -/
theorem lookup_filter_ne :
    (entries.filter fun entry => entry.1 != handle).lookup other =
      if other = handle then none else entries.lookup other := by
  induction entries with
  | nil => simp only [List.filter_nil, List.lookup_nil, ite_self]
  | cons entry rest ih =>
      by_cases removed : entry.1 = handle
      · rw [List.filter_cons_of_neg (by simp [removed]), ih, List.lookup_cons]
        by_cases same : other = handle
        · simp only [same, ↓reduceIte]
        · have front : other ≠ entry.1 := fun front => same (front.trans removed)
          simp only [same, ↓reduceIte, beq_eq_false_iff_ne.mpr front]
      · rw [List.filter_cons_of_pos (by simp [removed]), List.lookup_cons, ih, List.lookup_cons]
        by_cases front : other = entry.1
        · simp only [front, beq_self_eq_true, removed, ↓reduceIte]
        · simp only [beq_eq_false_iff_ne.mpr front]

theorem lookup_append_ne {issued : Handle} (different : other ≠ issued) (object : α) :
    (entries ++ [(issued, object)]).lookup other = entries.lookup other := by
  rw [List.lookup_append, List.lookup_cons, beq_eq_false_iff_ne.mpr different]
  exact Option.or_none

/-- Changing the entries of a handle changes what is found under it. -/
theorem lookup_map_update (change : α → α) :
    (entries.map fun entry =>
        if entry.1 = handle then (entry.1, change entry.2) else entry).lookup other =
      if other = handle then (entries.lookup other).map change else entries.lookup other := by
  induction entries with
  | nil => simp only [List.map_nil, List.lookup_nil, Option.map_none, ite_self]
  | cons entry rest ih =>
      obtain ⟨listed, object⟩ := entry
      rw [List.map_cons, List.lookup_cons]
      by_cases changed : listed = handle
      · subst changed
        rw [if_pos rfl, List.lookup_cons]
        by_cases front : other = listed
        · simp only [front, beq_self_eq_true, ↓reduceIte, Option.map_some]
        · simp only [beq_eq_false_iff_ne.mpr front, ih]
      · rw [if_neg changed, List.lookup_cons]
        by_cases front : other = listed
        · simp only [front, beq_self_eq_true, changed, ↓reduceIte]
        · simp only [beq_eq_false_iff_ne.mpr front, ih]

/-- Changing entries leaves their handles. -/
theorem issued_map_update {bound : Nat} (issued : ∀ entry ∈ entries, entry.1.raw.toNat < bound)
    (change : α → α) : ∀ entry ∈ entries.map fun entry =>
      if entry.1 = handle then (entry.1, change entry.2) else entry,
      entry.1.raw.toNat < bound := by
  refine List.forall_mem_map.mpr fun entry member => ?_
  have earlier := issued entry member
  split <;> exact earlier

end

namespace Table

variable {α : Type} {table after : Table α} {handle : Handle} {object : α}

theorem find?_erase (table : Table α) (handle other : Handle) :
    (table.erase handle).find? other = if other = handle then none else table.find? other :=
  lookup_filter_ne table.entries handle other

/-- Erasing what is not there changes nothing. -/
theorem erase_of_find?_eq_none {handle : Handle} (unknown : table.find? handle = none) :
    table.erase handle = table := by
  have kept : (table.entries.filter fun entry => entry.1 != handle) = table.entries := by
    refine List.filter_eq_self.mpr fun entry member => bne_iff_ne.mpr ?_
    exact (bne_iff_ne.mp (List.lookup_eq_none_iff.mp unknown entry member)).symm
  unfold erase
  rw [kept]

theorem find?_update (table : Table α) (handle : Handle) (change : α → α) (other : Handle) :
    (table.update handle change).find? other =
      if other = handle then (table.find? other).map change else table.find? other :=
  lookup_map_update table.entries handle other change

/-- Only handles that were issued have something under them. -/
structure Orderly (table : Table α) : Prop where
  issued : ∀ entry ∈ table.entries, entry.1.raw.toNat < table.next

theorem Orderly.named (name : String) : (named name : Table α).Orderly := ⟨List.forall_mem_nil _⟩

theorem Orderly.find?_eq_none (orderly : table.Orderly) {handle : Handle}
    (unissued : table.next ≤ handle.raw.toNat) : table.find? handle = none := by
  refine List.lookup_eq_none_iff.mpr fun entry member => bne_iff_ne.mpr ?_
  rintro rfl
  exact absurd (orderly.issued entry member) (Nat.not_lt.mpr unissued)

theorem next_insert (table : Table α) (object : α) :
    (table.insert object).2.next = table.next + 1 := by
  unfold insert
  split <;> rfl

/-- A handle that is issued is the next one. -/
theorem insert_eq_ok (inserted : table.insert object = (.ok handle, after)) :
    handle.raw.toNat = table.next ∧
      after = { table with
        next := table.next + 1, entries := table.entries ++ [(handle, object)] } := by
  unfold insert at inserted
  split at inserted
  · next room =>
    cases inserted
    refine ⟨UInt64.toNat_ofNat_of_lt ?_, rfl⟩
    unfold Handle.greatest signedLimit at room
    unfold UInt64.size
    omega
  · cases inserted

/-- A handle that is issued is valid, if handles are numbered from one. -/
theorem isValid_of_insert (inserted : table.insert object = (.ok handle, after))
    (numbered : 1 ≤ table.next) : handle.isValid = true := by
  obtain ⟨number, -⟩ := insert_eq_ok inserted
  unfold insert at inserted
  split at inserted
  · next room =>
    unfold Handle.isValid
    rw [number]
    exact Bool.and_eq_true_iff.mpr ⟨decide_eq_true numbered, decide_eq_true room⟩
  · cases inserted

/-- An insertion that fails inserts nothing. -/
theorem insert_eq_error {cause : HandleError}
    (refused : table.insert object = (.error cause, after)) :
    after = { table with next := table.next + 1 } := by
  unfold insert at refused
  split at refused <;> cases refused
  rfl

/-- Issuing a handle leaves those alone that were issued before. -/
theorem find?_insert_of_issued {other : Handle} (issued : other.raw.toNat < table.next)
    (object : α) : (table.insert object).2.find? other = table.find? other := by
  rcases inserted : table.insert object with ⟨cause | handle, after⟩
  · rw [insert_eq_error inserted]
    rfl
  · obtain ⟨number, rfl⟩ := insert_eq_ok inserted
    have different : other ≠ handle := by
      rintro rfl
      exact absurd issued (number ▸ Nat.lt_irrefl _)
    exact lookup_append_ne table.entries other different object

/-- What was inserted is found under the handle that was issued for it. -/
theorem Orderly.find?_insert (orderly : table.Orderly)
    (inserted : table.insert object = (.ok handle, after)) : after.find? handle = some object := by
  obtain ⟨number, rfl⟩ := insert_eq_ok inserted
  have absent : table.entries.lookup handle = none :=
    orderly.find?_eq_none (Nat.le_of_eq number.symm)
  change (table.entries ++ [(handle, object)]).lookup handle = some object
  rw [List.lookup_append, absent, List.lookup_cons_self]
  rfl

theorem Orderly.insert (orderly : table.Orderly) (object : α) :
    (table.insert object).2.Orderly := by
  rcases inserted : table.insert object with ⟨cause | handle, after⟩
  · rw [insert_eq_error inserted]
    exact ⟨fun entry member => Nat.lt_succ_of_lt (orderly.issued entry member)⟩
  · obtain ⟨number, rfl⟩ := insert_eq_ok inserted
    refine ⟨fun entry member => ?_⟩
    rcases List.mem_append.mp member with earlier | new
    · exact Nat.lt_succ_of_lt (orderly.issued entry earlier)
    · rw [List.mem_singleton.mp new, number]
      exact Nat.lt_succ_self _

theorem Orderly.erase (orderly : table.Orderly) (handle : Handle) :
    (table.erase handle).Orderly :=
  ⟨fun entry member => orderly.issued entry (List.mem_filter.mp member).1⟩

theorem Orderly.update (orderly : table.Orderly) (handle : Handle) (change : α → α) :
    (table.update handle change).Orderly :=
  ⟨issued_map_update table.entries handle orderly.issued change⟩

end Table

end Boundary
