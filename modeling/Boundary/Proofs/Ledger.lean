import Boundary.Ledger
import Mathlib.Data.List.Nodup

/-! # The records of the core

A ledger keeps one record for each address and gives addresses out in ascending order
(`Boundary.Ledger.Orderly`). What is recorded at an address changes when the address is
handed out or checked out and not otherwise, and each of the two moves the number of
outstanding allocations by one.
-/

namespace Boundary.Ledger

/-- No address is recorded twice, and none before it was handed out. -/
structure Orderly (ledger : Ledger) : Prop where
  distinct : (ledger.blocks.map Prod.fst).Nodup
  issued : ∀ entry ∈ ledger.blocks, entry.1 < ledger.nextAddress

variable {ledger : Ledger} {address : Address} {block : Block}

/-- Nothing is found at an address that has no block. -/
theorem find?_eq_none_iff : ledger.find? address = none ↔ address ∉ ledger.blocks.map Prod.fst := by
  unfold find?
  rw [List.lookup_eq_none_iff]
  simp only [bne_iff_ne, List.mem_map, not_exists, not_and]
  exact ⟨fun apart entry member same => apart entry member same.symm,
    fun apart entry member same => apart entry member same.symm⟩

theorem mem_of_find? (found : ledger.find? address = some block) :
    (address, block) ∈ ledger.blocks := by
  obtain ⟨before, after, split, _⟩ := List.lookup_eq_some_iff.mp found
  rw [split]
  exact List.mem_append_cons_self

theorem Orderly.lt_nextAddress (orderly : ledger.Orderly)
    (found : ledger.find? address = some block) : address < ledger.nextAddress :=
  orderly.issued _ (mem_of_find? found)

/-! ## Handing out -/

/-- A block is registered at the next address, and the others stay. -/
theorem find?_register (ledger : Ledger) (block : Block) (address : Address) :
    (ledger.register block).2.find? address =
      if address = ledger.nextAddress then some block else ledger.find? address := by
  unfold register find?
  rw [List.lookup_cons]
  by_cases same : address = ledger.nextAddress
  · simp only [same, beq_self_eq_true, ↓reduceIte]
  · simp only [same, beq_eq_false_iff_ne.mpr same, ↓reduceIte]

/-- A block is registered at its old address again, and the others stay. -/
theorem find?_registerAgain (ledger : Ledger) (handed : Address) (block : Block)
    (address : Address) : (ledger.registerAgain handed block).find? address =
      if address = handed then some block else ledger.find? address := by
  unfold registerAgain find?
  rw [List.lookup_cons]
  by_cases same : address = handed
  · simp only [same, beq_self_eq_true, ↓reduceIte]
  · simp only [same, beq_eq_false_iff_ne.mpr same, ↓reduceIte]

@[simp] theorem outstanding_register (ledger : Ledger) (block : Block) :
    (ledger.register block).2.outstanding = ledger.outstanding + 1 := rfl

theorem Orderly.register (orderly : ledger.Orderly) (block : Block) :
    (ledger.register block).2.Orderly where
  distinct := by
    refine List.nodup_cons.mpr ⟨?_, orderly.distinct⟩
    intro member
    obtain ⟨entry, listed, same⟩ := List.mem_map.mp member
    exact absurd (orderly.issued entry listed) (by rw [same]; exact Nat.lt_irrefl _)
  issued := List.forall_mem_cons.mpr
    ⟨Nat.lt_succ_self _, fun entry member => Nat.lt_succ_of_lt (orderly.issued entry member)⟩

theorem Orderly.registerAgain (orderly : ledger.Orderly) (absent : ledger.find? address = none)
    (earlier : address < ledger.nextAddress) (block : Block) :
    (ledger.registerAgain address block).Orderly where
  distinct := List.nodup_cons.mpr ⟨find?_eq_none_iff.mp absent, orderly.distinct⟩
  issued := List.forall_mem_cons.mpr ⟨earlier, orderly.issued⟩

/-! ## Checking out -/

/-- A block that is erased is not found, and the others are. -/
theorem find?_erase (ledger : Ledger) (erased address : Address) :
    (ledger.erase erased).find? address =
      if address = erased then none else ledger.find? address := by
  unfold erase find?
  induction ledger.blocks with
  | nil => simp only [List.filter_nil, List.lookup_nil, ite_self]
  | cons entry rest ih =>
      obtain ⟨listed, block⟩ := entry
      rw [List.filter_cons]
      by_cases here : listed = erased
      · subst here
        simp only [bne_self_eq_false, Bool.false_eq_true, ↓reduceIte, ih, List.lookup_cons]
        by_cases same : address = listed
        · simp only [same, ↓reduceIte]
        · simp only [same, beq_eq_false_iff_ne.mpr same, ↓reduceIte]
      · simp only [bne_iff_ne.mpr here, ↓reduceIte, List.lookup_cons]
        by_cases same : address = listed
        · simp only [same, here, beq_self_eq_true, ↓reduceIte]
        · simp only [beq_eq_false_iff_ne.mpr same]
          exact ih

theorem Orderly.erase (orderly : ledger.Orderly) (address : Address) :
    (ledger.erase address).Orderly where
  distinct := orderly.distinct.sublist (List.filter_sublist.map _)
  issued entry member := orderly.issued entry (List.mem_of_mem_filter member)

/-- Checking an allocation out takes one record away. -/
theorem Orderly.outstanding_erase (orderly : ledger.Orderly)
    (found : ledger.find? address = some block) :
    (ledger.erase address).outstanding + 1 = ledger.outstanding := by
  obtain ⟨before, after, split, _⟩ := List.lookup_eq_some_iff.mp found
  have distinct := orderly.distinct
  rw [split, List.map_append, List.map_cons, List.nodup_middle, List.nodup_cons,
    ← List.map_append] at distinct
  have kept : (before ++ after).filter (fun entry => entry.1 != address) = before ++ after := by
    refine List.filter_eq_self.mpr fun entry member => bne_iff_ne.mpr ?_
    rintro rfl
    exact distinct.1 (List.mem_map.mpr ⟨entry, member, rfl⟩)
  rw [List.filter_append] at kept
  unfold Ledger.erase outstanding
  rw [split, List.filter_append, List.filter_cons_of_neg (by simp), kept, List.length_append,
    List.length_append, List.length_cons]
  omega

/-! ## Telling ledgers apart -/

/-- The other ledger has the same on record. -/
structure Alike (ledger other : Ledger) : Prop where
  orderly : other.Orderly
  find? : ∀ address, other.find? address = ledger.find? address
  outstanding : other.outstanding = ledger.outstanding
  nextAddress : other.nextAddress = ledger.nextAddress

/-- What was checked out can be handed out again as it was. -/
theorem Orderly.alike_registerAgain (orderly : ledger.Orderly)
    (found : ledger.find? address = some block) :
    ledger.Alike ((ledger.erase address).registerAgain address block) where
  orderly := by
    refine (orderly.erase address).registerAgain ?_ (orderly.lt_nextAddress found) block
    rw [find?_erase, if_pos rfl]
  find? other := by
    rw [find?_registerAgain, find?_erase]
    by_cases same : other = address
    · rw [if_pos same, same, found]
    · rw [if_neg same, if_neg same]
  outstanding := orderly.outstanding_erase found
  nextAddress := rfl

/-- A block is live if it is there and has the capacity. -/
theorem isLive_iff {capacity : Nat} : ledger.isLive address capacity ↔
    ∃ contents, ledger.find? address = some ⟨capacity, contents⟩ := by
  unfold isLive
  cases ledger.find? address with
  | none => exact iff_of_false Bool.false_ne_true (fun ⟨_, found⟩ => nomatch found)
  | some block =>
      obtain ⟨recorded, contents⟩ := block
      simp only [Option.any_some, beq_iff_eq, Option.some.injEq, Block.mk.injEq, exists_and_left,
        exists_eq', and_true]

/-- An allocation is checked out with the capacity it is recorded with. -/
theorem release_of_find? (found : ledger.find? address = some block) :
    ledger.release address block.capacity = .ok (block, ledger.erase address) := by
  unfold release
  rw [found]
  exact if_pos rfl

/-- What is not handed out with the given capacity is not checked out. -/
theorem release_of_not_isLive {capacity : Nat} (dead : ¬ ledger.isLive address capacity) :
    ∃ cause, ledger.release address capacity = .error cause ∧ ∀ size, cause ≠ .tooLarge size := by
  unfold release
  cases found : ledger.find? address with
  | none => exact ⟨_, rfl, nofun⟩
  | some block =>
      have differs : block.capacity ≠ capacity := by
        rintro rfl
        exact dead (isLive_iff.mpr ⟨block.contents, found⟩)
      exact ⟨_, if_neg differs, nofun⟩

end Boundary.Ledger
