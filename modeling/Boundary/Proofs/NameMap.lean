import Boundary.NameMap
import Boundary.Proofs.Entries
import Mathlib.Data.String.Basic

/-! # Looking names up

A name that is set has its value and a name that is taken out has none; every other name has
what it had (`Boundary.NameMap.get?_insert`, `Boundary.NameMap.get?_erase`). Neither depends on
the order of the entries. A map that is made by setting names one after another has for each of
them the value that was set last (`Boundary.NameMap.get?_ofList`), and its names ascend
(`Boundary.NameMap.ordered_ofList`), so what it has is what its entries say
(`Boundary.NameMap.Ordered.mem_iff`).
-/

namespace Boundary

namespace NameMap

variable {ν : Type} (map : NameMap ν) (name other : String)

/-- A lookup tries the first entry, and then the others. -/
theorem get?_cons (entry : String × ν) :
    get? (entry :: map) other = if other = entry.1 then some entry.2 else get? map other := by
  rw [get?, List.lookup_cons]
  by_cases same : other = entry.1
  · simp only [same, beq_self_eq_true, ↓reduceIte]
  · simp only [same, beq_eq_false_iff_ne.mpr same, ↓reduceIte]
    rfl

/-- A name that is inserted is found with its value, and the others as before. -/
theorem get?_insert (value : ν) :
    get? (insert name value map) other = if other = name then some value else get? map other := by
  induction map with
  | nil => exact get?_cons [] other (name, value)
  | cons entry rest ih =>
      rw [insert]
      cases order : compare name entry.1 with
      | lt => exact get?_cons (entry :: rest) other (name, value)
      | eq =>
          -- The entry that is replaced has the same name.
          have same : name = entry.1 := Std.LawfulEqOrd.eq_of_compare order
          rw [get?_cons, get?_cons, ← same]
          by_cases here : other = name <;> simp only [here, ↓reduceIte]
      | gt =>
          have different : entry.1 ≠ name := by
            rintro rfl
            rw [Std.ReflOrd.compare_self] at order
            cases order
          rw [get?_cons, get?_cons, ih]
          by_cases front : other = entry.1
          · simp only [front, different, ↓reduceIte]
          · simp only [front, ↓reduceIte]

/-- A name that is erased is not found, and the others are. -/
theorem get?_erase : get? (erase map name) other =
    if other = name then none else get? map other := by
  induction map with
  | nil => exact (ite_self none).symm
  | cons entry rest ih =>
      unfold erase at ih ⊢
      by_cases removed : entry.1 = name
      · rw [List.filter_cons_of_neg (by simp [removed]), ih, get?_cons, removed]
        by_cases here : other = name <;> simp only [here, ↓reduceIte]
      · rw [List.filter_cons_of_pos (by simp [removed]), get?_cons, ih, get?_cons]
        by_cases front : other = entry.1
        · simp only [front, removed, ↓reduceIte]
        · simp only [front, ↓reduceIte]

/-! ## Names set one after another -/

/-- The names ascend, so there is one entry for each. -/
def Ordered (map : NameMap ν) : Prop := map.Pairwise fun entry later => entry.1 < later.1

variable {map : NameMap ν} {name : String}

/-- An entry after an insertion is the new one, or it was there before. -/
theorem eq_or_mem_of_mem_insert {value : ν} {entry : String × ν}
    (member : entry ∈ insert name value map) : entry.1 = name ∨ entry ∈ map := by
  induction map with
  | nil =>
      rw [insert, List.mem_singleton] at member
      exact Or.inl (congrArg Prod.fst member)
  | cons first rest ih =>
      rw [insert] at member
      split at member
      · rcases List.mem_cons.mp member with rfl | old
        · exact Or.inl rfl
        · exact Or.inr old
      · rcases List.mem_cons.mp member with rfl | old
        · exact Or.inl rfl
        · exact Or.inr (List.mem_cons_of_mem _ old)
      · rcases List.mem_cons.mp member with rfl | later
        · exact Or.inr List.mem_cons_self
        · exact (ih later).imp_right (List.mem_cons_of_mem _)

/-- Inserting leaves a map ordered. -/
theorem Ordered.insert (ordered : Ordered map) (value : ν) :
    Ordered (NameMap.insert name value map) := by
  induction map with
  | nil => exact List.pairwise_singleton _ _
  | cons first rest ih =>
      obtain ⟨below, others⟩ := List.pairwise_cons.mp ordered
      rw [NameMap.insert]
      cases order : compare name first.1 with
      | lt =>
          have before : name < first.1 := compare_lt_iff_lt.mp order
          refine List.Pairwise.cons (fun entry member => ?_) ordered
          rcases List.mem_cons.mp member with rfl | later
          · exact before
          · exact before.trans (below entry later)
      | eq =>
          have same : name = first.1 := compare_eq_iff_eq.mp order
          exact List.Pairwise.cons (fun entry member => same ▸ below entry member) others
      | gt =>
          refine List.Pairwise.cons (fun entry member => ?_) (ih others)
          rcases eq_or_mem_of_mem_insert member with new | old
          · exact new ▸ compare_gt_iff_gt.mp order
          · exact below entry old

/-- In an ordered map the entries are what lookups find. -/
theorem Ordered.mem_iff (ordered : Ordered map) (value : ν) :
    (name, value) ∈ map ↔ get? map name = some value := by
  induction map with
  | nil => simp only [List.not_mem_nil, get?, List.lookup_nil, reduceCtorEq]
  | cons first rest ih =>
      obtain ⟨below, others⟩ := List.pairwise_cons.mp ordered
      obtain ⟨front, kept⟩ := first
      rw [List.mem_cons, get?_cons, Prod.mk.injEq]
      by_cases same : name = front
      · subst same
        -- A later entry has a larger name.
        have absent : (name, value) ∉ rest := fun later => lt_irrefl name (below _ later)
        simp only [true_and, absent, or_false, ↓reduceIte, Option.some.injEq]
        exact eq_comm
      · simp only [same, false_and, false_or, ↓reduceIte]
        exact ih others

/-- What is found under each name determines the map. -/
theorem Ordered.eq_of_get?_eq {other : NameMap ν} (ordered : Ordered map)
    (otherOrdered : Ordered other) (same : ∀ name, get? map name = get? other name) :
    map = other := by
  have distinct {map : NameMap ν} (ordered : Ordered map) : map.Nodup := by
    apply List.Pairwise.imp _ ordered
    rintro entry _ below rfl
    exact lt_irrefl _ below
  have members (entry : String × ν) : entry ∈ map ↔ entry ∈ other := by
    obtain ⟨name, value⟩ := entry
    rw [ordered.mem_iff, otherOrdered.mem_iff, same]
  apply List.Perm.eq_of_pairwise _ ordered otherOrdered
  · exact (List.perm_ext_iff_of_nodup (distinct ordered) (distinct otherOrdered)).mpr members
  · intro entry later _ _ before behind
    exact absurd behind before.asymm

theorem ordered_foldl_insert (entries : List (String × ν)) (ordered : Ordered map) :
    Ordered (entries.foldl (fun map entry => map.insert entry.1 entry.2) map) := by
  induction entries generalizing map with
  | nil => exact ordered
  | cons entry rest ih => exact ih (ordered.insert entry.2)

theorem ordered_ofList (entries : List (String × ν)) : Ordered (ofList entries) :=
  ordered_foldl_insert entries List.Pairwise.nil

/-- A name that is set several times has the value that it was given last. -/
theorem get?_ofList (entries : List (String × ν)) (name : String) :
    get? (ofList entries) name = Entries.lastValue? entries name := by
  have set_last := @Entries.lookup_foldl_insert String ν _ (NameMap ν)
    (fun map name value => insert name value map) get?
    (fun map name value other =>
      (get?_insert map name other value).trans (if_congr eq_comm rfl rfl))
  exact (set_last entries [] name).trans Option.or_none

/-- Entries with distinct names may be set in any order. -/
theorem ofList_perm {entries other : List (String × ν)} (permuted : entries.Perm other)
    (distinct : (entries.map Prod.fst).Nodup) : ofList entries = ofList other := by
  apply (ordered_ofList entries).eq_of_get?_eq (ordered_ofList other)
  intro name
  rw [get?_ofList, get?_ofList]
  have otherDistinct : (other.map Prod.fst).Nodup :=
    (permuted.map Prod.fst).nodup_iff.mp distinct
  apply Option.ext
  intro value
  rw [Entries.lastValue?_eq_some_iff distinct, Entries.lastValue?_eq_some_iff otherDistinct,
    permuted.mem_iff]

end NameMap

end Boundary
