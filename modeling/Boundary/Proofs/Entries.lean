import Boundary.Entries

/-! # The values of keys

Inserting under a key changes the value of that key alone (`Boundary.Entries.get?_insert`),
so that a map made of a list of entries holds for each key what the last entry of the key
says (`Boundary.Entries.get?_ofList`).
-/

namespace Boundary.Entries

variable {κ ν : Type} [DecidableEq κ]

/-- What the last entry of a key says. -/
def lastValue? (entries : List (κ × ν)) (key : κ) : Option ν :=
  (entries.reverse.find? fun entry => entry.1 = key).map Prod.snd

/-- The last value of a key is that of the later entries, or of the first. -/
theorem lastValue?_cons (entry : κ × ν) (rest : List (κ × ν)) (key : κ) :
    lastValue? (entry :: rest) key =
      (lastValue? rest key).or (if entry.1 = key then some entry.2 else none) := by
  unfold lastValue?
  rw [List.reverse_cons, List.find?_append, Option.map_or]
  by_cases same : entry.1 = key
  · simp [same]
  · simp [same]

/-- A key that is put is found with its value, and the others as before. -/
theorem find?_put (entries : List (κ × ν)) (key : κ) (value : ν) (other : κ) :
    ((put key value entries).find? fun entry => entry.1 = other).map Prod.snd =
      if key = other then some value
      else (entries.find? fun entry => entry.1 = other).map Prod.snd := by
  induction entries with
  | nil =>
      by_cases same : key = other
      · simp [put, same]
      · simp [put, same]
  | cons entry rest ih =>
      by_cases found : entry.1 = key
      · subst found
        by_cases same : entry.1 = other
        · simp [put, same]
        · simp [put, same]
      · by_cases front : entry.1 = other
        · have differs : ¬ key = other := fun same => found (front.trans same.symm)
          rw [put, if_neg found, if_neg differs, List.find?_cons_of_pos (by simpa using front),
            List.find?_cons_of_pos (by simpa using front)]
        · simp only [put, if_neg found, List.find?_cons, front, decide_false, ih]

/-- Inserting sets the value of one key and leaves every other one. -/
theorem get?_insert (entries : Entries κ ν) (key : κ) (value : ν) (other : κ) :
    (entries.insert key value).get? other =
      if key = other then some value else entries.get? other :=
  find?_put entries.toList key value other

/-- **Of several entries with one key the last counts.** In whatever way a map keeps its entries,
it is enough that inserting sets the value of one key and leaves every other one. -/
theorem lookup_foldl_insert {μ : Type} {insert : μ → κ → ν → μ} {lookup : μ → κ → Option ν}
    (lookup_insert : ∀ map key value other, lookup (insert map key value) other =
      if key = other then some value else lookup map other)
    (inserted : List (κ × ν)) (start : μ) (key : κ) :
    lookup (inserted.foldl (fun map entry => insert map entry.1 entry.2) start) key =
      (lastValue? inserted key).or (lookup start key) := by
  induction inserted generalizing start with
  | nil => rfl
  | cons entry rest ih =>
      rw [List.foldl_cons, ih, lookup_insert, lastValue?_cons]
      by_cases same : entry.1 = key
      · simp [same]
      · simp [same]

/-- A map made of a list of entries holds for each key what the last entry of the key says. -/
theorem get?_ofList (entries : List (κ × ν)) (key : κ) :
    (ofList entries).get? key = lastValue? entries key :=
  (lookup_foldl_insert get?_insert entries empty key).trans Option.or_none

/-- A key without entries has no last value. -/
theorem lastValue?_eq_none {entries : List (κ × ν)} {key : κ}
    (absent : key ∉ entries.map Prod.fst) : lastValue? entries key = none := by
  unfold lastValue?
  rw [Option.map_eq_none_iff, List.find?_eq_none]
  intro entry member
  have held : entry.1 ∈ entries.map Prod.fst := List.mem_map_of_mem (List.mem_reverse.mp member)
  rw [decide_eq_true_iff]
  exact fun same => absent (same ▸ held)

/-- Where keys are distinct, the first entry of a key is the last. -/
theorem find?_eq_lastValue? {entries : List (κ × ν)} (distinct : (entries.map Prod.fst).Nodup)
    (key : κ) :
    (entries.find? fun entry => entry.1 = key).map Prod.snd = lastValue? entries key := by
  induction entries with
  | nil => rfl
  | cons entry rest ih =>
      rw [List.map_cons, List.nodup_cons] at distinct
      rw [lastValue?_cons, List.find?_cons]
      by_cases same : entry.1 = key
      · simp [same, lastValue?_eq_none (same ▸ distinct.1)]
      · simp [same, ih distinct.2]

/-- Where no key is repeated, every entry is the last one of its key. -/
theorem lastValue?_eq_some_iff {entries : List (κ × ν)} (distinct : (entries.map Prod.fst).Nodup)
    (key : κ) (value : ν) : lastValue? entries key = some value ↔ (key, value) ∈ entries := by
  induction entries with
  | nil => exact iff_of_false (fun found => nomatch found) List.not_mem_nil
  | cons entry rest ih =>
      rw [List.map_cons, List.nodup_cons] at distinct
      obtain ⟨front, held⟩ := entry
      rw [lastValue?_cons, List.mem_cons, Prod.mk.injEq]
      by_cases same : front = key
      · subst same
        have absent : (front, value) ∉ rest := fun later =>
          distinct.1 (List.mem_map.mpr ⟨_, later, rfl⟩)
        simp only [lastValue?_eq_none distinct.1, ↓reduceIte, Option.none_or, Option.some.injEq,
          absent, or_false, true_and]
        exact eq_comm
      · simp only [same, ↓reduceIte, Option.or_none, Ne.symm same, false_and, false_or]
        exact ih distinct.2

/-- What the entries of some items say last is what the last item of the key says. -/
theorem lastValue?_map {α : Type} (key : α → κ) (value : α → ν) (items : List α) (wanted : κ) :
    lastValue? (items.map fun item => (key item, value item)) wanted =
      (items.reverse.find? fun item => key item = wanted).map value := by
  unfold lastValue?
  rw [← List.map_reverse, List.find?_map, Option.map_map]
  rfl

/-- In a map the only entry of a key is its last one. -/
theorem get?_eq_lastValue? (entries : Entries κ ν) (key : κ) :
    entries.get? key = lastValue? entries.toList key :=
  find?_eq_lastValue? entries.nodup key

end Boundary.Entries
