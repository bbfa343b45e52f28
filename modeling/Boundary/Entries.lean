/-!
# Entries

A finite map as the list of its entries, in the order in which it is traversed.  No key occurs
twice: inserting an entry under a key that is present replaces the value it had.
-/

namespace Boundary

/-- A finite map: entries with distinct keys. -/
structure Entries (κ ν : Type) where
  toList : List (κ × ν)
  nodup : (toList.map Prod.fst).Nodup

namespace Entries

variable {κ ν : Type}

/-- The map without entries. -/
def empty : Entries κ ν := ⟨[], List.nodup_nil⟩

/-- The entries with the value under `key` replaced, or with a new entry at the end. -/
def put [DecidableEq κ] (key : κ) (value : ν) : List (κ × ν) → List (κ × ν)
  | [] => [(key, value)]
  | entry :: rest =>
    if entry.1 = key then (key, value) :: rest
    else entry :: put key value rest

/-- The keys after an entry was put: the same ones, or one more at the end. -/
theorem keys_put [DecidableEq κ] (key : κ) (value : ν) (entries : List (κ × ν)) :
    (put key value entries).map Prod.fst =
      if key ∈ entries.map Prod.fst then entries.map Prod.fst
      else entries.map Prod.fst ++ [key] := by
  induction entries with
  | nil => rfl
  | cons entry rest inductionHypothesis =>
    by_cases found : entry.1 = key
    · simp [put, found]
    · simp only [put, if_neg found, List.map_cons, inductionHypothesis, List.mem_cons]
      have differs : ¬ key = entry.1 := fun equal => found equal.symm
      by_cases present : key ∈ rest.map Prod.fst <;> simp [present, differs]

/-- Sets the value of a key. -/
def insert [DecidableEq κ] (entries : Entries κ ν) (key : κ) (value : ν) : Entries κ ν where
  toList := put key value entries.toList
  nodup := by
    rw [keys_put]
    split
    · exact entries.nodup
    · next fresh =>
      refine List.nodup_append.2 ⟨entries.nodup, by simp, ?_⟩
      intro present presentIn other otherIn
      rw [List.mem_singleton] at otherIn
      subst otherIn
      exact fun equal => fresh (equal ▸ presentIn)

/-- The map that a list of entries leaves when they are inserted in order, so that the last entry
of a key counts. -/
def ofList [DecidableEq κ] (entries : List (κ × ν)) : Entries κ ν :=
  entries.foldl (fun result entry => result.insert entry.1 entry.2) empty

/-- The value of a key. -/
def get? [DecidableEq κ] (entries : Entries κ ν) (key : κ) : Option ν :=
  (entries.toList.find? fun entry => entry.1 = key).map Prod.snd

instance [DecidableEq κ] [DecidableEq ν] : DecidableEq (Entries κ ν) := fun entries other =>
  decidable_of_iff (entries.toList = other.toList) <| by
    cases entries
    cases other
    simp

end Entries

end Boundary
