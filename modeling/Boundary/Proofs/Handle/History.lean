import Boundary.Proofs.Handle.Latest
import Mathlib.Data.List.Nodup

/-! # The history of a table

What was asked of a table, and what it answered, makes its history: the handles that it
issued with the objects they were issued for, and those that were taken out again
(`Boundary.Table.History`). A handle that was cloned is issued for the object of its source.

As long as there are numbers left, a table is told by its history
(`Boundary.Table.issued_handles_are_accounted_for`): the handles are distinct and valid, a
handle serves its object from when it is issued until it is taken out, every other handle
is refused and changes nothing, and the size is the number of handles not yet taken out.
-/

namespace Boundary

namespace Table

variable {α γ : Type}

/-- What can be asked of a table. The result of work on an object is of type `γ`. -/
inductive Request (α γ : Type) where
  | insert (object : α)
  | get (handle : Handle)
  /-- Works on the object under a handle without taking it out. -/
  | use (handle : Handle) (work : α → γ)
  | remove (handle : Handle)
  | contains (handle : Handle)
  | clone (handle : Handle)

/-- What a table answers. -/
inductive Answer (α γ : Type) where
  | issued (handle : Except HandleError Handle)
  | object (object : Except HandleError α)
  | result (result : Except HandleError γ)
  | known (known : Bool)

/-- The answer to a request, and the table after it. -/
def Request.answer (table : Table α) : Request α γ → Answer α γ × Table α
  | insert object => (.issued (table.insert object).1, (table.insert object).2)
  | get handle => (.object (table.get handle), table)
  | use handle work => (.result ((table.get handle).map work), table)
  | remove handle =>
    match table.remove handle with
    | .ok (object, after) => (.object (.ok object), after)
    | .error cause => (.object (.error cause), table)
  | contains handle => (.known (table.contains handle), table)
  | clone handle => (.issued (table.cloneHandle handle).1, (table.cloneHandle handle).2)

/-- What the requests to a table and its answers tell about it. -/
structure History (α : Type) where
  /-- The handles that were issued, in order. -/
  handles : List Handle
  /-- The objects that they were issued for. -/
  issued : List (Handle × α)
  /-- The handles that were taken out. -/
  removed : List Handle
  /-- How often a handle was to be issued for an object. -/
  insertions : Nat

namespace History

/-- The history of a table that was asked nothing. -/
def empty : History α := ⟨[], [], [], 0⟩

/-- A handle was issued, for the given object if it is known. -/
def issue (history : History α) (handle : Handle) (object? : Option α) : History α :=
  { history with
    handles := history.handles ++ [handle]
    issued := history.issued ++ (object?.map fun object => (handle, object)).toList
    insertions := history.insertions + 1 }

/-- A handle was to be issued, but none was left. -/
def exhaust (history : History α) : History α :=
  { history with insertions := history.insertions + 1 }

/-- A handle was taken out. -/
def remove (history : History α) (handle : Handle) : History α :=
  { history with removed := history.removed ++ [handle] }

/-- Notes a request and its answer. -/
def note (history : History α) : Request α γ → Answer α γ → History α
  | .insert object, .issued (.ok handle) => history.issue handle (some object)
  | .clone source, .issued (.ok handle) => history.issue handle (history.issued.lookup source)
  | .insert _, .issued (.error (.exhausted _)) => history.exhaust
  | .clone _, .issued (.error (.exhausted _)) => history.exhaust
  | .remove handle, .object (.ok _) => history.remove handle
  | _, _ => history

end History

/-- A table with its history. -/
structure Recorded (α : Type) where
  table : Table α
  history : History α

namespace Recorded

/-- A table that was asked nothing yet. -/
def start (name : String) : Recorded α := ⟨named name, .empty⟩

/-- Answers a request and notes it. -/
def step (recorded : Recorded α) (request : Request α γ) : Recorded α :=
  ⟨(request.answer recorded.table).2,
    recorded.history.note request (request.answer recorded.table).1⟩

/-- Answers requests in order. -/
def run (requests : List (Request α γ)) (recorded : Recorded α) : Recorded α :=
  requests.foldl step recorded

end Recorded

/-- The table answers every request for the handle with the object. A clone is issued as a
handle for the object itself would be. -/
structure Serves (γ : Type) (table : Table α) (handle : Handle) (object : α) : Prop where
  get : (Request.get handle : Request α γ).answer table = (.object (.ok object), table)
  use : ∀ work : α → γ, (Request.use handle work).answer table =
    (.result (.ok (work object)), table)
  contains : (Request.contains handle : Request α γ).answer table = (.known true, table)
  remove : (Request.remove handle : Request α γ).answer table =
    (.object (.ok object), table.erase handle)
  clone : (Request.clone handle : Request α γ).answer table = (Request.insert object).answer table

/-- The table rejects every request for the handle, and stays as it is. -/
structure Refuses (γ : Type) (table : Table α) (handle : Handle) : Prop where
  get : (Request.get handle : Request α γ).answer table =
    (.object (.error (.invalidHandle table.name "get" handle)), table)
  use : ∀ work : α → γ, (Request.use handle work).answer table =
    (.result (.error (.invalidHandle table.name "get" handle)), table)
  contains : (Request.contains handle : Request α γ).answer table = (.known false, table)
  remove : (Request.remove handle : Request α γ).answer table =
    (.object (.error (.invalidHandle table.name "remove" handle)), table)
  clone : (Request.clone handle : Request α γ).answer table =
    (.issued (.error (.invalidHandle table.name "get" handle)), table)

section Answers

variable {table : Table α} {handle : Handle}

/-- A table serves a handle under which it finds an object. -/
theorem serves_of_find? {object : α} (found : table.find? handle = some object) :
    Serves γ table handle object := by
  have got : table.get handle = .ok object := by
    unfold Table.get
    rw [found]
  have taken : table.remove handle = .ok (object, table.erase handle) := by
    unfold Table.remove
    rw [found]
  have known : table.contains handle = true := congrArg Option.isSome found
  have cloned : table.cloneHandle handle = table.insert object := by
    unfold Table.cloneHandle
    rw [got]
  exact {
    get := by rw [Request.answer, got]
    use := fun work => by
      rw [Request.answer, got]
      rfl
    contains := by rw [Request.answer, known]
    remove := by rw [Request.answer, taken]
    clone := by rw [Request.answer, Request.answer, cloned] }

/-- A table refuses a handle under which it finds nothing. -/
theorem refuses_of_find?_eq_none (unknown : table.find? handle = none) :
    Refuses γ table handle := by
  have refused : table.get handle = .error (.invalidHandle table.name "get" handle) := by
    unfold Table.get
    rw [unknown]
  have kept : table.remove handle = .error (.invalidHandle table.name "remove" handle) := by
    unfold Table.remove
    rw [unknown]
  have absent : table.contains handle = false := congrArg Option.isSome unknown
  have uncloned : table.cloneHandle handle =
      (.error (.invalidHandle table.name "get" handle), table) := by
    unfold Table.cloneHandle
    rw [refused]
  exact {
    get := by rw [Request.answer, refused]
    use := fun work => by
      rw [Request.answer, refused]
      rfl
    contains := by rw [Request.answer, absent]
    remove := by rw [Request.answer, kept]
    clone := by rw [Request.answer, uncloned] }

/-- A table without numbers left issues no handle. -/
theorem insert_of_full (full : ¬table.next ≤ Handle.greatest) (object : α) :
    table.insert object = (.error (.exhausted table.name), table.later 1) :=
  if_neg full

end Answers

/-- Under distinct handles an object is found just if it is listed. -/
theorem lookup_eq_some_iff_mem {entries : List (Handle × α)}
    (distinct : (entries.map Prod.fst).Nodup) {handle : Handle} {object : α} :
    entries.lookup handle = some object ↔ (handle, object) ∈ entries := by
  induction entries with
  | nil => simp
  | cons first rest ih =>
      obtain ⟨listed, given⟩ := first
      rw [List.map_cons, List.nodup_cons] at distinct
      rw [List.lookup_cons, List.mem_cons, Prod.mk.injEq]
      by_cases same : handle = listed
      · subst same
        have unlisted : (handle, object) ∉ rest :=
          fun member => distinct.1 (List.mem_map.mpr ⟨_, member, rfl⟩)
        simp [unlisted, eq_comm]
      · simp [beq_eq_false_iff_ne.mpr same, same, ih distinct.2]

/-- What the history of a table says of it, whatever was asked. -/
structure Sound (recorded : Recorded α) : Prop where
  next : recorded.table.next = 1 + recorded.history.insertions
  kept : recorded.table.entries =
    recorded.history.issued.filter fun entry => entry.1 ∉ recorded.history.removed
  issued : recorded.history.issued.map Prod.fst = recorded.history.handles
  granted : recorded.history.handles.length = min recorded.history.insertions Handle.greatest
  distinct : recorded.history.handles.Nodup
  valid : ∀ handle ∈ recorded.history.handles, handle.isValid
  below : ∀ handle ∈ recorded.history.handles, handle.raw.toNat < recorded.table.next
  removed : ∀ handle ∈ recorded.history.removed, handle ∈ recorded.history.handles

namespace Sound

variable {recorded : Recorded α} {handle : Handle} {object : α}

/-- The history of a new table is empty. -/
theorem start (name : String) : Sound (Recorded.start name : Recorded α) where
  next := rfl
  kept := rfl
  issued := rfl
  granted := rfl
  distinct := List.nodup_nil
  valid := List.forall_mem_nil _
  below := List.forall_mem_nil _
  removed := List.forall_mem_nil _

/-- An object is found under a handle that was issued for it and not taken out. -/
theorem find?_eq_some_iff (sound : Sound recorded) :
    recorded.table.find? handle = some object ↔
      (handle, object) ∈ recorded.history.issued ∧ handle ∉ recorded.history.removed := by
  have distinct : (recorded.table.entries.map Prod.fst).Nodup := by
    rw [sound.kept]
    exact (sound.issued ▸ sound.distinct).sublist (List.filter_sublist.map _)
  rw [find?, lookup_eq_some_iff_mem distinct, sound.kept, List.mem_filter, decide_eq_true_iff]

theorem mem_handles (sound : Sound recorded) (member : (handle, object) ∈ recorded.history.issued) :
    handle ∈ recorded.history.handles :=
  sound.issued ▸ List.mem_map.mpr ⟨_, member, rfl⟩

/-- The next number makes a handle that was not issued before. -/
theorem holding (sound : Sound recorded) (room : recorded.table.next ≤ Handle.greatest)
    (object : α) : Sound ⟨recorded.table.holding recorded.table.upcoming object,
      recorded.history.issue recorded.table.upcoming (some object)⟩ := by
  have number := toNat_upcoming room
  have fresh : recorded.table.upcoming ∉ recorded.history.handles := by
    intro member
    have below := sound.below _ member
    omega
  have unremoved : recorded.table.upcoming ∉ recorded.history.removed :=
    fun member => fresh (sound.removed _ member)
  have next := sound.next
  have granted := sound.granted
  refine ⟨?next, ?kept, ?issued, ?granted, ?distinct, ?valid, ?below, ?removed⟩
  case next =>
    simp only [Table.holding, History.issue]
    omega
  case kept =>
    have new : [(recorded.table.upcoming, object)].filter
        (fun entry => entry.1 ∉ recorded.history.removed) = [(recorded.table.upcoming, object)] :=
      List.filter_cons_of_pos (decide_eq_true unremoved)
    change recorded.table.entries ++ [(recorded.table.upcoming, object)] =
      (recorded.history.issued ++ [(recorded.table.upcoming, object)]).filter
        fun entry => entry.1 ∉ recorded.history.removed
    rw [List.filter_append, new, sound.kept]
  case issued => simp [History.issue, sound.issued]
  case granted =>
    simp only [History.issue, List.length_append, List.length_singleton]
    omega
  case distinct =>
    exact List.nodup_append.mpr ⟨sound.distinct, List.nodup_singleton _, fun _ member _ new same =>
      fresh (List.mem_singleton.mp new ▸ same ▸ member)⟩
  case valid =>
    refine List.forall_mem_append.mpr ⟨sound.valid, List.forall_mem_singleton.mpr ?_⟩
    rw [Handle.isValid, number, Bool.and_eq_true, decide_eq_true_iff, decide_eq_true_iff]
    omega
  case below =>
    refine List.forall_mem_append.mpr ⟨fun other member => ?_, List.forall_mem_singleton.mpr ?_⟩
    · exact Nat.lt_succ_of_lt (sound.below other member)
    · exact number ▸ Nat.lt_succ_self _
  case removed => exact fun other member => List.mem_append_left _ (sound.removed other member)

/-- A number that is too great for a handle is used up. -/
theorem exhaust (sound : Sound recorded) (full : ¬recorded.table.next ≤ Handle.greatest) :
    Sound ⟨recorded.table.later 1, recorded.history.exhaust⟩ := by
  have next := sound.next
  have granted := sound.granted
  exact {
    sound with
    next := by
      simp only [Table.later, History.exhaust]
      omega
    granted := by
      simp only [History.exhaust]
      omega
    below := fun other member => Nat.lt_succ_of_lt (sound.below other member) }

/-- Removing a handle is told by the history. -/
theorem erase (sound : Sound recorded) (issued : handle ∈ recorded.history.handles) :
    Sound ⟨recorded.table.erase handle, recorded.history.remove handle⟩ := by
  have kept : (recorded.table.erase handle).entries = recorded.history.issued.filter
      fun entry => entry.1 ∉ recorded.history.removed ++ [handle] := by
    simp only [Table.erase, sound.kept, List.filter_filter]
    refine List.filter_congr fun entry _ => ?_
    by_cases same : entry.1 = handle <;> simp [same]
  exact {
    sound with
    kept := kept
    removed := List.forall_mem_append.mpr ⟨sound.removed, List.forall_mem_singleton.mpr issued⟩ }

/-- A handle that a table issues is noted for the object, whatever led to it. -/
theorem insert (sound : Sound recorded) {request : Request α γ} (object : α)
    (inserts : request.answer recorded.table = (Request.insert object).answer recorded.table)
    (noted : ∀ issued, recorded.history.note request (.issued issued) =
      recorded.history.note (.insert object : Request α γ) (.issued issued)) :
    Sound (recorded.step request) := by
  rw [Recorded.step, inserts, Request.answer, noted]
  by_cases room : recorded.table.next ≤ Handle.greatest
  · rw [insert_of_room room]
    exact sound.holding room object
  · rw [insert_of_full room]
    exact sound.exhaust room

/-- **What a request does is told by the history.** -/
theorem step (sound : Sound recorded) (request : Request α γ) : Sound (recorded.step request) := by
  cases request with
  | insert object => exact sound.insert object rfl fun _ => rfl
  | get _ | use _ _ | contains _ => exact sound
  | remove handle =>
      cases found : recorded.table.find? handle with
      | none =>
          have refused := (refuses_of_find?_eq_none (γ := γ) found).remove
          rw [Recorded.step, refused]
          exact sound
      | some object =>
          have taken := (serves_of_find? (γ := γ) found).remove
          rw [Recorded.step, taken]
          exact sound.erase (sound.mem_handles (sound.find?_eq_some_iff.mp found).1)
  | clone source =>
      cases found : recorded.table.find? source with
      | none =>
          have refused := (refuses_of_find?_eq_none (γ := γ) found).clone
          rw [Recorded.step, refused]
          exact sound
      | some object =>
          -- The source is noted for the object that the table has under it.
          have distinct : (recorded.history.issued.map Prod.fst).Nodup :=
            sound.issued ▸ sound.distinct
          have noted : recorded.history.issued.lookup source = some object :=
            (lookup_eq_some_iff_mem distinct).mpr (sound.find?_eq_some_iff.mp found).1
          refine sound.insert object (serves_of_find? found).clone fun issued => ?_
          cases issued with
          | error cause => cases cause <;> rfl
          | ok handle => rw [History.note, History.note, noted]

theorem run (sound : Sound recorded) (requests : List (Request α γ)) :
    Sound (recorded.run requests) := by
  induction requests generalizing recorded with
  | nil => exact sound
  | cons request rest ih => exact ih (sound.step request)

end Sound

/-- What can be relied on while a table has numbers left. -/
structure Accounted (γ : Type) (recorded : Recorded α) : Prop where
  /-- No two handles that were ever issued are the same. -/
  distinct : recorded.history.handles.Nodup
  valid : ∀ handle ∈ recorded.history.handles, handle.isValid
  /-- Each handle that was to be issued was issued. -/
  granted : recorded.history.handles.length = recorded.history.insertions
  /-- Each handle was issued for an object. -/
  issued : recorded.history.issued.map Prod.fst = recorded.history.handles
  /-- A handle that was not taken out has the object it was issued for. -/
  serves : ∀ handle object, (handle, object) ∈ recorded.history.issued →
    handle ∉ recorded.history.removed → Serves γ recorded.table handle object
  /-- A handle that was not issued or was taken out has nothing. -/
  refuses : ∀ handle, (handle ∈ recorded.history.handles → handle ∈ recorded.history.removed) →
    Refuses γ recorded.table handle
  /-- The null handle and the reserved ones never have anything. -/
  invalid : ∀ handle : Handle, handle.isValid = false → Refuses γ recorded.table handle
  size : recorded.table.size =
    recorded.history.handles.countP fun handle => handle ∉ recorded.history.removed

/-- A history that tells what happened accounts for the handles. -/
theorem Sound.accounts {recorded : Recorded α} (sound : Sound recorded)
    (few : recorded.history.insertions < signedLimit) : Accounted γ recorded := by
  have refuses (handle : Handle) (gone : handle ∈ recorded.history.handles →
      handle ∈ recorded.history.removed) : Refuses γ recorded.table handle := by
    refine refuses_of_find?_eq_none (Option.eq_none_iff_forall_ne_some.mpr fun object found => ?_)
    obtain ⟨issued, kept⟩ := sound.find?_eq_some_iff.mp found
    exact kept (gone (sound.mem_handles issued))
  have granted := sound.granted
  refine ⟨sound.distinct, sound.valid, ?granted, sound.issued, ?serves, refuses, ?invalid, ?size⟩
  case granted =>
    unfold Handle.greatest at granted
    omega
  case serves =>
    intro handle object issued kept
    exact serves_of_find? (sound.find?_eq_some_iff.mpr ⟨issued, kept⟩)
  case invalid =>
    intro handle invalid
    refine refuses handle fun member => ?_
    rw [sound.valid handle member] at invalid
    cases invalid
  case size =>
    rw [Table.size, sound.kept, ← sound.issued, List.countP_map, List.countP_eq_length_filter]
    rfl

/-- **A table is told by its history**: after any requests that issue fewer handles than
there are, the handles that were issued are distinct and valid, each that was not taken out
serves the object it was issued for, and all others are refused. -/
theorem issued_handles_are_accounted_for (name : String) (requests : List (Request α γ))
    (few : ((Recorded.start name : Recorded α).run requests).history.insertions < signedLimit) :
    Accounted γ ((Recorded.start name : Recorded α).run requests) :=
  ((Sound.start name).run requests).accounts few

/-- Two objects with equal contents. One is cloned and its first handle taken out, so that
a second clone of it fails. -/
def sharing : List (Request (Shared Nat) Nat) :=
  [.insert ⟨1, 40⟩, .insert ⟨2, 40⟩, .clone ⟨1⟩, .remove ⟨1⟩, .clone ⟨1⟩,
    .use ⟨3⟩ Shared.contents, .get .null]

theorem shared_handles_are_accounted_for :
    ((Recorded.start "objects").run sharing).history.insertions < signedLimit ∧
      Accounted Nat ((Recorded.start "objects").run sharing) := by
  have few : ((Recorded.start "objects").run sharing).history.insertions < signedLimit := by decide
  exact ⟨few, issued_handles_are_accounted_for "objects" sharing few⟩

end Table

end Boundary
