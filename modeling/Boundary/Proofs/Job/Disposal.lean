import Boundary.Job.Await
import Boundary.Proofs.Call.Checking
import Boundary.Proofs.Call.InProcess

/-! # What is left of a result

A result carries a value and a status, each of which may have an allocation of its own. A result
that is discarded leaves neither on record (`Boundary.JobResult.sheds_discard`). One that is read
leaves the value on record if the status says that the call went well, nothing if it says anything
else, and everything if reading the declared error panics (`Boundary.JobAwait.reads_resolve`).
-/

namespace Boundary

/-! ## Allocations that go off the record -/

namespace Ledger

/-- The allocations went off the record, and nothing else changed there. -/
def Sheds (before after : Ledger) (addresses : List Address) : Prop :=
  ∀ address, after.find? address = if address ∈ addresses then none else before.find? address

variable {before between after : Ledger} {addresses others : List Address}

theorem Sheds.refl (ledger : Ledger) : ledger.Sheds ledger [] := fun _ => rfl

/-- What is shed in two steps is shed. -/
theorem Sheds.trans (first : before.Sheds between addresses)
    (second : between.Sheds after others) : before.Sheds after (addresses ++ others) := by
  intro address
  rw [second address, first address]
  by_cases later : address ∈ others
  · rw [if_pos later, if_pos (List.mem_append_right _ later)]
  · rw [if_neg later]
    by_cases sooner : address ∈ addresses
    · rw [if_pos sooner, if_pos (List.mem_append_left _ sooner)]
    · rw [if_neg sooner, if_neg (List.not_mem_append sooner later)]

theorem Sheds.find?_of_not_mem (sheds : before.Sheds after addresses) {address : Address}
    (apart : address ∉ addresses) : after.find? address = before.find? address :=
  (sheds address).trans (if_neg apart)

theorem Sheds.find?_of_mem (sheds : before.Sheds after addresses) {address : Address}
    (gone : address ∈ addresses) : after.find? address = none :=
  (sheds address).trans (if_pos gone)

theorem Sheds.swap (sheds : before.Sheds after (addresses ++ others)) :
    before.Sheds after (others ++ addresses) := by
  intro address
  rw [sheds address]
  simp only [List.mem_append, Or.comm]

end Ledger

namespace Buffer

variable {buffer : Buffer} {before after : Ledger}

/-- The allocation of the buffer, if it has one. -/
def allocations (buffer : Buffer) : List Address := buffer.address.toList

/-- The ledger has the allocation of the buffer on record as the buffer describes it. -/
def Owned (buffer : Buffer) (ledger : Ledger) : Prop := ∃ data, buffer.Holds ledger data

/-- What there is to check of a buffer that is owned. -/
def isOwned (buffer : Buffer) (ledger : Ledger) : Bool :=
  match buffer.address with
  | none => buffer = .empty
  | some address =>
    0 < buffer.capacity && buffer.length ≤ buffer.capacity && buffer.length ≤ maxLength &&
      ledger.isLive address buffer.capacity

/-- Whether a buffer is owned is decided by reading the ledger. -/
theorem isOwned_iff {ledger : Ledger} : buffer.isOwned ledger = true ↔ buffer.Owned ledger := by
  constructor
  · obtain ⟨capacity, length, _ | address⟩ := buffer
    · intro owned
      cases of_decide_eq_true owned
      exact ⟨[], .nothing⟩
    · intro owned
      obtain ⟨⟨⟨positive, fits⟩, short⟩, live⟩ : ((0 < capacity ∧ length ≤ capacity) ∧
          length ≤ maxLength) ∧ ledger.isLive address capacity := by
        simpa only [isOwned, Bool.and_eq_true, decide_eq_true_eq] using owned
      obtain ⟨contents, found⟩ := Ledger.isLive_iff.mp live
      exact ⟨_, .recorded found positive fits short rfl⟩
  · rintro ⟨data, holds⟩
    cases holds with
    | nothing => rfl
    | recorded found positive fits short same =>
        have live := Ledger.isLive_iff.mpr ⟨_, found⟩
        simp only [isOwned, Bool.and_eq_true, decide_eq_true_eq]
        exact ⟨⟨⟨positive, fits⟩, short⟩, live⟩

instance (buffer : Buffer) (ledger : Ledger) : Decidable (buffer.Owned ledger) :=
  decidable_of_iff (buffer.isOwned ledger = true) isOwned_iff

/-- Releasing a buffer sheds its allocation. -/
theorem sheds_releasedFrom (buffer : Buffer) (ledger : Ledger) :
    ledger.Sheds (buffer.releasedFrom ledger) buffer.allocations := by
  intro address
  unfold releasedFrom allocations
  cases buffer.address with
  | none => rfl
  | some located =>
      rw [Ledger.find?_erase]
      simp only [Option.toList_some, List.mem_singleton]

/-- Only the allocation of the buffer itself matters. -/
theorem Owned.congr (owned : buffer.Owned before)
    (same : ∀ address ∈ buffer.allocations, after.find? address = before.find? address) :
    buffer.Owned after := by
  obtain ⟨data, holds⟩ := owned
  exact ⟨data, holds.congr fun address located => same address (Option.mem_toList.mpr located)⟩

/-- The allocation of an owned buffer is on record. -/
theorem Owned.isSome_find? (owned : buffer.Owned before) {address : Address}
    (own : address ∈ buffer.allocations) : (before.find? address).isSome = true := by
  obtain ⟨data, holds⟩ := owned
  cases holds with
  | nothing => cases own
  | recorded found _ _ _ _ =>
      cases List.mem_singleton.mp own
      rw [found]
      rfl

end Buffer

/-- The allocation of what is passed, if it is a buffer that has one. -/
def Passed.allocations : Passed → List Address
  | .buffer own => own.allocations
  | .void | .word _ _ => []

/-- A buffer that is passed is owned. -/
def Passed.Owned (value : Passed) (ledger : Ledger) : Prop :=
  match value with
  | .buffer own => own.Owned ledger
  | .void | .word _ _ => True

instance (value : Passed) (ledger : Ledger) : Decidable (value.Owned ledger) :=
  match value with
  | .buffer own => inferInstanceAs (Decidable (own.Owned ledger))
  | .void | .word _ _ => inferInstanceAs (Decidable True)

/-- Whether a value is owned depends on its own allocations only. -/
theorem Passed.Owned.congr {value : Passed} {before after : Ledger} (owned : value.Owned before)
    (same : ∀ address ∈ value.allocations, after.find? address = before.find? address) :
    value.Owned after := by
  cases value with
  | buffer own => exact Buffer.Owned.congr owned same
  | _ => exact trivial

namespace JobResult

variable {result : JobResult} {before after ledger : Ledger} {buffer : Buffer} {data : Bytes}

/-- The allocations of the value and of the status. -/
def allocations (result : JobResult) : List Address :=
  result.value.allocations ++ result.status.errorBuffer.allocations

/-- The buffers of the result are owned. -/
structure Owned (result : JobResult) (ledger : Ledger) : Prop where
  value : result.value.Owned ledger
  status : result.status.errorBuffer.Owned ledger

instance (result : JobResult) (ledger : Ledger) : Decidable (result.Owned ledger) :=
  decidable_of_iff (result.value.Owned ledger ∧ result.status.errorBuffer.Owned ledger)
    ⟨fun both => ⟨both.1, both.2⟩, fun owned => ⟨owned.value, owned.status⟩⟩

theorem Owned.congr (owned : result.Owned before)
    (same : ∀ address ∈ result.allocations, after.find? address = before.find? address) :
    result.Owned after where
  value := owned.value.congr fun address own => same address (List.mem_append_left _ own)
  status := owned.status.congr fun address own => same address (List.mem_append_right _ own)

/-- The allocations of an owned result are on record. -/
theorem Owned.isSome_find? (owned : result.Owned ledger) {address : Address}
    (own : address ∈ result.allocations) : (ledger.find? address).isSome = true := by
  obtain ⟨value, status⟩ := result
  rcases List.mem_append.mp own with passed | explains
  · cases value with
    | buffer own => exact Buffer.Owned.isSome_find? owned.value passed
    | _ => cases passed
  · exact owned.status.isSome_find? explains

/-! ## A result that is discarded -/

/-- Discarding an owned buffer sheds it. -/
theorem sheds_discardBuffer (owned : buffer.Owned ledger) :
    ledger.Sheds (discardBuffer buffer ledger).2 buffer.allocations := by
  obtain ⟨data, holds⟩ := owned
  have freed : (Act.ofReporting buffer.free).observe ledger =
      (.ok (), buffer.releasedFrom ledger) := by
    refine Act.observe_of_ok ?_
    unfold Act.ofReporting
    rw [holds.free]
  unfold discardBuffer
  rw [bind_apply, freed]
  exact buffer.sheds_releasedFrom ledger

theorem sheds_discardValue {value : Passed} (owned : value.Owned ledger) :
    ledger.Sheds (discardValue value ledger).2 value.allocations := by
  cases value with
  | buffer own => exact sheds_discardBuffer owned
  | _ => exact .refl ledger

/-- **Discarding an owned result sheds its buffers**, that of the value and that of the status. -/
theorem sheds_discard (owned : result.Owned ledger) (apart : result.allocations.Nodup) :
    ledger.Sheds (result.discard ledger).2 result.allocations := by
  have valueGone := sheds_discardValue owned.value
  have kept : result.status.errorBuffer.Owned (discardValue result.value ledger).2 := by
    refine owned.status.congr fun address own => valueGone.find?_of_not_mem fun passed => ?_
    exact (List.nodup_append.mp apart).2.2 address passed address own rfl
  exact valueGone.trans (sheds_discardBuffer kept)

end JobResult

/-! ## A result that is read -/

namespace Caller

variable {σ ε : Type} [Part σ Ledger] {state : σ} {declared : Read ε} {status : Status}

/-- Checking a status lets the result pass and leaves everything as it is, or fails and gives the
buffer of the status back, or panics halfway. -/
theorem checkStatus_cases (declared : Read ε)
    (owned : status.errorBuffer.Owned (Part.get state)) :
    let ran := (inProcess : Caller σ).checkStatus declared status state
    (status.meaning? = some .success ∧ status.errorBuffer.length = 0 ∧ ran = .ok () state) ∨
    (∃ cause, ran = .error (.error cause)
      (Part.set (status.errorBuffer.releasedFrom (Part.get state)) state)) ∨
    ∃ payload data, status.meaning? = some .error ∧
      declared.liftExact data = .error (.panic payload) ∧ ran = .error (.panic payload) state := by
  obtain ⟨data, holds⟩ := owned
  have released := release_inProcess holds
  match meaning : status.meaning? with
  | some .success =>
      by_cases nothing : status.errorBuffer.length = 0
      · exact .inl ⟨rfl, nothing, checkStatus_of_success inProcess declared meaning nothing⟩
      · exact .inr (.inl ⟨_, checkStatus_of_stray declared meaning nothing released⟩)
  | some .error =>
      have checked := checkStatus_of_error declared meaning holds released
      match read : declared.liftExact data with
      | .ok error =>
          rw [read] at checked
          exact .inr (.inl ⟨_, checked⟩)
      | .error (.error cause) =>
          rw [read] at checked
          exact .inr (.inl ⟨_, checked⟩)
      | .error (.panic payload) =>
          rw [read] at checked
          exact .inr (.inr ⟨payload, data, rfl, read, checked⟩)
  | some .panic => exact .inr (.inl ⟨_, checkStatus_of_panic declared meaning holds released⟩)
  | some .cancelled => exact .inr (.inl ⟨_, checkStatus_of_cancelled declared meaning released⟩)
  | none => exact .inr (.inl ⟨_, checkStatus_of_unknown declared meaning released⟩)

end Caller

namespace JobAwait

variable {σ ε : Type} [Part σ Ledger] {caller : Caller σ} {state : σ} {declared : Read ε}
  {result : JobResult}

/-- What reading a result can come to, and what it leaves. -/
inductive Reads (declared : Read ε) (result : JobResult) (state : σ) :
    Outcome (CallError ε) Passed × σ → Prop
  | passed : result.status.meaning? = some .success → result.status.errorBuffer.length = 0 →
      Reads declared result state (.ok result.value, state)
  | failed {cause : CallError ε} {after : Ledger} :
      (Part.get state : Ledger).Sheds after result.allocations →
      Reads declared result state (.error (.error cause), Part.set after state)
  /-- Reading the declared error panicked. -/
  | unwound {payload : PanicPayload} {data : Bytes} : result.status.meaning? = some .error →
      declared.liftExact data = .error (.panic payload) →
      Reads declared result state (.error (.panic payload), state)

/-- A result of a call that went well yields its value. -/
theorem resolve_of_ok {after : σ}
    (checked : caller.checkStatus declared result.status state = .ok () after) :
    (resolve caller declared result).observe state = (.ok result.value, after) := by
  refine Act.observe_of_ok ?_
  unfold resolve
  rw [Act.bind_ofTotal, Act.observe_of_ok checked]
  rfl

/-- A result with a status that tells of an error is answered with it, and its value is discarded.
-/
theorem resolve_of_error {cause : CallError ε} {after : σ}
    (checked : caller.checkStatus declared result.status state = .error (.error cause) after) :
    (resolve caller declared result).observe state =
      (.error (.error cause), (onPart (JobResult.discardValue result.value) after).2) := by
  refine Act.observe_of_error ?_
  unfold resolve
  rw [Act.bind_ofTotal, Act.observe_of_error checked]
  rfl

/-- A status whose lifting panics keeps the value from being discarded. -/
theorem resolve_of_panic {payload : PanicPayload} {after : σ}
    (checked : caller.checkStatus declared result.status state = .error (.panic payload) after) :
    (resolve caller declared result).observe state = (.error (.panic payload), after) := by
  refine Act.observe_of_error ?_
  unfold resolve
  rw [Act.bind_ofTotal, Act.observe_of_error checked]
  rfl

/-- **Resolving a result reads its buffers**, and releases what is not passed on. -/
theorem reads_resolve (owned : result.Owned (Part.get state))
    (apart : result.allocations.Nodup) :
    Reads declared result state
      ((resolve Caller.inProcess declared result).observe state) := by
  rcases Caller.checkStatus_cases declared owned.status with
    ⟨well, nothing, checked⟩ | ⟨cause, checked⟩ | ⟨payload, data, failed, read, checked⟩
  · rw [resolve_of_ok checked]
    exact .passed well nothing
  · let left := result.status.errorBuffer.releasedFrom (Part.get state)
    have gone := result.status.errorBuffer.sheds_releasedFrom (Part.get state)
    have kept : result.value.Owned left :=
      owned.value.congr fun address passed => gone.find?_of_not_mem fun own =>
        (List.nodup_append.mp apart).2.2 address passed address own rfl
    rw [resolve_of_error checked, onPart_apply, Part.get_set, Part.set_set]
    exact .failed (gone.trans (JobResult.sheds_discardValue kept)).swap
  · rw [resolve_of_panic checked]
    exact .unwound failed read

end JobAwait

end Boundary
