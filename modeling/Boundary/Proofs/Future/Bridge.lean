import Boundary.Future.Await
import Boundary.Proofs.Future.Driver
import Boundary.Proofs.Handle.Promise
import Mathlib.Logic.Function.Basic
import Mathlib.Logic.Relation

/-! # A core with several registries, and its host

A core keeps its futures in several registries, and a host in the same process has one table of
continuations for all of them (`Boundary.Bridge`). What matters to a continuation is where it
is stored and whether it is still there. Of that, an entry point changes little at a time
(`Boundary.Bridge.Change`): the slot of a future decides what to do, is silenced, or goes
away, and a decision resumes the continuation that it does not keep
(`Boundary.Slot.Careful`). Each entry point is made of such changes
(`Boundary.Bridge.Does`).
-/

namespace Boundary

/-- A registry of a core that has several of them, without the ledger that they share. -/
structure Registry where
  channel : Channel
  table : Table CoreFuture
  wakers : List Handle

/-- A core with registries of futures, and the continuations of a host in the same process. -/
structure Bridge (ι : Type) where
  ledger : Ledger
  registries : ι → Registry
  continuations : Continuations

/-- A decision about a slot loses no continuation: one that waits goes on waiting or is resumed.
What was cancelled stays so. -/
structure Slot.Careful (decision : Slot → Option Signal × Slot) : Prop where
  cancelled : (decision .cancelled).2 = .cancelled
  waiting : ∀ data, (decision (.waiting data)).2 = .waiting data ∨
    ∃ code, (decision (.waiting data)).1 = some ⟨data, code⟩

namespace Slot

/-- A wake takes a stored continuation only to signal it. -/
theorem careful_wake : Careful wake := ⟨rfl, fun _ => .inr ⟨.wake, rfl⟩⟩

/-- Storing a continuation takes an older one only to signal it. -/
theorem careful_store (data : UInt64) : Careful (store data) := ⟨rfl, fun _ => .inr ⟨.wake, rfl⟩⟩

/-- What a poll decides that finds the future finished. -/
def ready (data : UInt64) (slot : Slot) : Option Signal × Slot :=
  (if slot.isCancelled then none else some ⟨data, .ready⟩, slot)

/-- READY leaves what is stored where it is. -/
theorem careful_ready (data : UInt64) : Careful (ready data) := ⟨rfl, fun _ => .inl rfl⟩

end Slot

namespace Bridge

variable {ι α β : Type}

instance : Part (Bridge ι) Ledger where
  get bridge := bridge.ledger
  set ledger bridge := { bridge with ledger := ledger }
  get_set _ _ := rfl
  set_get _ := rfl
  set_set _ _ _ := rfl

instance : Part (Bridge ι) Continuations where
  get bridge := bridge.continuations
  set continuations bridge := { bridge with continuations := continuations }
  get_set _ _ := rfl
  set_get _ := rfl
  set_set _ _ _ := rfl

/-- A callback resumes a continuation of the host. -/
def host : FutureHost (Bridge ι) where
  polled _ := return
  dropped _ := return
  resume data code := onPart (Continuations.resume data code.number)

/-- The slot of the future that a registry has under a handle. -/
def slot? (bridge : Bridge ι) (index : ι) (handle : Handle) : Option Slot :=
  ((bridge.registries index).table.find? handle).map CoreFuture.slot

/-- The number of the handle that a registry issues next. -/
def next (bridge : Bridge ι) (index : ι) : Nat := (bridge.registries index).table.next

/-- The continuations once a signal was sent, if there is one to send. -/
def resumed : Option Signal → Continuations → Continuations
  | none, continuations => continuations
  | some signal, continuations =>
    (Continuations.resume signal.data signal.code.number continuations).2

/-! ## What can change -/

/-- A registry has another slot under a handle, and nothing else happened to the slots. -/
structure Puts (before after : Bridge ι) (index : ι) (handle : Handle) (slot : Option Slot) :
    Prop where
  here : after.slot? index handle = slot
  elsewhere : ∀ i h, ¬ (i = index ∧ h = handle) → after.slot? i h = before.slot? i h
  next : ∀ i, after.next i = before.next i

/-- What happens at a time, as far as continuations are concerned. A continuation is forgotten
only if it is one of those that may be. -/
inductive Change (forgets : Handle → Prop) (before after : Bridge ι) : Prop
  /-- Registries may issue handles, and do nothing else to the slots. -/
  | quiet : (∀ i h, h.raw.toNat < before.next i → after.slot? i h = before.slot? i h) →
      (∀ i, before.next i ≤ after.next i) → after.continuations = before.continuations →
      Change forgets before after
  | decided {index : ι} {handle : Handle} {slot : Slot}
      {decision : Slot → Option Signal × Slot} : Slot.Careful decision →
      before.slot? index handle = some slot →
      Puts before after index handle (decision slot).2 →
      after.continuations = resumed (decision slot).1 before.continuations →
      Change forgets before after
  | silenced {index : ι} {handle : Handle} : (before.slot? index handle).isSome →
      Puts before after index handle (some .cancelled) →
      after.continuations = before.continuations → Change forgets before after
  | erased {index : ι} {handle : Handle} : Puts before after index handle none →
      after.continuations = before.continuations → Change forgets before after
  | made : after.registries = before.registries →
      after.continuations = (Promises.make () before.continuations).2 →
      Change forgets before after
  | forgot {continuation : Handle} : forgets continuation →
      after.registries = before.registries →
      after.continuations = (Promises.forget continuation before.continuations).2 →
      Change forgets before after

/-- One change after the other. -/
abbrev Changes (forgets : Handle → Prop) : Bridge ι → Bridge ι → Prop :=
  Relation.ReflTransGen (Change forgets)

/-- The computation makes such changes and no others. -/
def Does (forgets : Handle → Prop) (act : StateM (Bridge ι) α) : Prop :=
  ∀ bridge, Changes forgets bridge (act bridge).2

variable {forgets more : Handle → Prop} {before after bridge : Bridge ι} {index : ι}
  {handle : Handle}

/-- A change that forgets less is one that forgets more. -/
theorem Change.mono (wider : ∀ handle, forgets handle → more handle)
    (change : Change forgets before after) : Change more before after := by
  cases change with
  | quiet slots next same => exact .quiet slots next same
  | decided careful found puts resumes => exact .decided careful found puts resumes
  | silenced found puts same => exact .silenced found puts same
  | erased puts same => exact .erased puts same
  | made registries makes => exact .made registries makes
  | forgot allowed registries forgot => exact .forgot (wider _ allowed) registries forgot

theorem Changes.mono (wider : ∀ handle, forgets handle → more handle)
    (changes : Changes forgets before after) : Changes more before after :=
  Relation.ReflTransGen.mono (fun _ _ => Change.mono wider) _ _ changes

namespace Does

variable {act : StateM (Bridge ι) α} {rest : α → StateM (Bridge ι) β}

theorem pure (value : α) : Does forgets (pure value : StateM (Bridge ι) α) := fun _ => .refl

theorem bind (first : Does forgets act) (others : ∀ value, Does forgets (rest value)) :
    Does forgets (act >>= rest) := fun bridge => (first bridge).trans (others _ _)

theorem elsewhere (use : StateM Ledger α) :
    Does forgets (onPart use : StateM (Bridge ι) α) :=
  fun _ => .single (.quiet (fun _ _ _ => rfl) (fun _ => Nat.le_refl _) rfl)

end Does

/-! ## What entry points do -/

variable [DecidableEq ι]

/-- One of the registries, with the ledger. -/
@[reducible] def registry (index : ι) : Part (Bridge ι) Futures where
  get bridge :=
    let ⟨channel, table, wakers⟩ := bridge.registries index
    ⟨bridge.ledger, channel, table, wakers⟩
  set futures bridge :=
    { bridge with
      ledger := futures.ledger
      registries := Function.update bridge.registries index
        ⟨futures.channel, futures.table, futures.wakers⟩ }
  get_set futures bridge := by simp only [Function.update_self]
  set_get bridge := by simp only [Function.update_eq_self]
  set_set _ _ _ := by simp only [Function.update_idem]

theorem registries_set (futures : Futures) (bridge : Bridge ι) (i : ι) :
    ((registry index).set futures bridge).registries i =
      if i = index then ⟨futures.channel, futures.table, futures.wakers⟩
      else bridge.registries i :=
  Function.update_apply ..

/-- After one registry is set, its slots are those of its new table. -/
theorem slot?_set (futures : Futures) (bridge : Bridge ι) (i : ι) (handle : Handle) :
    ((registry index).set futures bridge).slot? i handle =
      if i = index then (futures.table.find? handle).map CoreFuture.slot
      else bridge.slot? i handle := by
  unfold slot?
  rw [registries_set]
  split <;> rfl

/-- After one registry is set, its next handle is that of its new table. -/
theorem next_set (futures : Futures) (bridge : Bridge ι) (i : ι) :
    ((registry index).set futures bridge).next i =
      if i = index then futures.table.next else bridge.next i := by
  unfold next
  rw [registries_set]
  split <;> rfl

theorem find?_map_slot (bridge : Bridge ι) (index : ι) (handle : Handle) :
    (((registry index).get bridge).table.find? handle).map CoreFuture.slot =
      bridge.slot? index handle := rfl

/-- The registry with another table. -/
def withTable (index : ι) (table : Table CoreFuture) (bridge : Bridge ι) : Bridge ι :=
  (registry index).set { (registry index).get bridge with table := table } bridge

/-- A table that differs under a handle only. -/
theorem puts_withTable {table : Table CoreFuture}
    (others : ∀ other, other ≠ handle →
      table.find? other = ((registry index).get bridge).table.find? other)
    (next : table.next = ((registry index).get bridge).table.next) :
    Puts bridge (bridge.withTable index table) index handle
      ((table.find? handle).map CoreFuture.slot) where
  here := by
    rw [withTable, slot?_set, if_pos rfl]
  elsewhere i h apart := by
    rw [withTable, slot?_set]
    split
    next same =>
      rw [same, ← find?_map_slot, ← others h fun here => apart ⟨same, here⟩]
    next => rfl
  next i := by
    rw [withTable, next_set]
    split
    next same =>
      rw [same]
      exact next
    next => rfl

/-- Updating a future puts the slot of the changed future. -/
theorem puts_update (bridge : Bridge ι) (index : ι) (handle : Handle)
    (change : CoreFuture → CoreFuture) :
    Puts bridge (bridge.withTable index (((registry index).get bridge).table.update handle change))
      index handle ((((registry index).get bridge).table.find? handle).map
        fun future => (change future).slot) := by
  have updated := Table.find?_update ((registry index).get bridge).table handle
  have puts : Puts bridge (bridge.withTable index
      (((registry index).get bridge).table.update handle change)) index handle _ :=
    puts_withTable (fun other apart => (updated change other).trans (if_neg apart)) rfl
  rw [updated, if_pos rfl, Option.map_map] at puts
  exact puts

/-- Erasing a future puts no slot in its place. -/
theorem puts_erase (bridge : Bridge ι) (index : ι) (handle : Handle) :
    Puts bridge (bridge.withTable index (((registry index).get bridge).table.erase handle))
      index handle none := by
  have erased := Table.find?_erase ((registry index).get bridge).table handle
  have puts : Puts bridge (bridge.withTable index
      (((registry index).get bridge).table.erase handle)) index handle _ :=
    puts_withTable (fun other apart => (erased other).trans (if_neg apart)) rfl
  rw [erased, if_pos rfl] at puts
  exact puts

/-- A registry that issues handles, or changes what slots do not show, changes nothing else. -/
theorem quiet_set {futures : Futures} {bridge : Bridge ι}
    (slots : ∀ handle : Handle, handle.raw.toNat < bridge.next index →
      (futures.table.find? handle).map CoreFuture.slot = bridge.slot? index handle)
    (next : bridge.next index ≤ futures.table.next) :
    Change forgets bridge ((registry index).set futures bridge) := by
  refine .quiet (fun i h issued => ?_) (fun i => ?_) rfl
  · rw [slot?_set]
    split
    next same =>
      subst same
      exact slots h issued
    next => rfl
  · rw [next_set]
    split
    next same =>
      subst same
      exact next
    next => exact Nat.le_refl _

namespace Does

/-- The progress of a future can change without its slot. -/
theorem progress (index : ι) (handle : Handle) (progress : Progress) :
    Does forgets (@onPart _ _ _ (registry index)
      (Futures.update handle fun future => { future with progress := progress })) := by
  intro bridge
  refine .single (quiet_set (fun other _ => ?_) (Nat.le_refl _))
  rw [Table.find?_update]
  split
  · rw [Option.map_map]
    rfl
  · rfl

theorem keepWaker (index : ι) (handle : Handle) :
    Does forgets (@Futures.keepWaker _ (registry index) handle) :=
  fun _ => .single (quiet_set (fun _ _ => rfl) (Nat.le_refl _))

theorem dropWaker (index : ι) (handle : Handle) :
    Does forgets (@Futures.dropWaker _ (registry index) handle) :=
  fun _ => .single (quiet_set (fun _ _ => rfl) (Nat.le_refl _))

end Does

/-- What a decision about the slot of a future comes to. -/
theorem decide_of_find? {future : CoreFuture} {decision : Slot → Option Signal × Slot}
    (found : ((registry index).get bridge).table.find? handle = some future) :
    @Futures.decide _ (registry index) host handle decision bridge =
      ((), { bridge.withTable index (((registry index).get bridge).table.update handle
          fun future' => { future' with slot := (decision future.slot).2 }) with
        continuations := resumed (decision future.slot).1 bridge.continuations }) := by
  unfold Futures.decide
  simp only [bind_apply, Futures.current_apply, found]
  cases (decision future.slot).1 <;> rfl

theorem decide_of_none {decision : Slot → Option Signal × Slot}
    (unknown : ((registry index).get bridge).table.find? handle = none) :
    @Futures.decide _ (registry index) host handle decision bridge = ((), bridge) := by
  unfold Futures.decide
  simp only [bind_apply, pure_apply, Futures.current_apply, unknown]

namespace Does

/-- A careful decision about a slot changes it, and resumes what it takes. -/
theorem decide {decision : Slot → Option Signal × Slot} (careful : Slot.Careful decision)
    (index : ι) (handle : Handle) :
    Does forgets (@Futures.decide _ (registry index) host handle decision) := by
  intro bridge
  cases found : ((registry index).get bridge).table.find? handle with
  | none =>
      rw [decide_of_none found]
  | some future =>
      rw [decide_of_find? found]
      have slot : bridge.slot? index handle = some future.slot := congrArg _ found
      have puts := puts_update bridge index handle
        fun future' => { future' with slot := (decision future.slot).2 }
      rw [found] at puts
      exact .single (.decided careful slot ⟨puts.here, puts.elsewhere, puts.next⟩ rfl)

theorem wake (index : ι) (handle : Handle) :
    Does forgets (@Futures.wake _ (registry index) host handle) :=
  decide Slot.careful_wake index handle

/-- Several wakes only make such changes. -/
theorem wakes (index : ι) (handle : Handle) (times : Nat) :
    Does forgets ((List.replicate times handle).forM
      (@Futures.wake (Bridge ι) (registry index) host)) := by
  induction times with
  | zero => exact pure _
  | succ times ih => exact bind (wake index handle) fun _ => ih

/-- Dropping work wakes at most. -/
theorem dropWork (index : ι) (handle : Handle) (work : Work) :
    Does forgets (@Futures.dropWork _ (registry index) host handle work) := by
  unfold Futures.dropWork
  refine bind (pure _) fun _ => ?_
  split
  · refine bind (fun _ => .refl) fun kept => ?_
    split
    · exact bind (dropWaker index handle) fun _ => wake index handle
    · exact pure _
  · exact pure _

theorem signalReady (index : ι) (handle : Handle) (data : UInt64) :
    Does forgets (@Futures.signalReady _ (registry index) host handle data) :=
  decide (Slot.careful_ready data) index handle

theorem ending (index : ι) (run : StateM Ledger α) :
    Does forgets (@onPart _ _ _ (registry index) (onPart run : StateM Futures α)) :=
  fun _ => .single (quiet_set (fun _ _ => rfl) (Nat.le_refl _))

/-- **A poll only makes such changes.** It wakes, and then stores its continuation or sends READY.
-/
theorem poll (index : ι) (handle : Handle) (data : UInt64) :
    Does forgets (@Futures.poll _ (registry index) host handle data) := by
  unfold Futures.poll
  refine bind (fun _ => .refl) fun futures => ?_
  split
  · exact pure _
  · split
    · exact pure _
    · split
      · refine bind (pure _) fun _ => ?_
        split
        · refine bind (progress index handle _) fun _ => ?_
          have rest (times : Nat) : Does forgets (do
              (List.replicate times handle).forM (@Futures.wake (Bridge ι) (registry index) host)
              @Futures.decide _ (registry index) host handle (Slot.store data)) :=
            bind (wakes index handle times) fun _ => decide (Slot.careful_store data) index handle
          dsimp only
          split
          · exact bind (keepWaker index handle) fun _ => rest _
          · exact rest _
        · refine bind (ending index _) fun ended => ?_
          refine bind (progress index handle _) fun _ => ?_
          exact bind (dropWork index handle _) fun _ => signalReady index handle data
      · exact signalReady index handle data

/-- Discarding work or its outcome wakes at most. -/
theorem discard (index : ι) (handle : Handle) (progress : Progress) :
    Does forgets (@Futures.discard _ (registry index) host handle progress) := by
  unfold Futures.discard
  split
  · exact dropWork index handle _
  · exact pure _

/-- A future that is there is silenced. -/
theorem silence (index : ι) (handle : Handle) {bridge : Bridge ι} {future : CoreFuture}
    (found : ((registry index).get bridge).table.find? handle = some future) :
    Change forgets bridge (@onPart _ _ _ (registry index)
      (Futures.update handle fun _ => ⟨.consumed, .cancelled⟩) bridge).2 := by
  have slot : bridge.slot? index handle = some future.slot := congrArg _ found
  have puts := puts_update bridge index handle fun _ => ⟨.consumed, .cancelled⟩
  rw [found] at puts
  exact .silenced (Option.isSome_of_eq_some slot) puts rfl

/-- Cancelling closes the slot and discards the work. -/
theorem cancel (index : ι) (handle : Handle) :
    Does forgets (@Futures.cancel _ (registry index) host handle) := by
  intro bridge
  unfold Futures.cancel
  simp only [bind_apply, Futures.current_apply]
  cases found : ((registry index).get bridge).table.find? handle with
  | none => exact .refl
  | some future =>
      dsimp only
      split
      · exact .refl
      · exact (Relation.ReflTransGen.single (silence index handle found)).trans
          (discard index handle future.progress _)

/-- Freeing takes the slot away, and discards the work. -/
theorem free (index : ι) (handle : Handle) :
    Does forgets (@Futures.free _ (registry index) host handle) := by
  intro bridge
  unfold Futures.free
  simp only [bind_apply, Futures.current_apply]
  cases found : ((registry index).get bridge).table.find? handle with
  | none => exact .refl
  | some future =>
      have gone : Changes forgets bridge _ :=
        .single (.erased (puts_erase bridge index handle) rfl)
      dsimp only
      split
      · exact gone
      · exact gone.trans (discard index handle future.progress _)

/-- Fetching an outcome changes no slot. -/
theorem complete (index : ι) (handle : Handle) :
    Does forgets (@onPart _ _ _ (registry index) (Futures.complete handle)) := by
  intro bridge
  refine .single ?_
  change Change forgets bridge
    ((registry index).set (Futures.complete handle ((registry index).get bridge)).2 bridge)
  rcases Futures.complete_table handle ((registry index).get bridge) with same | used
  · refine quiet_set (fun other _ => ?_) (Nat.le_of_eq ?_)
    · rw [same]
      rfl
    · rw [same]
      rfl
  · refine quiet_set (fun other _ => ?_) (Nat.le_of_eq ?_)
    · rw [used, Table.find?_update]
      split
      · rw [Option.map_map]
        rfl
      · rfl
    · rw [used]
      rfl

/-- Spawning adds a slot under a handle that was never issued. -/
theorem spawn (index : ι) (work : Work) :
    Does forgets (@onPart _ _ _ (registry index) (Futures.spawn work)) := by
  intro bridge
  refine .single (quiet_set (fun other issued => ?_) ?_)
  · exact congrArg (Option.map CoreFuture.slot) (Table.find?_insert_of_issued issued _)
  · exact Nat.le_of_lt (Nat.lt_of_lt_of_eq (Nat.lt_succ_self _) (Table.next_insert _ _).symm)

end Does

end Bridge

end Boundary
