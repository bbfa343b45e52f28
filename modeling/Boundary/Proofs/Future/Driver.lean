import Boundary.Proofs.Future.Completion
import Boundary.Proofs.Future.Slot
import Boundary.Proofs.Handle.Table

/-! # Driving a future

A host drives a future of the core with the entry points of a registry, and keeps the
signals that it is sent (`Boundary.FutureDriver`). Each step does to the future under its handle
what `Boundary.FutureDriver.Step.effect` says, whatever else is in the registry
(`Boundary.FutureDriver.perform_leaves`); a handle that was freed stays unknown
(`Boundary.FutureDriver.perform_gone`).
-/

namespace Boundary

/-- A registry of futures, and the signals that were sent. -/
structure FutureDriver where
  futures : Futures
  signals : List Signal

namespace FutureDriver

instance : Part FutureDriver Futures where
  get driver := driver.futures
  set futures driver := { driver with futures := futures }
  get_set _ _ := rfl
  set_get _ := rfl
  set_set _ _ _ := rfl

/-- The host keeps every signal that it is sent. -/
def host : FutureHost FutureDriver where
  polled _ := return
  dropped _ := return
  resume data code := modify fun driver =>
    { driver with signals := driver.signals ++ [⟨data, code⟩] }

/-- What is done with a future, and what happens meanwhile. -/
inductive Step where
  | poll (data : UInt64)
  /-- The waker is used, and is used up unless it is kept. Work that wakes itself inside of the poll
  that ends it does so as if right before that poll, which until then only looks at whether the slot
  was cancelled. -/
  | wake (keeps : Bool)
  | complete
  | cancel
  | free
  /-- Another future is started. -/
  | spawn (work : Work)
  /-- Memory is handed out or given back elsewhere. -/
  | elsewhere (use : StateM Ledger Unit)

/-- Takes a step on the future under a handle. -/
def perform (handle : Handle) : Step → StateM FutureDriver Unit
  | .poll data => Futures.poll host handle data
  | .wake keeps => do
    unless keeps do Futures.dropWaker handle
    Futures.wake host handle
  | .complete => do let _ ← onPart (Futures.complete handle)
  | .cancel => Futures.cancel host handle
  | .free => Futures.free host handle
  | .spawn work => do let _ ← onPart (Futures.spawn work)
  | .elsewhere use => onPart (onPart use : StateM Futures Unit)

/-- What a run of steps leads to. -/
def run (handle : Handle) (driver : FutureDriver) (steps : List Step) : FutureDriver :=
  steps.foldl (fun driver step => (perform handle step driver).2) driver

/-- The future under a handle. -/
def find? (driver : FutureDriver) (handle : Handle) : Option CoreFuture :=
  driver.futures.table.find? handle

theorem table_find? (driver : FutureDriver) (handle : Handle) :
    (Part.get driver : Futures).table.find? handle = driver.find? handle := rfl

/-- Dropping work that wakes on its way out takes the waker that was kept and wakes with it. -/
theorem dropWork_apply (handle : Handle) (work : Work) (driver : FutureDriver) :
    Futures.dropWork host handle work driver =
      if work.wakesOnDrop && driver.futures.wakers.contains handle then
        Futures.wake host handle (Futures.dropWaker handle driver).2
      else ((), driver) := by
  have noted : host.dropped work.label driver = ((), driver) := rfl
  have asked : (Futures.hasWaker handle : StateM FutureDriver Bool) driver =
    (driver.futures.wakers.contains handle, driver) := rfl
  unfold Futures.dropWork
  cases work.wakesOnDrop with
  | false => rfl
  | true =>
      simp only [bind_apply, noted, ↓reduceIte, asked, Bool.true_and]
      cases driver.futures.wakers.contains handle <;> rfl

/-- A future that was spawned is found under its handle, running, with an empty slot. -/
theorem find?_of_spawn {handle : Handle} {work : Work} {futures started : Futures}
    (orderly : futures.table.Orderly)
    (spawned : Futures.spawn work futures = (.ok handle, started)) (signals : List Signal) :
    find? ⟨started, signals⟩ handle = some ⟨.running work, .empty⟩ ∧
      handle.raw.toNat < started.table.next := by
  unfold Futures.spawn at spawned
  rcases inserted : futures.table.insert ⟨.running work, .empty⟩ with ⟨issued, table⟩
  rw [inserted] at spawned
  cases spawned
  obtain ⟨number, rfl⟩ := Table.insert_eq_ok inserted
  exact ⟨orderly.find?_insert inserted, number ▸ Nat.lt_succ_self _⟩

/-- What a step makes of the future it is taken on, and the signals that it sends. The outcome of
the work may depend on the ledger, and work that is dropped may use the waker that it kept. -/
def Step.effect (ledger : Ledger) (kept : Bool) (future : CoreFuture) :
    Step → Option CoreFuture × List Signal
  | .poll data =>
    if future.slot.isCancelled then (future, [])
    else match future.progress with
      | .running ⟨label, pause :: rest, ending, wakesOnDrop⟩ =>
        let (sent, slot) := future.slot.wakeTimes pause.wakes
        let (last, slot) := slot.store data
        (some ⟨.running ⟨label, rest, ending, wakesOnDrop⟩, slot⟩, sent ++ last.toList)
      | .running ⟨_, [], ending, wakesOnDrop⟩ =>
        let (sent, slot) := future.slot.wakeTimes (wakesOnDrop && kept).toNat
        (some ⟨.ofOutcome (ending.observe ledger).1, slot⟩, sent ++ [⟨data, .ready⟩])
      | _ => (future, [⟨data, .ready⟩])
  | .wake _ => (some { future with slot := future.slot.wake.2 }, future.slot.wake.1.toList)
  | .complete =>
    (some (if future.slot.isCancelled then future
      else { future with progress := future.progress.taken }), [])
  | .cancel => (some (if future.slot.isCancelled then future else ⟨.consumed, .cancelled⟩), [])
  | .free => (none, [])
  | .spawn _ | .elsewhere _ => (future, [])

/-- Cancelling leaves a future with a cancelled slot, whatever it was. -/
theorem Step.effect_cancel (ledger : Ledger) (kept : Bool) (future : CoreFuture) :
    ∃ progress, (cancel.effect ledger kept future).1 = some ⟨progress, .cancelled⟩ := by
  obtain ⟨progress, slot⟩ := future
  cases slot with
  | cancelled => exact ⟨progress, rfl⟩
  | _ => exact ⟨.consumed, rfl⟩

theorem run_cons (handle : Handle) (driver : FutureDriver) (step : Step) (rest : List Step) :
    run handle driver (step :: rest) = run handle (perform handle step driver).2 rest := rfl

/-- A run of two parts is the one run behind the other. -/
theorem run_append (handle : Handle) (driver : FutureDriver) (steps more : List Step) :
    run handle driver (steps ++ more) = run handle (run handle driver steps) more :=
  List.foldl_append

variable {handle : Handle} {driver between after : FutureDriver} {future : CoreFuture}
  {left left' : Option CoreFuture} {sent sent' : List Signal}

/-! ### Nothing is done -/

/-- A cancelled future is not polled any more. -/
theorem poll_of_cancelled (found : driver.find? handle = some future)
    (cancelled : future.slot.isCancelled = true) (data : UInt64) :
    perform handle (.poll data) driver = ((), driver) := by
  unfold perform Futures.poll
  simp only [bind_apply, Futures.current_apply, table_find?, found, cancelled]
  rfl

/-- A cancelled future is not cancelled again. -/
theorem cancel_of_cancelled (found : driver.find? handle = some future)
    (cancelled : future.slot.isCancelled = true) :
    perform handle .cancel driver = ((), driver) := by
  unfold perform Futures.cancel
  simp only [bind_apply, Futures.current_apply, table_find?, found, cancelled]
  rfl

theorem poll_of_none (unknown : driver.find? handle = none) (data : UInt64) :
    perform handle (.poll data) driver = ((), driver) := by
  unfold perform Futures.poll
  simp only [bind_apply, pure_apply, Futures.current_apply, table_find?, unknown]

theorem cancel_of_none (unknown : driver.find? handle = none) :
    perform handle .cancel driver = ((), driver) := by
  unfold perform Futures.cancel
  simp only [bind_apply, pure_apply, Futures.current_apply, table_find?, unknown]

theorem decide_of_none (unknown : driver.find? handle = none)
    (decision : Slot → Option Signal × Slot) :
    Futures.decide host handle decision driver = ((), driver) := by
  unfold Futures.decide
  simp only [bind_apply, pure_apply, Futures.current_apply, table_find?, unknown]

/-! ### What is left of a future -/

/-- What is under the handle was left as given, the signals were sent, and no handle will be issued
a second time. -/
structure Leaves (handle : Handle) (driver : FutureDriver) (left : Option CoreFuture)
    (sent : List Signal)
    (after : FutureDriver) : Prop where
  find? : after.find? handle = left
  signals : after.signals = driver.signals ++ sent
  next : driver.futures.table.next ≤ after.futures.table.next
  orderly : driver.futures.table.Orderly → after.futures.table.Orderly

namespace Leaves

theorem still (found : driver.find? handle = left) : Leaves handle driver left [] driver :=
  ⟨found, (List.append_nil _).symm, Nat.le_refl _, id⟩

/-- Two steps send their signals one after the other, and the second says what is left. -/
theorem trans (first : Leaves handle driver left sent between)
    (second : Leaves handle between left' sent' after) :
    Leaves handle driver left' (sent ++ sent') after where
  find? := second.find?
  signals := by rw [second.signals, first.signals, List.append_assoc]
  next := Nat.le_trans first.next second.next
  orderly orderly := second.orderly (first.orderly orderly)

/-- A future that is replaced under its handle sends no signal. -/
theorem of_update (found : driver.find? handle = some future) (change : CoreFuture → CoreFuture) :
    Leaves handle driver (change future) []
      ((onPart (Futures.update handle change) : StateM FutureDriver Unit) driver).2 where
  find? := by
    have changed := Table.find?_update driver.futures.table handle change handle
    rw [if_pos rfl] at changed
    exact changed.trans (congrArg (Option.map change) found)
  signals := (List.append_nil _).symm
  next := Nat.le_refl _
  orderly orderly := orderly.update handle change

/-- A decision about the slot changes the slot and sends its signal, if it has one. -/
theorem of_decide (found : driver.find? handle = some future)
    (decision : Slot → Option Signal × Slot) :
    Leaves handle driver (some { future with slot := (decision future.slot).2 })
      (decision future.slot).1.toList (Futures.decide host handle decision driver).2 := by
  have updated := of_update found fun future' => { future' with slot := (decision future.slot).2 }
  unfold Futures.decide
  simp only [bind_apply, Futures.current_apply, table_find?, found]
  cases (decision future.slot).1 with
  | none => exact updated
  | some signal => exact { updated with signals := rfl }

theorem of_wake (found : driver.find? handle = some future) :
    Leaves handle driver (some { future with slot := future.slot.wake.2 })
      future.slot.wake.1.toList (Futures.wake host handle driver).2 :=
  of_decide found Slot.wake

/-- Several wakes do to a future in the table what they do to the slot. -/
theorem of_wakes (found : driver.find? handle = some future) (times : Nat) :
    Leaves handle driver (some { future with slot := (future.slot.wakeTimes times).2 })
      (future.slot.wakeTimes times).1
      ((List.replicate times handle).forM (Futures.wake host) driver).2 := by
  induction times generalizing driver future with
  | zero => exact still found
  | succ times ih =>
      have first := of_wake found
      exact first.trans (ih first.find?)

/-- What touches neither the table nor the signals leaves the future as it is. -/
theorem of_table (found : driver.find? handle = left)
    (same : after.futures.table = driver.futures.table) (quiet : after.signals = driver.signals) :
    Leaves handle driver left [] after where
  find? := (congrArg (·.find? handle) same).trans found
  signals := quiet.trans (List.append_nil _).symm
  next := Nat.le_of_eq (congrArg Table.next same).symm
  orderly orderly := same ▸ orderly

theorem of_dropWaker (found : driver.find? handle = left) :
    Leaves handle driver left [] (Futures.dropWaker handle driver).2 :=
  of_table found rfl rfl

/-- Dropping work wakes the future once, if the work wakes on its way out and a waker was kept. -/
theorem of_dropWork (found : driver.find? handle = some future) (work : Work) :
    let times := (work.wakesOnDrop && driver.futures.wakers.contains handle).toNat
    Leaves handle driver (some { future with slot := (future.slot.wakeTimes times).2 })
      (future.slot.wakeTimes times).1 (Futures.dropWork host handle work driver).2 := by
  intro times
  rw [dropWork_apply]
  cases used : work.wakesOnDrop && driver.futures.wakers.contains handle with
  | false =>
      have none : times = 0 := congrArg Bool.toNat used
      rw [none]
      exact still found
  | true =>
      have once : times = 1 := congrArg Bool.toNat used
      have given := of_dropWaker found
      rw [once]
      exact given.trans (of_wakes given.find? 1)

/-- READY is sent to the continuation of the poll, past the slot. -/
theorem of_signalReady (found : driver.find? handle = some future)
    (active : future.slot.isCancelled = false) (data : UInt64) :
    Leaves handle driver future [⟨data, .ready⟩]
      (Futures.signalReady host handle data driver).2 := by
  have decided := of_decide found fun slot =>
    (if slot.isCancelled then none else some ⟨data, .ready⟩, slot)
  rw [active] at decided
  exact decided

variable {label : String} {ending : Act Ledger Lowering Output} {wakesOnDrop kept : Bool}
  {progress : Progress} {slot : Slot}

/-- A poll of work that pauses wakes as often as the pause says, and then stores its continuation.
-/
theorem poll_paused {pause : Pause} {rest : List Pause}
    (found : driver.find? handle =
      some ⟨.running ⟨label, pause :: rest, ending, wakesOnDrop⟩, slot⟩)
    (active : slot.isCancelled = false) (data : UInt64) :
    let woken := slot.wakeTimes pause.wakes
    let stored := woken.2.store data
    Leaves handle driver (some ⟨.running ⟨label, rest, ending, wakesOnDrop⟩, stored.2⟩)
      (woken.1 ++ stored.1.toList) (Futures.poll host handle data driver).2 := by
  let goesOn (future : CoreFuture) : CoreFuture :=
    { future with progress := .running ⟨label, rest, ending, wakesOnDrop⟩ }
  let paused : FutureDriver :=
    ((onPart (Futures.update handle goesOn) : StateM FutureDriver Unit) driver).2
  have begun : Leaves handle driver _ [] paused := of_update found goesOn
  unfold Futures.poll
  simp only [bind_apply, Futures.current_apply, table_find?, found, active]
  rw [if_neg Bool.false_ne_true]
  by_cases keeps : pause.keepsWaker
  · have kept : Leaves handle paused _ [] (Futures.keepWaker handle paused).2 :=
      of_table begun.find? rfl rfl
    have woken := of_wakes kept.find? pause.wakes
    simp only [bind_apply, keeps, ↓reduceIte]
    exact ((begun.trans kept).trans woken).trans (of_decide woken.find? (Slot.store data))
  · have woken := of_wakes begun.find? pause.wakes
    simp only [bind_apply, keeps, Bool.false_eq_true, ↓reduceIte]
    exact (begun.trans woken).trans (of_decide woken.find? (Slot.store data))

/-- A poll of work that ends observes the ending, drops the work and sends READY. -/
theorem poll_ended
    (found : driver.find? handle = some ⟨.running ⟨label, [], ending, wakesOnDrop⟩, slot⟩)
    (active : slot.isCancelled = false) (data : UInt64) :
    let woken := slot.wakeTimes (wakesOnDrop && driver.futures.wakers.contains handle).toNat
    Leaves handle driver (some ⟨.ofOutcome (ending.observe driver.futures.ledger).1, woken.2⟩)
      (woken.1 ++ [⟨data, .ready⟩]) (Futures.poll host handle data driver).2 := by
  unfold Futures.poll
  simp only [bind_apply, Futures.current_apply, table_find?, found, active]
  rw [if_neg Bool.false_ne_true]
  have noted : host.polled label driver = ((), driver) := rfl
  simp only [bind_apply, noted]
  have ran : (onPart (onPart ending.observe : StateM Futures _) : StateM FutureDriver _) driver =
    ((ending.observe driver.futures.ledger).1,
      ⟨{ driver.futures with ledger := (ending.observe driver.futures.ledger).2 },
        driver.signals⟩) :=
    rfl
  rw [ran]
  generalize ending.observe driver.futures.ledger = run
  obtain ⟨outcome, ledger⟩ := run
  have begun : Leaves handle driver _ []
      ⟨{ driver.futures with ledger := ledger }, driver.signals⟩ :=
    of_table found rfl rfl
  have finished := begun.trans (of_update begun.find? fun future =>
    { future with progress := .ofOutcome outcome })
  have dropped := finished.trans (of_dropWork finished.find? ⟨label, [], ending, wakesOnDrop⟩)
  have signalled := dropped.trans (of_signalReady dropped.find?
    (Slot.passes_wakeTimes active _).active data)
  -- The registry takes the outcome apart to keep it.
  rcases outcome with (declared | payload) | output <;> exact signalled

/-- A poll of work that is over sends READY and does nothing else. -/
theorem poll_over (found : driver.find? handle = some ⟨progress, slot⟩)
    (active : slot.isCancelled = false) (ended : ∀ work, progress ≠ .running work) (data : UInt64) :
    Leaves handle driver (some ⟨progress, slot⟩) [⟨data, .ready⟩]
      (Futures.poll host handle data driver).2 := by
  unfold Futures.poll
  simp only [bind_apply, Futures.current_apply, table_find?, found, active]
  rw [if_neg Bool.false_ne_true]
  cases progress with
  | running work => exact absurd rfl (ended work)
  | _ => exact of_signalReady found active data

/-- Fetching the outcome consumes it and sends no signal. -/
theorem of_complete (found : driver.find? handle = some ⟨progress, slot⟩)
    (active : slot.isCancelled = false) :
    Leaves handle driver (some ⟨progress.taken, slot⟩) []
      ⟨(Futures.complete handle driver.futures).2, driver.signals⟩ := by
  have known : driver.futures.table.find? handle = some _ := found
  rcases progress.running_or_ended with ⟨work, rfl⟩ | ⟨outcome, rfl⟩ | rfl
  · rw [Futures.complete_of_running known active]
    refine of_table found ?_ rfl
    simp only [Futures.refused_table]
  · rw [Futures.complete_of_ended known active, Progress.taken_ofOutcome]
    have used := of_update found fun future => { future with progress := .consumed }
    refine used.trans (of_table used.find? ?_ rfl)
    exact Futures.reported_table _ _
  · rw [Futures.complete_of_consumed known active]
    refine of_table found ?_ rfl
    simp only [Futures.refused_table]

/-- Cancelling closes the slot, discards the work or its outcome, and sends no signal. -/
theorem of_cancel (found : driver.find? handle = some future)
    (active : future.slot.isCancelled = false) :
    Leaves handle driver (some ⟨.consumed, .cancelled⟩) []
      (Futures.cancel host handle driver).2 := by
  have silenced := of_update found fun _ => ⟨.consumed, .cancelled⟩
  unfold Futures.cancel
  simp only [bind_apply, Futures.current_apply, table_find?, found, active]
  rw [if_neg Bool.false_ne_true]
  cases future.progress with
  | running work =>
      have dropped := silenced.trans (of_dropWork silenced.find? work)
      simp only [Slot.wakeTimes_cancelled] at dropped
      exact dropped
  | _ => exact silenced

/-- Another future that is spawned has a handle of its own, and leaves this one alone. -/
theorem of_spawn (found : driver.find? handle = left)
    (issued : handle.raw.toNat < driver.futures.table.next) (work : Work) :
    Leaves handle driver left [] ⟨(Futures.spawn work driver.futures).2, driver.signals⟩ where
  find? := (Table.find?_insert_of_issued issued _).trans found
  signals := (List.append_nil _).symm
  next := Nat.le_trans (Nat.le_succ _)
    (Nat.le_of_eq (Table.next_insert driver.futures.table _).symm)
  orderly orderly := orderly.insert _

/-! ### Handles that are not known -/

/-- Work that is dropped when its future is gone wakes nobody. -/
theorem dropWork_of_none (unknown : driver.find? handle = none) (work : Work) :
    Leaves handle driver none [] (Futures.dropWork host handle work driver).2 := by
  rw [dropWork_apply]
  split
  · have given := of_dropWaker unknown
    unfold Futures.wake
    rw [decide_of_none given.find?]
    exact given
  · exact still unknown

/-- Freeing removes the future and sends no signal. -/
theorem of_free (found : driver.find? handle = some future) :
    Leaves handle driver none [] (Futures.free host handle driver).2 := by
  let erased : FutureDriver :=
    ⟨{ driver.futures with table := driver.futures.table.erase handle }, driver.signals⟩
  have removed : Leaves handle driver none [] erased :=
    ⟨(Table.find?_erase driver.futures.table handle handle).trans (if_pos rfl),
      (List.append_nil _).symm, Nat.le_refl _, fun orderly => orderly.erase handle⟩
  unfold Futures.free
  simp only [bind_apply, Futures.current_apply, table_find?, found]
  by_cases cancelled : future.slot.isCancelled
  · rw [if_pos cancelled]
    exact removed
  · rw [if_neg cancelled]
    cases future.progress with
    | running work => exact removed.trans (dropWork_of_none removed.find? work)
    | _ => exact removed

end Leaves

/-- **What a step does to the future under the handle.** -/
theorem perform_leaves (found : driver.find? handle = some future)
    (issued : handle.raw.toNat < driver.futures.table.next) (step : Step) :
    Leaves handle driver
      (step.effect driver.futures.ledger (driver.futures.wakers.contains handle) future).1
      (step.effect driver.futures.ledger (driver.futures.wakers.contains handle) future).2
      (perform handle step driver).2 := by
  obtain ⟨progress, slot⟩ := future
  cases step with
  | poll data =>
      cases cancelled : slot.isCancelled with
      | true =>
          have ignored : (perform handle (.poll data) driver).2 = driver :=
            congrArg Prod.snd (poll_of_cancelled found cancelled data)
          simp only [Step.effect, cancelled, ↓reduceIte, ignored]
          exact .still found
      | false =>
          simp only [Step.effect, cancelled, Bool.false_eq_true, ↓reduceIte]
          cases progress with
          | running work =>
              obtain ⟨label, pauses, ending, wakesOnDrop⟩ := work
              cases pauses with
              | nil => exact Leaves.poll_ended found cancelled data
              | cons pause rest => exact Leaves.poll_paused found cancelled data
          | _ => exact Leaves.poll_over found cancelled nofun data
  | wake keeps =>
      cases keeps with
      | true => exact Leaves.of_wake found
      | false =>
          have given := Leaves.of_dropWaker found
          exact given.trans (Leaves.of_wake given.find?)
  | complete =>
      cases cancelled : slot.isCancelled with
      | true =>
          obtain rfl := Slot.isCancelled_iff.mp cancelled
          have answered : (perform handle .complete driver).2 = driver :=
            congrArg (fun answer => (⟨answer.2, driver.signals⟩ : FutureDriver))
              (Futures.complete_of_cancelled found)
          rw [answered]
          exact .still found
      | false =>
          simp only [Step.effect, cancelled, Bool.false_eq_true, ↓reduceIte]
          exact Leaves.of_complete found cancelled
  | cancel =>
      cases cancelled : slot.isCancelled with
      | true =>
          have again : (perform handle .cancel driver).2 = driver :=
            congrArg Prod.snd (cancel_of_cancelled found cancelled)
          simp only [Step.effect, cancelled, ↓reduceIte, again]
          exact .still found
      | false =>
          simp only [Step.effect, cancelled, Bool.false_eq_true, ↓reduceIte]
          exact Leaves.of_cancel found cancelled
  | free => exact Leaves.of_free found
  | spawn work => exact Leaves.of_spawn found issued work
  | elsewhere use => exact Leaves.of_table found rfl rfl

/-- **A handle that is not known stays so**, and no step on it does anything. -/
theorem perform_gone (unknown : driver.find? handle = none)
    (issued : handle.raw.toNat < driver.futures.table.next) (step : Step) :
    Leaves handle driver none [] (perform handle step driver).2 := by
  cases step with
  | wake keeps =>
      cases keeps with
      | true =>
          have ignored : (perform handle (.wake true) driver).2 = driver :=
            congrArg Prod.snd (decide_of_none unknown Slot.wake)
          rw [ignored]
          exact .still unknown
      | false =>
          have given := Leaves.of_dropWaker unknown
          have ignored :
              (perform handle (.wake false) driver).2 = (Futures.dropWaker handle driver).2 :=
            congrArg Prod.snd (decide_of_none given.find? Slot.wake)
          rw [ignored]
          exact given
  | complete =>
      have answered : (perform handle .complete driver).2 =
          ⟨(Futures.complete handle driver.futures).2, driver.signals⟩ := rfl
      have unlisted : driver.futures.table.find? handle = none := unknown
      rw [answered, Futures.complete_of_none unlisted]
      refine .of_table unknown ?_ rfl
      simp only [Futures.refused_table]
  | spawn work => exact .of_spawn unknown issued work
  | elsewhere use => exact .of_table unknown rfl rfl
  | poll data =>
      have ignored : (perform handle (.poll data) driver).2 = driver :=
        congrArg Prod.snd (poll_of_none unknown data)
      rw [ignored]
      exact .still unknown
  | cancel =>
      have ignored : (perform handle .cancel driver).2 = driver :=
        congrArg Prod.snd (cancel_of_none unknown)
      rw [ignored]
      exact .still unknown
  | free =>
      unfold perform Futures.free
      simp only [bind_apply, Futures.current_apply, table_find?, unknown]
      exact .still unknown

/-- A run on a handle that was issued leaves some future or none, and has sent some signals. -/
theorem run_leaves (issued : handle.raw.toNat < driver.futures.table.next) (steps : List Step) :
    ∃ left signals, Leaves handle driver left signals (run handle driver steps) := by
  induction steps generalizing driver with
  | nil => exact ⟨_, [], .still rfl⟩
  | cons step rest ih =>
      obtain ⟨left, signals, performed⟩ : ∃ left signals,
          Leaves handle driver left signals (perform handle step driver).2 := by
        cases found : driver.find? handle with
        | none => exact ⟨_, _, perform_gone found issued step⟩
        | some future => exact ⟨_, _, perform_leaves found issued step⟩
      obtain ⟨last, others, ran⟩ := ih (Nat.lt_of_lt_of_le issued performed.next)
      exact ⟨last, _, performed.trans ran⟩

theorem issued_run (issued : handle.raw.toNat < driver.futures.table.next) (steps : List Step) :
    handle.raw.toNat < (run handle driver steps).futures.table.next := by
  obtain ⟨left, signals, ran⟩ := run_leaves issued steps
  exact Nat.lt_of_lt_of_le issued ran.next

/-- Work that does nothing but pause. -/
def idle (pauses : List Pause) : Work := ⟨"idle", pauses, return .void, false⟩

/-- A registry whose one future does nothing but pause. -/
def idling (pauses : List Pause) : Futures :=
  (Futures.spawn (idle pauses) (Futures.named "futures" .void)).2

theorem spawn_idle (pauses : List Pause) :
    Futures.spawn (idle pauses) (Futures.named "futures" .void) = (.ok ⟨1⟩, idling pauses) := rfl

end FutureDriver

end Boundary
