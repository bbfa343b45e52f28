import Boundary.Proofs.Call.InProcess
import Boundary.Proofs.Future.Advance
import Boundary.Proofs.Future.Completion
import Boundary.Proofs.Handle.Latest
import Boundary.Session.Await

/-! # A session that attends to one future

A base session has its futures and continuations. While it awaits one future more, everything but
that future, its continuation and the log is as it was at the base
(`Boundary.AwaitedFuture.session`). Each entry point of the core is described by one equation on
such sessions, for a future whose slot remembers no continuation when it is polled.
-/

namespace Boundary

namespace Slot

/-- No continuation waits, and the future was woken or not. -/
def noted : (woken : Bool) → Slot
  | true => waked
  | false => empty

theorem isCancelled_noted (woken : Bool) : (noted woken).isCancelled = false := by
  cases woken <;> rfl

end Slot

/-- What changes while a session attends to one future. -/
structure AwaitedFuture where
  ledger : Ledger
  progress : Progress
  slot : Slot
  wakers : List Handle
  continuations : Continuations
  await : Await
  log : List AwaitEvent

namespace AwaitedFuture

/-- The base session with one future more. -/
def session (base : AwaitSession) (handle : Handle) (awaited : AwaitedFuture) : AwaitSession :=
  { base with
    futures := { base.futures with
      ledger := awaited.ledger
      table := base.futures.table.holding handle ⟨awaited.progress, awaited.slot⟩
      wakers := awaited.wakers }
    continuations := awaited.continuations
    await := awaited.await
    started := some handle
    log := awaited.log }

/-- The base session after the future was freed. -/
def freed (base : AwaitSession) (handle : Handle) (awaited : AwaitedFuture) : AwaitSession :=
  { awaited.session base handle with
    futures := { base.futures with
      ledger := awaited.ledger
      table := base.futures.table.later 1
      wakers := awaited.wakers } }

/-- The future after a continuation was resumed, if there is a signal. -/
def hearing (awaited : AwaitedFuture) : Option Signal → AwaitedFuture
  | none => awaited
  | some signal =>
    { awaited with
      continuations :=
        (Continuations.resume signal.data signal.code.number awaited.continuations).2 }

variable {base : AwaitSession} {handle : Handle} {awaited : AwaitedFuture}

theorem record_session (event : AwaitEvent) :
    AwaitSession.record event (awaited.session base handle) =
      ((), { awaited with log := awaited.log ++ [event] }.session base handle) := rfl

theorem hasWaker_session :
    (Futures.hasWaker handle : StateM AwaitSession Bool) (awaited.session base handle) =
      (awaited.wakers.contains handle, awaited.session base handle) := rfl

theorem keepWaker_session :
    (Futures.keepWaker handle : StateM AwaitSession Unit) (awaited.session base handle) =
      ((), { awaited with
        wakers := handle :: awaited.wakers.filter (· != handle) }.session base handle) := rfl

theorem dropWaker_session :
    (Futures.dropWaker handle : StateM AwaitSession Unit) (awaited.session base handle) =
      ((), { awaited with
        wakers := awaited.wakers.filter (· != handle) }.session base handle) := rfl

variable (fresh : base.futures.table.find? handle = none)

include fresh

theorem find?_session :
    (Part.get (awaited.session base handle) : Futures).table.find? handle =
      some ⟨awaited.progress, awaited.slot⟩ :=
  Table.find?_holding fresh _

/-- Updating the future changes it, and nothing else. -/
theorem update_session (change : CoreFuture → CoreFuture) :
    (onPart (Futures.update handle change) : StateM AwaitSession Unit)
        (awaited.session base handle) =
      ((), { awaited with
        progress := (change ⟨awaited.progress, awaited.slot⟩).progress
        slot := (change ⟨awaited.progress, awaited.slot⟩).slot }.session base handle) := by
  have changed := Table.update_holding fresh ⟨awaited.progress, awaited.slot⟩ change
  have stepped : (onPart (Futures.update handle change) : StateM AwaitSession Unit)
      (awaited.session base handle) = ((), { awaited.session base handle with
        futures := { (awaited.session base handle).futures with
          table := (base.futures.table.holding handle
            ⟨awaited.progress, awaited.slot⟩).update handle change } }) := rfl
  rw [stepped, changed]
  rfl

/-- A decision about the slot changes it, and resumes who is to be resumed. -/
theorem decide_session (decision : Slot → Option Signal × Slot) :
    Futures.decide AwaitSession.host handle decision (awaited.session base handle) =
      ((), ({ awaited with slot := (decision awaited.slot).2 }.hearing
        (decision awaited.slot).1).session base handle) := by
  unfold Futures.decide
  simp only [bind_apply, Futures.current_apply, find?_session fresh]
  rw [update_session fresh]
  rcases (decision awaited.slot).1 with _ | signal <;> rfl

/-- A wake is noted in a slot without a continuation. -/
theorem wake_session (woken : Bool) (idle : awaited.slot = .noted woken) :
    Futures.wake AwaitSession.host handle (awaited.session base handle) =
      ((), { awaited with slot := .noted true }.session base handle) := by
  unfold Futures.wake
  rw [decide_session fresh, idle]
  cases woken <;> rfl

/-- Several wakes are noted as one. -/
theorem wakes_session (woken : Bool) (idle : awaited.slot = .noted woken) (times : Nat) :
    (List.replicate times handle).forM (Futures.wake AwaitSession.host)
        (awaited.session base handle) =
      ((), { awaited with
        slot := .noted (woken || decide (0 < times)) }.session base handle) := by
  induction times generalizing awaited woken with
  | zero =>
      rw [decide_eq_false (Nat.lt_irrefl 0), Bool.or_false, ← idle]
      rfl
  | succ times ih =>
      change (Futures.wake AwaitSession.host handle >>= fun _ =>
        (List.replicate times handle).forM (Futures.wake AwaitSession.host)) _ = _
      rw [bind_apply, wake_session fresh woken idle, ih true rfl, Bool.true_or,
        decide_eq_true (Nat.succ_pos times), Bool.or_true]

/-- Work that is dropped may wake its future once more. -/
theorem dropWork_session (woken : Bool) (idle : awaited.slot = .noted woken) (work : Work) :
    ∃ again wakers, Futures.dropWork AwaitSession.host handle work (awaited.session base handle) =
      ((), { awaited with
        slot := .noted again, wakers := wakers
        log := awaited.log ++ [AwaitEvent.dropped work.label] }.session base handle) := by
  have told : AwaitSession.host.dropped work.label (awaited.session base handle) =
    ((), { awaited with
      log := awaited.log ++ [AwaitEvent.dropped work.label] }.session base handle) := rfl
  unfold Futures.dropWork
  rw [bind_apply, told]
  cases work.wakesOnDrop with
  | false =>
      refine ⟨woken, awaited.wakers, ?_⟩
      rw [← idle]
      rfl
  | true =>
      rw [if_pos rfl, bind_apply, hasWaker_session]
      cases awaited.wakers.contains handle with
      | false =>
          refine ⟨woken, awaited.wakers, ?_⟩
          rw [← idle]
          rfl
      | true =>
          refine ⟨true, awaited.wakers.filter (· != handle), ?_⟩
          dsimp only
          rw [if_pos rfl, bind_apply, dropWaker_session, wake_session fresh woken]
          exact idle

theorem signalReady_session (woken : Bool) (idle : awaited.slot = .noted woken) (data : UInt64) :
    Futures.signalReady AwaitSession.host handle data (awaited.session base handle) =
      ((), (awaited.hearing (some ⟨data, .ready⟩)).session base handle) := by
  unfold Futures.signalReady
  rw [decide_session fresh, idle, Slot.isCancelled_noted, if_neg Bool.false_ne_true, ← idle]

/-! ### Running the work -/

section

variable {label : String} {rest : List Pause} {ending : Act Ledger Lowering Output}
  {wakesOnDrop : Bool} (woken : Bool) (idle : awaited.slot = .noted woken) (data : UInt64)

include idle

/-- Work that pauses leaves a continuation. If the future was woken in the meantime, this is
resumed at once. -/
theorem poll_paused_session {pause : Pause}
    (found : awaited.progress = .running ⟨label, pause :: rest, ending, wakesOnDrop⟩) :
    Futures.poll AwaitSession.host handle data (awaited.session base handle) =
      ((), ({ awaited with
          progress := .running ⟨label, rest, ending, wakesOnDrop⟩
          slot := ((Slot.noted (woken || decide (0 < pause.wakes))).store data).2
          wakers := if pause.keepsWaker then handle :: awaited.wakers.filter (· != handle)
            else awaited.wakers
          log := awaited.log ++ [AwaitEvent.polled label] }.hearing
        ((Slot.noted (woken || decide (0 < pause.wakes))).store data).1).session base handle) := by
  have told : AwaitSession.host.polled label (awaited.session base handle) =
    ((), { awaited with log := awaited.log ++ [AwaitEvent.polled label] }.session base
      handle) := rfl
  unfold Futures.poll
  simp only [bind_apply, Futures.current_apply, find?_session fresh, found, idle,
    Slot.isCancelled_noted]
  rw [if_neg Bool.false_ne_true]
  simp only [bind_apply, told, update_session fresh]
  cases pause.keepsWaker with
  | false =>
      simp only [Bool.false_eq_true, ↓reduceIte]
      rw [bind_apply, wakes_session fresh woken, decide_session fresh]
      exact idle
  | true =>
      simp only [↓reduceIte]
      rw [bind_apply, keepWaker_session, bind_apply, wakes_session fresh woken,
        decide_session fresh]
      exact idle

/-- Work that ends resumes the continuation. -/
theorem poll_ended_session
    (found : awaited.progress = .running ⟨label, [], ending, wakesOnDrop⟩) :
    ∃ again wakers, Futures.poll AwaitSession.host handle data (awaited.session base handle) =
      ((), ({ awaited with
          ledger := (ending.observe awaited.ledger).2
          progress := .ofOutcome (ending.observe awaited.ledger).1
          slot := .noted again
          wakers := wakers
          log := awaited.log ++ [AwaitEvent.polled label] ++ [AwaitEvent.dropped label] }.hearing
        (some ⟨data, .ready⟩)).session base handle) := by
  have told : AwaitSession.host.polled label (awaited.session base handle) =
    ((), { awaited with log := awaited.log ++ [AwaitEvent.polled label] }.session base
      handle) := rfl
  have ran : (onPart (onPart ending.observe : StateM Futures _) : StateM AwaitSession _)
      ({ awaited with log := awaited.log ++ [AwaitEvent.polled label] }.session base handle) =
    ((ending.observe awaited.ledger).1, { awaited with
      ledger := (ending.observe awaited.ledger).2
      log := awaited.log ++ [AwaitEvent.polled label] }.session base handle) := rfl
  unfold Futures.poll
  simp only [bind_apply, Futures.current_apply, find?_session fresh, found, idle,
    Slot.isCancelled_noted]
  rw [if_neg Bool.false_ne_true]
  simp only [bind_apply, told, ran, update_session fresh]
  generalize ending.observe awaited.ledger = run
  obtain ⟨outcome, ledger⟩ := run
  let ended : AwaitedFuture := { awaited with
    ledger := ledger
    progress := .ofOutcome outcome
    log := awaited.log ++ [AwaitEvent.polled label] }
  have quiet : ended.slot = .noted woken := idle
  obtain ⟨again, wakers, dropped⟩ :=
    dropWork_session fresh woken quiet ⟨label, [], ending, wakesOnDrop⟩
  have signalled : (do
        Futures.dropWork AwaitSession.host handle ⟨label, [], ending, wakesOnDrop⟩
        Futures.signalReady AwaitSession.host handle data : StateM AwaitSession Unit)
      (ended.session base handle) =
    ((), ({ ended with
      slot := .noted again
      wakers := wakers
      log := ended.log ++ [AwaitEvent.dropped label] }.hearing
        (some ⟨data, .ready⟩)).session base handle) := by
    rw [bind_apply, dropped]
    exact signalReady_session fresh again rfl data
  refine ⟨again, wakers, ?_⟩
  -- The registry takes the outcome apart to keep it.
  rcases outcome with (declared | payload) | output <;> exact signalled

end

/-! ### Fetching the result -/

/-- Freeing a future whose result was fetched removes it. -/
theorem free_session (woken : Bool) (idle : awaited.slot = .noted woken)
    (fetched : awaited.progress = .consumed) :
    Futures.free AwaitSession.host handle (awaited.session base handle) =
      ((), awaited.freed base handle) := by
  have erased := Table.erase_holding fresh ⟨awaited.progress, awaited.slot⟩
  have removed : (onPart (modify fun futures =>
        { futures with table := futures.table.erase handle } : StateM Futures Unit) :
      StateM AwaitSession Unit) (awaited.session base handle) =
        ((), awaited.freed base handle) := by
    unfold freed
    rw [← erased]
    rfl
  unfold Futures.free
  simp only [bind_apply, Futures.current_apply, find?_session fresh, removed, idle, fetched,
    Slot.isCancelled_noted]
  rw [if_neg Bool.false_ne_true]
  rfl

variable {outcome : Outcome Lowering Output}

/-- The result is packed as a plain call packs it that ends so. -/
theorem complete_session (woken : Bool) (idle : awaited.slot = .noted woken)
    (found : awaited.progress = .ofOutcome outcome) :
    AwaitSession.points.complete handle (awaited.session base handle) =
      (onPart (Envelope.outputOrError base.futures.channel (Act.ofOutcome outcome) :
        EntryPoint Ledger Passed) : EntryPoint AwaitSession Passed)
        ({ awaited with
          progress := .consumed
          log := awaited.log ++ [AwaitEvent.called "complete"] }.session base handle) := by
  let told : AwaitedFuture := { awaited with log := awaited.log ++ [AwaitEvent.called "complete"] }
  let taken : AwaitedFuture := { told with progress := .consumed }
  have listed : (told.session base handle).futures.table.find? handle =
      some ⟨.ofOutcome outcome, awaited.slot⟩ := found ▸ find?_session fresh
  have active : awaited.slot.isCancelled = false := idle ▸ Slot.isCancelled_noted woken
  have updated : (Futures.update handle (fun future => { future with progress := .consumed })
      (told.session base handle).futures).2 = (taken.session base handle).futures :=
    congrArg (AwaitSession.futures ∘ Prod.snd) (update_session fresh _)
  have completed : Futures.complete handle (told.session base handle).futures =
      (onPart (Envelope.outputOrError base.futures.channel (Act.ofOutcome outcome) :
        EntryPoint Ledger Passed) : EntryPoint Futures Passed)
        (taken.session base handle).futures := by
    rw [Futures.complete_of_ended listed active, updated, Envelope.onPart_outputOrError,
      Act.onPart_ofOutcome]
    rfl
  have ran : AwaitSession.points.complete handle (awaited.session base handle) =
      ((Futures.complete handle (told.session base handle).futures).1,
        { told.session base handle with
          futures := (Futures.complete handle (told.session base handle).futures).2 }) := rfl
  rw [ran, completed]
  rfl

/-- The result is fetched as a call would report it, and the future is freed. -/
theorem fetch_session {ε : Type} {declared : Read ε} {answer : Outcome (CallError ε) Passed}
    {ledger : Ledger} (woken : Bool) (idle : awaited.slot = .noted woken)
    (found : awaited.progress = .ofOutcome outcome)
    (call : ((Caller.inProcess : Caller Ledger).call declared
      (Envelope.outputOrError base.futures.channel (Act.ofOutcome outcome))).observe
        awaited.ledger =
        (answer, ledger)) :
    Await.fetch Caller.inProcess AwaitSession.points declared handle
        (awaited.session base handle) =
      (.ended answer, { awaited with
        ledger := ledger
        progress := .consumed
        log := awaited.log ++ [AwaitEvent.called "complete"] ++
          [AwaitEvent.called "free"] }.freed base handle) := by
  let taken : AwaitedFuture := { awaited with
    progress := .consumed
    log := awaited.log ++ [AwaitEvent.called "complete"] }
  have called : (Caller.inProcess.call declared
      (AwaitSession.points.complete handle)).observe (awaited.session base handle) =
      (answer, { taken with ledger := ledger }.session base handle) := by
    rw [Caller.observe_call_eq, complete_session fresh woken idle found,
      ← Caller.observe_call_eq declared (onPart _ : EntryPoint AwaitSession Passed),
      Caller.observe_call, onPart_apply]
    exact congrArg (fun ended : _ × Ledger =>
      (ended.1, { taken with ledger := ended.2 }.session base handle)) call
  let told : AwaitedFuture := { taken with
    ledger := ledger
    log := taken.log ++ [AwaitEvent.called "free"] }
  have freed : AwaitSession.points.free handle
      ({ taken with ledger := ledger }.session base handle) =
      ((), told.freed base handle) :=
    free_session fresh woken (show told.slot = .noted woken from idle) rfl
  unfold Await.fetch
  rw [bind_apply, called, bind_apply, freed]
  rfl

end AwaitedFuture

end Boundary
