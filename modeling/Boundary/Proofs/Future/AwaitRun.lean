import Boundary.Proofs.Call.Passage
import Boundary.Proofs.Future.Advance
import Boundary.Proofs.Future.TracedCore

/-! # An await and any core

An await advances, is dropped, or waits while the core and other awaits do something
(`Boundary.AwaitRun.Step`). Every step of its own takes it to another phase of the events of its
future, and what others do leaves it where it is or answers its latest poll.

**Whatever the core does, the events of the future are in order, and once the await has ended,
nothing is left of its continuations** (`Boundary.AwaitRun.every_future_is_freed_once`).
-/

namespace Boundary

/-- How far an await has come after a step. -/
def Advance.reached {ε τ : Type} (await : Await) : Advance ε τ → Await
  | .next await => await
  | .suspended => await
  | .ended _ => .ended

namespace TracedCore

variable {κ τ α : Type} {future : Handle} {phase : AwaitPhase} {traced : TracedCore κ}

variable (foreign : ForeignCore κ τ)

/-- A future that the await gives up is cancelled and freed. -/
theorem Stands.giveUp (stands : Stands future .leaving traced) :
    Stands future (.closed (.cancel future)) (Await.giveUp (points foreign) future traced).2 := by
  have cancelled := stands.call rfl stands.inOrder.cancel (fun same => nomatch same) rfl rfl
    (foreign.cancel future)
  exact cancelled.call rfl cancelled.inOrder.free (fun same => nomatch same) rfl rfl
    (foreign.free future)

variable {ε : Type} [Part κ Ledger] (declared : Read ε)

/-- A future whose result is fetched is freed. -/
theorem Stands.fetch (stands : Stands future .fetching traced) :
    Stands future (.closed (.complete future))
      (Await.fetch (caller foreign) (points foreign) declared future traced).2 := by
  have fetched : Stands future (.closing (.complete future))
      ((points foreign).complete future traced).2 :=
    stands.call rfl stands.inOrder.complete (fun same => nomatch same) rfl rfl
      (foreign.complete future)
  have freeing : (caller foreign).FreeKeeps (Stands future (.closing (.complete future))) :=
    fun buffer _ closing =>
      closing.runEntry_of_isSettled (fun same => nomatch same) rfl (foreign.freeBuffer buffer)
  have checked := Caller.call_keeps freeing declared fetched
  exact checked.call rfl checked.inOrder.free (fun same => nomatch same) rfl rfl
    (foreign.free future)

/-- How far an await has come fits how things stand with its future. -/
def Conforms (future : Handle) (traced : TracedCore κ) : Await → Prop
  | .unpolled _ => False
  | .polling polled => polled = future ∧ Stands future .ready traced
  | .parked polled continuation => polled = future ∧
      ∃ phase, (AwaitPhase.waiting continuation.raw).Hears phase ∧ Stands future phase traced
  | .ended => ∃ call, Stands future (.closed call) traced

/-- The next step of an await reaches what fits again. -/
def Advances (foreign : ForeignCore κ τ) (declared : Read ε) (future : Handle)
    (traced : TracedCore κ)
    (await : Await) : Prop :=
  (Await.advance (caller foreign) (points foreign) declared await traced).2.Conforms future
    ((Await.advance (caller foreign) (points foreign) declared await traced).1.reached await)

/-- An await that is about to poll makes a continuation and polls. -/
theorem polling_advances (stands : Stands future .ready traced) :
    Advances foreign declared future traced (.polling future) := by
  have ran : (onPart (Promises.make () : StateM Continuations (Except HandleError Handle)) :
      StateM (TracedCore κ) (Except HandleError Handle)) traced =
    ((Promises.make () traced.continuations).1,
      { traced with continuations := (Promises.make () traced.continuations).2 }) := rfl
  unfold Advances
  rcases made : Promises.make () traced.continuations with ⟨cause | continuation, continuations⟩
  · obtain ⟨after, rfl | ⟨_, _, same, -⟩, opened⟩ :=
      stands.interfere (fun same => nomatch same) .opened
    · rw [made] at ran
      unfold interfere at opened
      dsimp only at opened
      rw [made] at opened
      rw [Await.advance_polling_of_error ran]
      exact ⟨_, (opened.leave rfl rfl).giveUp foreign⟩
    · cases same
  · rw [made] at ran
    rw [Await.advance_polling_of_ok ran]
    exact ⟨rfl, (stands.poll made).runEntry (fun same => nomatch same)
      (foreign.poll future continuation.raw)⟩

/-- An await that polled looks whether, and with which code, it was resumed. -/
theorem parked_advances {continuation : Handle}
    (heard : (AwaitPhase.waiting continuation.raw).Hears phase)
    (stands : Stands future phase traced) :
    Advances foreign declared future traced (.parked future continuation) := by
  have status : Await.statusIn traced continuation = _ :=
    Promises.status_eq traced.continuations continuation
  unfold Advances
  rcases heard with rfl | ⟨data, code, same, rfl⟩
  · obtain ⟨-, -, member⟩ := stands.inOrder.fits
    have isOpen : traced.continuations.isOpen continuation = true :=
      (stands.awaited _ member).trans (decide_eq_true rfl)
    have unresumed : traced.continuations.value? continuation = none := stands.resumed _ member
    rw [unresumed, isOpen] at status
    rw [Await.advance_waiting status]
    exact ⟨rfl, _, .inl rfl, stands⟩
  · cases same
    obtain ⟨-, -, member⟩ := stands.inOrder.fits
    have resumed : traced.continuations.value? continuation = some code :=
      (stands.resumed _ member).trans (if_pos rfl)
    have others : ∀ other, other ≠ continuation.raw →
        (AwaitPhase.answered continuation.raw code).awaits other = false ∧
          (AwaitPhase.answered continuation.raw code).code? other = none :=
      fun other differs => ⟨rfl, if_neg differs.symm⟩
    rw [resumed] at status
    -- The code says how the await goes on.
    rcases known : PollCode.ofNumber? code with _ | _ | _
    case none =>
      rw [Await.advance_unknown status known]
      exact ⟨_, (stands.forget _ (stands.inOrder.leave rfl) rfl others).giveUp foreign⟩
    case some.ready =>
      cases PollCode.number_of_ofNumber? known
      rw [Await.advance_ready status]
      exact ⟨_, (stands.forget _ stands.inOrder.take rfl others).fetch foreign declared⟩
    case some.wake =>
      cases PollCode.number_of_ofNumber? known
      rw [Await.advance_wake status]
      exact ⟨rfl, stands.forget _ stands.inOrder.wake rfl others⟩

/-- **A step of an await conforms to the phase it is in.** -/
theorem Conforms.advances {await : Await} (conforms : traced.Conforms future await) :
    Advances foreign declared future traced await := by
  cases await with
  | unpolled => exact conforms.elim
  | ended =>
      unfold Advances Await.advance
      exact conforms
  | polling polled =>
      obtain ⟨rfl, stands⟩ := conforms
      exact polling_advances foreign declared stands
  | parked polled continuation =>
      obtain ⟨rfl, phase, heard, stands⟩ := conforms
      exact parked_advances foreign declared heard stands

/-- So does a run of its steps. -/
theorem Conforms.run {await : Await} (conforms : traced.Conforms future await) (fuel : Nat) :
    (Await.run (caller foreign) (points foreign) declared fuel await traced).2.Conforms future
      (Await.run (caller foreign) (points foreign) declared fuel await traced).1.1 := by
  induction fuel generalizing await traced with
  | zero => exact conforms
  | succ fuel ih =>
      have advances := conforms.advances foreign declared
      unfold Advances at advances
      rcases step : Await.advance (caller foreign) (points foreign) declared await traced with
        ⟨next | _ | outcome, after⟩
      · rw [step] at advances
        rw [Await.run_of_next step]
        exact ih advances
      · rw [step] at advances
        rw [Await.run_of_suspended step]
        exact advances
      · rw [step] at advances
        rw [Await.run_of_ended step]
        exact advances

omit [Part κ Ledger] in
/-- An await that is dropped conforms: it cancels and frees a future that it polled. -/
theorem Conforms.drop {await : Await} (conforms : traced.Conforms future await) :
    (Await.drop (points foreign) await traced).2.Conforms future .ended := by
  cases await with
  | unpolled => exact conforms.elim
  | ended => exact conforms
  | polling polled =>
      obtain ⟨rfl, stands⟩ := conforms
      exact ⟨_, (stands.leave rfl rfl).giveUp foreign⟩
  | parked polled continuation =>
      obtain ⟨rfl, phase, rfl | ⟨data, code, same, rfl⟩, stands⟩ := conforms
      · have left := stands.forget continuation.raw (stands.inOrder.leave rfl) rfl
          fun other differs => ⟨decide_eq_false differs.symm, rfl⟩
        exact ⟨_, left.giveUp foreign⟩
      · cases same
        have left := stands.forget continuation.raw (stands.inOrder.leave rfl) rfl
          fun other differs => ⟨rfl, if_neg differs.symm⟩
        exact ⟨_, left.giveUp foreign⟩

omit [Part κ Ledger] in
/-- What others make the core do conforms as well, since it calls no entry point. -/
theorem Conforms.runEntry {await : Await} (conforms : traced.Conforms future await)
    (entry : EntryRun κ α) : (TracedCore.runEntry entry traced).2.Conforms future await := by
  cases await with
  | unpolled => exact conforms.elim
  | ended =>
      obtain ⟨call, stands⟩ := conforms
      exact ⟨call, stands.runEntry_of_isSettled (fun same => nomatch same) rfl entry⟩
  | polling polled =>
      obtain ⟨rfl, stands⟩ := conforms
      exact ⟨rfl, stands.runEntry_of_isSettled (fun same => nomatch same) rfl entry⟩
  | parked polled continuation =>
      obtain ⟨rfl, phase, heard, stands⟩ := conforms
      have awake : phase ≠ .leaving := by
        rcases heard with rfl | ⟨_, _, -, rfl⟩ <;> exact fun same => nomatch same
      obtain ⟨after, later, reached⟩ := stands.runEntry awake entry
      exact ⟨rfl, after, heard.trans later, reached⟩

end TracedCore

/-- An await, and what passed between it and a core. -/
structure AwaitRun (κ : Type) where
  await : Await
  traced : TracedCore κ

namespace AwaitRun

variable {κ τ ε : Type}

/-- What happens to an await. -/
inductive Step (κ : Type) where
  /-- The await advances as far as it gets in a number of steps, of which there is at least one. -/
  | advance (fuel : Nat)
  | drop
  /-- The core and other awaits do something. -/
  | meanwhile (act : EntryRun κ Unit)

variable [Part κ Ledger] (foreign : ForeignCore κ τ) (declared : Read ε)

/-- Takes a step. -/
def take (awaitRun : AwaitRun κ) : Step κ → AwaitRun κ
  | .advance fuel =>
    let ((await, _), traced) :=
      Await.run (TracedCore.caller foreign) (TracedCore.points foreign) declared
        (fuel + 1) awaitRun.await awaitRun.traced
    ⟨await, traced⟩
  | .drop => ⟨.ended, (Await.drop (TracedCore.points foreign) awaitRun.await awaitRun.traced).2⟩
  | .meanwhile act => ⟨awaitRun.await, (TracedCore.runEntry act awaitRun.traced).2⟩

/-- Takes one step after the other. -/
def run (awaitRun : AwaitRun κ) (steps : List (Step κ)) : AwaitRun κ :=
  steps.foldl (take foreign declared) awaitRun

/-- An await advances by at least one step. -/
theorem take_advance (await : Await) (traced : TracedCore κ) (fuel : Nat) :
    take foreign declared ⟨await, traced⟩ (.advance fuel) =
      ⟨(Await.run (TracedCore.caller foreign) (TracedCore.points foreign) declared (fuel + 1)
        await traced).1.1,
        (Await.run (TracedCore.caller foreign) (TracedCore.points foreign) declared (fuel + 1)
          await traced).2⟩ :=
  rfl

theorem run_cons (awaitRun : AwaitRun κ) (step : Step κ) (rest : List (Step κ)) :
    run foreign declared awaitRun (step :: rest) =
      run foreign declared (take foreign declared awaitRun step) rest := rfl

/-- The calls of entry points for futures. -/
def calls (awaitRun : AwaitRun κ) : List FutureCall := CallEvent.calls awaitRun.traced.events

/-- The calls that polled the future. -/
def polls (future : Handle) (awaitRun : AwaitRun κ) : List FutureCall :=
  awaitRun.traced.polled.map (.poll future)

open CallEvent

/-- What passed between an await and a core is in order. -/
structure Orderly (future : Handle) (awaitRun : AwaitRun κ) : Prop where
  /-- As long as the await has not ended, the future was polled and that was all. -/
  unfinished : awaitRun.await ≠ .ended → awaitRun.calls = awaitRun.polls future
  /-- When it has ended, the result was fetched or the future was cancelled, once, and after that
  the future was freed, once and last. -/
  finished : awaitRun.await = .ended →
    awaitRun.calls = awaitRun.polls future ++ [.complete future, .free future] ∨
      awaitRun.calls = awaitRun.polls future ++ [.cancel future, .free future]
  /-- No two polls have the same data. -/
  distinct : awaitRun.traced.polled.Nodup
  /-- The future is polled again after its latest poll was resumed with the code for that. -/
  repolled : ∀ before after data, awaitRun.traced.events =
      before ++ .called (.poll future data) :: after →
    polled before = [] ∨ ∃ earlier, latest before = some (earlier, some PollCode.wake.number)
  /-- The result is fetched after the latest poll was resumed with the code that it is ready. -/
  fetched : ∀ before after, awaitRun.traced.events =
      before ++ .called (.complete future) :: after →
    ∃ data, latest before = some (data, some PollCode.ready.number)
  /-- Among the callbacks that carry the data of a poll, the one that resumes it is the first, if
  the await neither went on nor ended before it. -/
  resumed : ∀ before after data code resumes, awaitRun.traced.events =
      before ++ .callback data code resumes :: after → data ∈ polled before →
    (resumes = true ↔ latest before = some (data, none) ∧ OnlyPolls future before)
  /-- A poll is resumed once at most. -/
  once : ∀ before after data, awaitRun.traced.events =
      before ++ .called (.poll future data) :: after → (resumptions data after).length ≤ 1
  /-- When the await has ended, none of its continuations is registered, and no code is kept for
  one of them. -/
  cleared : awaitRun.await = .ended → ∀ data ∈ awaitRun.traced.polled,
    awaitRun.traced.continuations.isOpen ⟨data⟩ = false ∧
      awaitRun.traced.continuations.value? ⟨data⟩ = none

variable {future : Handle} {awaitRun : AwaitRun κ}

section

variable {foreign declared}

/-- **Whatever happens, the await conforms.** -/
theorem take_conforms (conforms : awaitRun.traced.Conforms future awaitRun.await)
    (step : Step κ) :
    (take foreign declared awaitRun step).traced.Conforms future
      (take foreign declared awaitRun step).await := by
  cases step with
  | advance fuel => exact conforms.run foreign declared (fuel + 1)
  | drop => exact conforms.drop foreign
  | meanwhile act => exact conforms.runEntry act

/-- It conforms after any number of steps. -/
theorem run_conforms (conforms : awaitRun.traced.Conforms future awaitRun.await)
    (steps : List (Step κ)) :
    (run foreign declared awaitRun steps).traced.Conforms future
      (run foreign declared awaitRun steps).await := by
  induction steps generalizing awaitRun with
  | nil => exact conforms
  | cons step rest ih => exact ih (take_conforms conforms step)

omit [Part κ Ledger] in
/-- An await that conforms has called the entry points in order. -/
theorem orderly_of_conforms (conforms : awaitRun.traced.Conforms future awaitRun.await) :
    awaitRun.Orderly future := by
  have stands : ∃ phase, awaitRun.traced.Stands future phase ∧
      (awaitRun.await ≠ .ended → phase.isOpen = true) ∧
      (awaitRun.await = .ended → ∃ call, phase = .closed call) := by
    rcases awaitRun with ⟨_ | polled | ⟨polled, continuation⟩ | _, traced⟩
    · exact conforms.elim
    · exact ⟨.ready, conforms.2, fun _ => rfl, fun same => nomatch same⟩
    · obtain ⟨-, phase, heard, stands⟩ := conforms
      refine ⟨phase, stands, fun _ => ?_, fun same => nomatch same⟩
      rcases heard with rfl | ⟨_, _, -, rfl⟩ <;> rfl
    · obtain ⟨call, stands⟩ := conforms
      exact ⟨.closed call, stands, fun differs => absurd rfl differs, fun _ => ⟨call, rfl⟩⟩
  obtain ⟨phase, stands, going, ended⟩ := stands
  constructor
  case unfinished => exact fun differs => stands.inOrder.fits.onlyPolls (going differs)
  case finished =>
    intro same
    obtain ⟨call, rfl⟩ := ended same
    obtain ⟨calls, rfl | rfl⟩ := stands.inOrder.fits
    · exact .inl calls
    · exact .inr calls
  case distinct => exact stands.inOrder.nodup
  case repolled => exact fun before after data split => (stands.inOrder.proper split).2.2
  case fetched => exact fun before after split => (stands.inOrder.proper split).2
  case resumed =>
    exact fun before after data code resumes split => stands.inOrder.proper split
  case once => exact fun before after data split => (stands.inOrder.resumptions_le split).1
  case cleared =>
    intro same data member
    obtain ⟨call, rfl⟩ := ended same
    exact ⟨stands.awaited data member, stands.resumed data member⟩

omit [Part κ Ledger] in
/-- What others make the core do is no call of the await. -/
theorem calls_runEntry {α : Type} (traced : TracedCore κ) (entry : EntryRun κ α) :
    CallEvent.calls (TracedCore.runEntry entry traced).2.events =
      CallEvent.calls traced.events := by
  have happened (interferences : List Interference) (traced : TracedCore κ) :
      CallEvent.calls (interferences.foldl TracedCore.interfere traced).events =
        CallEvent.calls traced.events := by
    induction interferences generalizing traced with
    | nil => rfl
    | cons interference rest ih =>
        refine (ih _).trans ?_
        cases interference with
        | callback data code => exact calls_append_callback traced.events data code _
        | opened => rfl
        | left data =>
            unfold TracedCore.interfere
            dsimp only
            split <;> rfl
  exact happened _ _

end

/-- An await that has ended calls nothing any more. -/
theorem calls_take_of_ended (ended : awaitRun.await = .ended) (step : Step κ) :
    (take foreign declared awaitRun step).await = .ended ∧
      (take foreign declared awaitRun step).calls = awaitRun.calls := by
  obtain ⟨await, traced⟩ := awaitRun
  cases ended
  cases step with
  | advance fuel =>
      have stays :
          Await.advance (TracedCore.caller foreign) (TracedCore.points foreign) declared .ended
            traced =
        (.suspended, traced) := by
        unfold Await.advance
        rfl
      rw [take_advance, Await.run_of_suspended stays]
      exact ⟨rfl, rfl⟩
  | drop => exact ⟨rfl, rfl⟩
  | meanwhile act => exact ⟨rfl, calls_runEntry traced act⟩

/-- An await that has ended calls nothing any more. -/
theorem calls_run_of_ended (ended : awaitRun.await = .ended) (steps : List (Step κ)) :
    (run foreign declared awaitRun steps).calls = awaitRun.calls := by
  induction steps generalizing awaitRun with
  | nil => rfl
  | cons step rest ih =>
      obtain ⟨still, same⟩ := calls_take_of_ended foreign declared ended step
      exact (ih still).trans same

/-- Nothing passed between an await and a core yet. -/
def start (core : κ) (continuations : Continuations) (future : Handle) : AwaitRun κ :=
  ⟨.unpolled future, ⟨core, continuations, []⟩⟩

/-- **Whatever a core does, a future that is awaited is fetched or cancelled, freed once and last,
and none of its continuations is left.** A handle that names no future is not passed on. -/
theorem every_future_is_freed_once {continuations : Continuations}
    (orderly : continuations.Orderly) (core : κ) (future : Handle) (fuel : Nat)
    (steps : List (Step κ)) :
    (future.isValid = true →
      (run foreign declared (start core continuations future) (.advance fuel :: steps)).Orderly
        future) ∧
    (¬ future.isValid = true →
      (run foreign declared (start core continuations future) (.advance fuel :: steps)).calls =
        []) := by
  rw [run_cons]
  refine ⟨fun valid => ?_, fun invalid => ?_⟩
  · have begun : TracedCore.Conforms future ⟨core, continuations, []⟩ (.polling future) :=
      ⟨rfl, .begin, orderly, List.forall_mem_nil _, List.forall_mem_nil _, List.forall_mem_nil _⟩
    refine orderly_of_conforms (run_conforms ?_ steps)
    unfold start
    rw [take_advance, Await.run_of_next (Await.advance_unpolled valid)]
    exact begun.run foreign declared fuel
  · unfold start
    rw [take_advance, Await.run_of_ended (Await.advance_invalid invalid)]
    exact calls_run_of_ended foreign declared rfl steps

/-! ### A core that calls back as it likes -/

/-- An entry point that only returns a value, while something happens. -/
def returning {κ α : Type} (value : α) (interferences : List Interference) : EntryRun κ α :=
  fun core => ((value, interferences), core)

/-- This core calls back three times with every poll, with stale data and again with the right
ones, and reports a result in a way that nobody knows. -/
def eager : ForeignCore Ledger Unit where
  poll _ data := returning () [.callback 0 0, .callback data PollCode.ready.number,
    .callback data PollCode.wake.number]
  complete _ := returning ((), ⟨9, Buffer.empty⟩) [.callback 1 0]
  cancel _ := returning () []
  free _ := returning () [.callback 1 1]
  allocate _ := returning (Buffer.empty, Status.success) []
  fromBytes _ := returning (Buffer.empty, Status.success) []
  freeBuffer _ := returning ((), Status.success) []
  reserve buffer _ := returning (buffer, Status.success) []

/-- A future that is ready at once, and a handle that is null. -/
theorem eager_future_is_freed_once :
    (run eager Utf8.read (start .empty Continuations.empty ⟨7⟩) [.advance 3, .drop]).Orderly ⟨7⟩ ∧
      (run eager Utf8.read (start .empty Continuations.empty ⟨7⟩) [.advance 3, .drop]).calls =
        [.poll ⟨7⟩ 1, .complete ⟨7⟩, .free ⟨7⟩] ∧
      (run eager Utf8.read (start .empty Continuations.empty ⟨0⟩) [.advance 3, .drop]).calls = [] :=
  ⟨(every_future_is_freed_once eager Utf8.read (.named _) .empty ⟨7⟩ 3 [.drop]).1 (by decide), rfl,
    (every_future_is_freed_once eager Utf8.read (.named _) .empty ⟨0⟩ 3 [.drop]).2 (by decide)⟩

end AwaitRun

end Boundary
