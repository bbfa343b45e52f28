import Boundary.Proofs.Future.Driver
import Mathlib.Data.List.Induction

/-! # The stages of a future

A host that drives a future knows at every moment what a request for its result will answer: as long
as the work runs, that it is too early; then its outcome, once; and after that, that the outcome was
taken, that the future was cancelled, or that it is not known
(`Boundary.FutureStage.outcome_is_fetched_once`). A stage is what the registry has under the handle,
up to the continuations (`Boundary.FutureStage.Stands`), and each step of the host takes one stage
to the next.
-/

namespace Boundary

/-- How far a future has come, as its host sees it. -/
inductive FutureStage where
  /-- The work pauses a number of times more before it ends. -/
  | running (left : Nat)
  | finished (outcome : Outcome Lowering Output)
  | fetched
  | cancelled
  | freed

namespace FutureStage

/-- A step takes a future from one stage to the next. What the work comes to may depend on the
memory that is handed out as it ends. -/
def next (ending : Act Ledger Lowering Output) (ledger : Ledger) (stage : FutureStage) :
    FutureDriver.Step → FutureStage
  | .poll _ =>
    match stage with
    | running (left + 1) => running left
    | running 0 => finished (ending.observe ledger).1
    | stage => stage
  | .complete =>
    match stage with
    | finished _ => fetched
    | stage => stage
  | .cancel =>
    match stage with
    | freed => freed
    | _ => cancelled
  | .free => freed
  | .wake _ | .spawn _ | .elsewhere _ => stage

/-- The answer to a request for the result. -/
def answer (handle : Handle) : FutureStage → EntryPoint Futures Passed
  | running _ => Futures.refused "complete called before the future was ready"
  | finished outcome => Futures.reported outcome
  | fetched => Futures.refused "future result was already taken"
  | cancelled => fun futures => ((futures.channel.placeholder, Status.cancelled), futures)
  | freed => fun futures =>
    Futures.refused (HandleError.invalidHandle futures.table.name "get" handle).message futures

/-- What is in the registry at a stage. -/
inductive Stands (ending : Act Ledger Lowering Output) :
    FutureStage → Option CoreFuture → Prop where
  | running {label : String} {pauses : List Pause} {wakesOnDrop : Bool} {slot : Slot}
      (active : slot.isCancelled = false) :
      Stands ending (running pauses.length)
        (some ⟨.running ⟨label, pauses, ending, wakesOnDrop⟩, slot⟩)
  | finished {outcome : Outcome Lowering Output} {slot : Slot} (active : slot.isCancelled = false) :
      Stands ending (finished outcome) (some ⟨.ofOutcome outcome, slot⟩)
  | fetched {slot : Slot} (active : slot.isCancelled = false) :
      Stands ending fetched (some ⟨.consumed, slot⟩)
  | cancelled {progress : Progress} : Stands ending cancelled (some ⟨progress, .cancelled⟩)
  | freed : Stands ending freed none

variable {ending : Act Ledger Lowering Output} {stage : FutureStage} {future : CoreFuture}

/-- A poll takes a future from its stage to the next. -/
theorem Stands.poll (stands : Stands ending stage (some future)) (ledger : Ledger) (kept : Bool)
    (data : UInt64) : Stands ending (stage.next ending ledger (.poll data))
      ((FutureDriver.Step.poll data).effect ledger kept future).1 := by
  cases stands with
  | @running label pauses wakesOnDrop slot active =>
      simp only [FutureDriver.Step.effect, active, Bool.false_eq_true, ↓reduceIte]
      cases pauses with
      | nil => exact .finished (Slot.passes_wakeTimes active _).active
      | cons pause rest =>
          have woken := Slot.passes_wakeTimes active pause.wakes
          exact .running (Slot.passes_store woken.active data).active
  | @finished outcome slot active =>
      simp only [FutureDriver.Step.effect, active, Bool.false_eq_true, ↓reduceIte]
      rcases outcome with (declared | payload) | output <;> exact .finished active
  | fetched active =>
      simp only [FutureDriver.Step.effect, active, Bool.false_eq_true, ↓reduceIte]
      exact .fetched active
  | cancelled => exact .cancelled

/-- So does a request for the result. -/
theorem Stands.fetch (stands : Stands ending stage (some future)) (ledger : Ledger) (kept : Bool) :
    Stands ending (stage.next ending ledger .complete)
      (FutureDriver.Step.complete.effect ledger kept future).1 := by
  cases stands with
  | running active =>
      simp only [FutureDriver.Step.effect, active, Bool.false_eq_true, ↓reduceIte]
      exact .running active
  | finished active =>
      simp only [FutureDriver.Step.effect, active, Bool.false_eq_true, ↓reduceIte,
        Progress.taken_ofOutcome]
      exact .fetched active
  | fetched active =>
      simp only [FutureDriver.Step.effect, active, Bool.false_eq_true, ↓reduceIte]
      exact .fetched active
  | cancelled => exact .cancelled

/-- **A step of the host takes a future from its stage to the next.** -/
theorem Stands.step (stands : Stands ending stage (some future)) (ledger : Ledger) (kept : Bool)
    (step : FutureDriver.Step) :
    Stands ending (stage.next ending ledger step) (step.effect ledger kept future).1 := by
  cases step with
  | poll data => exact stands.poll ledger kept data
  | complete => exact stands.fetch ledger kept
  | wake keeps =>
      cases stands with
      | running active => exact .running (Slot.passes_wake active).active
      | finished active => exact .finished (Slot.passes_wake active).active
      | fetched active => exact .fetched (Slot.passes_wake active).active
      | cancelled => exact .cancelled
  | cancel =>
      obtain ⟨progress, left⟩ := FutureDriver.Step.effect_cancel ledger kept future
      rw [left]
      cases stands <;> exact .cancelled
  | free => exact .freed
  | spawn work => exact stands
  | elsewhere use => exact stands

/-- The answer that a registry gives is that of the stage. -/
theorem Stands.complete {futures : Futures} {handle : Handle}
    (stands : Stands ending stage (futures.table.find? handle)) :
    (Futures.complete handle futures).1 = (stage.answer handle futures).1 := by
  cases found : futures.table.find? handle with
  | none =>
      rw [found] at stands
      cases stands
      rw [Futures.complete_of_none found]
      rfl
  | some future =>
      rw [found] at stands
      cases stands with
      | running active =>
          rw [Futures.complete_of_running found active]
          rfl
      | finished active =>
          rw [Futures.complete_of_ended found active]
          exact Futures.reported_update _ _ _ _
      | fetched active =>
          rw [Futures.complete_of_consumed found active]
          rfl
      | cancelled =>
          rw [Futures.complete_of_cancelled found]
          rfl

/-- A request is answered by a panic, unless the outcome is there or the future was cancelled. -/
theorem answer_panics {handle : Handle} (pending : ∀ outcome, stage ≠ finished outcome)
    (wanted : stage ≠ cancelled) (futures : Futures) :
    (stage.answer handle futures).1.2.meaning? = some .panic := by
  unfold answer
  cases stage with
  | finished outcome => exact absurd rfl (pending outcome)
  | cancelled => exact absurd rfl wanted
  | _ => simp only [Futures.refused_meaning?]

/-! ### Along a run -/

/-- The stage that a run leads to. -/
def after (handle : Handle) (ending : Act Ledger Lowering Output) :
    FutureDriver → FutureStage → List FutureDriver.Step → FutureStage
  | _, stage, [] => stage
  | driver, stage, step :: rest =>
    after handle ending (FutureDriver.perform handle step driver).2
      (stage.next ending driver.futures.ledger step) rest

variable {handle : Handle} {driver : FutureDriver} {steps more : List FutureDriver.Step}
  {outcome : Outcome Lowering Output} {left : Nat}

/-- What two parts of a run lead to is what the second leads to from the first. -/
theorem after_append (handle : Handle) (ending : Act Ledger Lowering Output) (driver : FutureDriver)
    (stage : FutureStage) (steps more : List FutureDriver.Step) :
    after handle ending driver stage (steps ++ more) = after handle ending (driver.run handle steps)
      (after handle ending driver stage steps) more := by
  induction steps generalizing driver stage with
  | nil => rfl
  | cons step rest ih => exact ih _ _

/-- **A run takes a future from its stage to the one that it leads to.** -/
theorem Stands.run (stands : Stands ending stage (driver.find? handle))
    (issued : handle.raw.toNat < driver.futures.table.next) (steps : List FutureDriver.Step) :
    Stands ending (after handle ending driver stage steps)
      ((driver.run handle steps).find? handle) := by
  induction steps generalizing driver stage with
  | nil => exact stands
  | cons step rest ih =>
      cases found : driver.find? handle with
      | none =>
          rw [found] at stands
          cases stands
          have performed := FutureDriver.perform_gone found issued step
          refine ih ?_ (Nat.lt_of_lt_of_le issued performed.next)
          rw [performed.find?]
          cases step <;> exact Stands.freed
      | some future =>
          rw [found] at stands
          have performed := FutureDriver.perform_leaves found issued step
          refine ih ?_ (Nat.lt_of_lt_of_le issued performed.next)
          rw [performed.find?]
          exact stands.step _ _ step

/-- Whether the outcome was fetched or given up. -/
def isOver : FutureStage → Bool
  | running _ | finished _ => false
  | fetched | cancelled | freed => true

/-- A stage that is over stays over. -/
theorem isOver_after (closed : stage.isOver = true) (driver : FutureDriver)
    (steps : List FutureDriver.Step) :
    (after handle ending driver stage steps).isOver = true := by
  induction steps generalizing driver stage with
  | nil => exact closed
  | cons step rest ih =>
      refine ih ?_ _
      cases stage with
      | running left => cases closed
      | finished outcome => cases closed
      | _ => cases step <;> rfl

/-- Work is finished by a poll when no pause is left, with the outcome of that moment. -/
theorem next_eq_finished {ledger : Ledger} {step : FutureDriver.Step}
    (ends : stage.next ending ledger step = finished outcome) :
    stage = finished outcome ∨
      stage = running 0 ∧ (∃ data, step = .poll data) ∧ outcome = (ending.observe ledger).1 := by
  cases step with
  | poll data =>
      rcases stage with (_ | left) | other | _ | _ | _
      · cases ends
        exact .inr ⟨rfl, ⟨data, rfl⟩, rfl⟩
      · cases ends
      all_goals exact .inl ends
  | complete => rcases stage with left | other | _ | _ | _ <;> cases ends
  | cancel => rcases stage with left | other | _ | _ | _ <;> cases ends
  | free => cases ends
  | _ => exact .inl ends

/-- Only a poll that finds no pause left finishes a future, and what the work comes to then is its
outcome. -/
theorem finished_by_poll
    (ends : after handle ending driver (running left) steps = finished outcome) :
    ∃ before data later, steps = before ++ .poll data :: later ∧
      after handle ending driver (running left) before = running 0 ∧
      outcome = (ending.observe (driver.run handle before).futures.ledger).1 := by
  -- Either an earlier step finished the future, or the last one does.
  induction steps using List.reverseRecOn with
  | nil => cases ends
  | append_singleton steps step ih =>
      rw [after_append] at ends
      rcases next_eq_finished ends with earlier | ⟨last, ⟨data, rfl⟩, own⟩
      · obtain ⟨before, data, later, rfl, last, own⟩ := ih earlier
        exact ⟨before, data, later ++ [step], List.append_assoc _ _ _, last, own⟩
      · exact ⟨steps, data, [], rfl, last, own⟩

/-- As many polls as there are pauses, and one more, finish the work. -/
theorem after_polls {polls : List UInt64} (enough : polls.length = left + 1)
    (driver : FutureDriver) :
    ∃ outcome, after handle ending driver (running left) (polls.map .poll) = finished outcome := by
  induction left generalizing driver polls with
  | zero =>
      obtain ⟨data, rfl⟩ := List.length_eq_one_iff.mp enough
      exact ⟨_, rfl⟩
  | succ left ih =>
      cases polls with
      | nil => cases enough
      | cons data rest => exact ih (Nat.succ.inj enough) _

theorem after_freed (driver : FutureDriver) (steps : List FutureDriver.Step) :
    after handle ending driver freed steps = freed := by
  induction steps generalizing driver with
  | nil => rfl
  | cons step rest ih => cases step <;> exact ih _

theorem after_of_free (free : .free ∈ steps) (driver : FutureDriver) (stage : FutureStage) :
    after handle ending driver stage steps = freed := by
  obtain ⟨before, later, rfl⟩ := List.append_of_mem free
  rw [after_append]
  exact after_freed _ later

/-- A future that was cancelled stays so until it is freed. -/
theorem after_cancelled (kept : .free ∉ steps) (driver : FutureDriver) :
    after handle ending driver cancelled steps = cancelled := by
  induction steps generalizing driver with
  | nil => rfl
  | cons step rest ih =>
      obtain ⟨other, others⟩ := List.ne_and_not_mem_of_not_mem_cons kept
      cases step with
      | free => exact absurd rfl other
      | _ => exact ih others _

/-- Nothing but a free frees a future. -/
theorem next_ne_freed {step : FutureDriver.Step} (other : step ≠ .free) (known : stage ≠ freed)
    (ledger : Ledger) : stage.next ending ledger step ≠ freed := by
  cases stage with
  | freed => exact absurd rfl known
  | running left =>
      cases step with
      | free => exact absurd rfl other
      | poll data => cases left <;> exact nofun
      | _ => exact nofun
  | _ =>
      cases step with
      | free => exact absurd rfl other
      | _ => exact nofun

/-- A run without a free leaves the future known. -/
theorem after_ne_freed (kept : .free ∉ steps) (known : stage ≠ freed) (driver : FutureDriver) :
    after handle ending driver stage steps ≠ freed := by
  induction steps generalizing driver stage with
  | nil => exact known
  | cons step rest ih =>
      obtain ⟨other, others⟩ := List.ne_and_not_mem_of_not_mem_cons kept
      exact ih others (next_ne_freed other.symm known _) _

/-- A run with a cancel and no free leaves the future cancelled. -/
theorem after_of_cancel (cancel : .cancel ∈ steps) (kept : .free ∉ steps) (known : stage ≠ freed)
    (driver : FutureDriver) : after handle ending driver stage steps = cancelled := by
  obtain ⟨before, later, rfl⟩ := List.append_of_mem cancel
  have keptBefore : .free ∉ before := fun free => kept (List.mem_append_left _ free)
  have keptLater : .free ∉ later :=
    fun free => kept (List.mem_append_right _ (List.mem_cons_of_mem _ free))
  have standing : after handle ending driver stage before ≠ freed :=
    after_ne_freed keptBefore known driver
  rw [after_append]
  generalize after handle ending driver stage before = reached at standing
  cases reached with
  | freed => exact absurd rfl standing
  | _ => exact after_cancelled keptLater _

/-- A request that comes too early leaves the future as it is. -/
theorem find?_complete_running (stands : Stands ending (running left) (driver.find? handle))
    (issued : handle.raw.toNat < driver.futures.table.next) :
    (FutureDriver.perform handle .complete driver).2.find? handle = driver.find? handle := by
  cases found : driver.find? handle with
  | none =>
      rw [found] at stands
      cases stands
  | some future =>
      rw [found] at stands
      cases stands with
      | running active =>
          rw [(FutureDriver.perform_leaves found issued .complete).find?]
          simp only [FutureDriver.Step.effect, active, Bool.false_eq_true, ↓reduceIte]
          rfl

/-- The stage that a run leads to that began with all of the work before it. -/
def reached (handle : Handle) (work : Work) (start : FutureDriver)
    (steps : List FutureDriver.Step) : FutureStage :=
  after handle work.ending start (running work.pauses.length) steps

/-- What a host can rely on when it asks for the result of a future. -/
structure Completes (handle : Handle) (work : Work) (start : FutureDriver)
    (steps : List FutureDriver.Step) : Prop where
  /-- The answer is that of the stage. -/
  answered : (Futures.complete handle (start.run handle steps).futures).1 =
    ((reached handle work start steps).answer handle (start.run handle steps).futures).1
  /-- Unless there is an outcome to fetch, or the future was cancelled, it is a panic. -/
  panics : (∀ outcome, reached handle work start steps ≠ finished outcome) →
    reached handle work start steps ≠ cancelled →
    (Futures.complete handle (start.run handle steps).futures).1.2.meaning? = some .panic
  /-- An outcome that can be fetched is what the work came to in a poll that found it finished. -/
  own : ∀ outcome, reached handle work start steps = finished outcome →
    ∃ before data later, steps = before ++ .poll data :: later ∧
      reached handle work start before = running 0 ∧
      outcome = (work.ending.observe (start.run handle before).futures.ledger).1
  /-- Once it was fetched, there is none for ever. -/
  once : ∀ outcome, reached handle work start steps = finished outcome → ∀ more outcome',
    reached handle work start (steps ++ .complete :: more) ≠ finished outcome'
  /-- Asking too early leaves the future as it is, and it can still be polled to its end. -/
  pollable : ∀ left, reached handle work start steps = running left →
    (FutureDriver.perform handle .complete (start.run handle steps)).2.find? handle =
      (start.run handle steps).find? handle ∧
    ∀ polls : List UInt64, polls.length = left + 1 → ∃ outcome,
      reached handle work start (steps ++ .complete :: polls.map .poll) = finished outcome
  cancelled : .cancel ∈ steps → .free ∉ steps → reached handle work start steps = cancelled
  freed : .free ∈ steps →
    reached handle work start steps = freed ∧ (start.run handle steps).find? handle = none

/-- **The outcome is fetched once**, from any host in which the future was just spawned. -/
theorem run_completes {work : Work} (found : driver.find? handle = some ⟨.running work, .empty⟩)
    (issued : handle.raw.toNat < driver.futures.table.next) (steps : List FutureDriver.Step) :
    Completes handle work driver steps := by
  have started : Stands work.ending (running work.pauses.length) (driver.find? handle) :=
    found ▸ .running rfl
  have stands : Stands work.ending (reached handle work driver steps)
    ((driver.run handle steps).find? handle) := started.run issued steps
  have known := FutureDriver.issued_run issued steps
  have continued (more : List FutureDriver.Step) : reached handle work driver (steps ++ more) =
      after handle work.ending (driver.run handle steps) (reached handle work driver steps) more :=
    after_append _ _ _ _ _ _
  refine ⟨stands.complete, ?_, fun _ => finished_by_poll, ?_, ?_, ?_, ?_⟩
  · intro pending wanted
    rw [stands.complete]
    exact answer_panics pending wanted _
  · intro outcome ended more outcome' again
    have closed (driver : FutureDriver) :
      (after handle work.ending driver fetched more).isOver = true :=
      isOver_after rfl driver more
    rw [continued, ended] at again
    exact absurd (closed _) (ne_true_of_eq_false (congrArg isOver again))
  · intro left goesOn
    rw [goesOn] at stands
    refine ⟨find?_complete_running stands known, fun polls enough => ?_⟩
    rw [continued, goesOn]
    exact after_polls enough _
  · intro cancel kept
    have standing : running work.pauses.length ≠ freed := nofun
    exact after_of_cancel cancel kept standing driver
  · intro free
    have stage : reached handle work driver steps = freed := after_of_free free driver _
    rw [stage] at stands
    refine ⟨stage, ?_⟩
    generalize (driver.run handle steps).find? handle = left at stands
    cases stands
    rfl

/-- **The outcome of a future is fetched once at most**, and only after a poll found it, however the
host drives the future. -/
theorem outcome_is_fetched_once {futures started : Futures} {work : Work}
    (orderly : futures.table.Orderly)
    (spawned : Futures.spawn work futures = (.ok handle, started))
    (steps : List FutureDriver.Step) :
    Completes handle work ⟨started, []⟩ steps := by
  obtain ⟨found, issued⟩ := FutureDriver.find?_of_spawn orderly spawned []
  exact run_completes found issued steps

theorem idle_outcome_is_fetched_once :
    Completes ⟨1⟩ (FutureDriver.idle [⟨true, 0⟩]) ⟨FutureDriver.idling [⟨true, 0⟩], []⟩
      [.complete, .poll 1, .poll 2, .complete, .complete, .cancel] :=
  outcome_is_fetched_once (.named _) (FutureDriver.spawn_idle _) _

example : reached ⟨1⟩ (FutureDriver.idle [⟨true, 0⟩]) ⟨FutureDriver.idling [⟨true, 0⟩], []⟩
    [.complete, .poll 1, .poll 2] = .finished (.ok .void) := rfl

end FutureStage

end Boundary
