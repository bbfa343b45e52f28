import Boundary.Future.Registry
import Boundary.Proofs.Call.Report

/-! # Fetching the result of a future

Fetching the result answers as a call does that ended as the work ended
(`Boundary.Futures.complete_of_ended`). While there is no result, after it was fetched, and
for a handle that is not known, it answers as a call does that panicked with a message. A
future that was cancelled answers that it was.
-/

namespace Boundary

/-- The work of a future ended. -/
def Progress.ofOutcome : Outcome Lowering Output → Progress
  | .ok output => .finished (.ok output)
  | .error (.error declared) => .finished (.error declared)
  | .error (.panic payload) => .panicked payload.message

/-- Work is going on, or has ended in some way and its outcome is there, or was used up. -/
theorem Progress.running_or_ended (progress : Progress) :
    (∃ work, progress = .running work) ∨ (∃ outcome, progress = .ofOutcome outcome) ∨
      progress = .consumed := by
  cases progress with
  | running work => exact .inl ⟨work, rfl⟩
  | finished result =>
      refine .inr (.inl ?_)
      cases result with
      | ok output => exact ⟨.ok output, rfl⟩
      | error declared => exact ⟨.error (.error declared), rfl⟩
  | panicked message => exact .inr (.inl ⟨.error (.panic (.text message)), rfl⟩)
  | consumed => exact .inr (.inr rfl)

/-- What is left of the work once its result was asked for. -/
def Progress.taken : Progress → Progress
  | .running work => .running work
  | _ => .consumed

theorem Progress.taken_ofOutcome (outcome : Outcome Lowering Output) :
    (ofOutcome outcome).taken = .consumed := by
  rcases outcome with (declared | payload) | output <;> rfl

namespace Futures

variable {futures : Futures} {handle : Handle} {progress : Progress} {slot : Slot}

/-- A registry that is looked at stays as it is. -/
theorem current_apply {σ : Type} {part : Part σ Futures} (state : σ) :
    (current : StateM σ Futures) state = (part.get state, state) := rfl

/-- The answer of a call that ended in some way. -/
def reported (outcome : Outcome Lowering Output) : EntryPoint Futures Passed := fun futures =>
  Envelope.outputOrError futures.channel (Act.ofOutcome outcome) futures

theorem reported_table (outcome : Outcome Lowering Output) (futures : Futures) :
    (reported outcome futures).2.table = futures.table := by
  cases outcome <;> rfl

theorem reported_update (outcome : Outcome Lowering Output) (handle : Handle)
    (change : CoreFuture → CoreFuture) (futures : Futures) :
    (reported outcome (update handle change futures).2).1 = (reported outcome futures).1 := by
  cases outcome <;> rfl

/-- A panic of the work is reported as one. -/
theorem reported_panic (payload : PanicPayload) (futures : Futures) :
    reported (.error (.panic payload)) futures =
      (do return (futures.channel.placeholder, ← onPart (Status.panic payload.message)) :
        StateM Futures (Passed × Status)) futures := by
  have unwound : Envelope.pack Output.pass (.error (.panic payload)) futures.ledger =
    .error (.panic payload) futures.ledger := rfl
  have panicked : reported (.error (.panic payload)) futures = _ :=
    Envelope.result_of_error unwound
  rw [panicked]
  unfold Fault.wording
  generalize Status.panic payload.message = run
  rfl

/-- A call that panics with a message. -/
def refused (message : String) : EntryPoint Futures Passed :=
  reported (.error (.panic (.text message)))

theorem refused_table (message : String) (futures : Futures) :
    (refused message futures).2.table = futures.table :=
  reported_table _ futures

theorem refused_eq (message : String) (futures : Futures) : refused message futures =
    (do return (futures.channel.placeholder, ← onPart (Status.panic message)) :
      StateM Futures (Passed × Status)) futures :=
  reported_panic (.text message) futures

theorem refused_meaning? (message : String) (futures : Futures) :
    (refused message futures).1.2.meaning? = some .panic := by
  rw [refused_eq]
  exact Status.meaning?_panic message futures.ledger

/-- A request for a future that is not known is refused. -/
theorem complete_of_none (unknown : futures.table.find? handle = none) :
    complete handle futures =
      refused (HandleError.invalidHandle futures.table.name "get" handle).message futures := by
  unfold complete Table.get
  simp only [bind_apply, get_apply, unknown]
  generalize (HandleError.invalidHandle futures.table.name "get" handle).message = message
  exact (refused_eq message futures).symm

theorem complete_of_cancelled (found : futures.table.find? handle = some ⟨progress, .cancelled⟩) :
    complete handle futures = ((futures.channel.placeholder, Status.cancelled), futures) := by
  unfold complete Table.get
  simp only [bind_apply, get_apply, found]
  rfl

/-- A request that comes too early is refused. -/
theorem complete_of_running {work : Work}
    (found : futures.table.find? handle = some ⟨.running work, slot⟩)
    (active : slot.isCancelled = false) :
    complete handle futures = refused "complete called before the future was ready" futures := by
  unfold complete Table.get
  simp only [bind_apply, get_apply, found, active]
  rw [if_neg Bool.false_ne_true]
  exact (refused_eq "complete called before the future was ready" futures).symm

/-- A request for a result that was taken is refused. -/
theorem complete_of_consumed (found : futures.table.find? handle = some ⟨.consumed, slot⟩)
    (active : slot.isCancelled = false) :
    complete handle futures = refused "future result was already taken" futures := by
  unfold complete Table.get
  simp only [bind_apply, get_apply, found, active]
  rw [if_neg Bool.false_ne_true]
  exact (refused_eq "future result was already taken" futures).symm

/-- The result is fetched as a call would report it, and with that it is used up. -/
theorem complete_of_ended {outcome : Outcome Lowering Output}
    (found : futures.table.find? handle = some ⟨.ofOutcome outcome, slot⟩)
    (active : slot.isCancelled = false) :
    complete handle futures = reported outcome
      (update handle (fun future => { future with progress := .consumed }) futures).2 := by
  unfold complete Table.get
  simp only [bind_apply, get_apply, found, active]
  rw [if_neg Bool.false_ne_true]
  rcases outcome with (declared | payload) | output
  · rfl
  · simp only [Progress.ofOutcome, bind_apply]
    rw [reported_panic]
    generalize Status.panic payload.message = run
    rfl
  · rfl

/-- Fetching uses the result up at most, and changes nothing else in the table. -/
theorem complete_table (handle : Handle) (futures : Futures) :
    (complete handle futures).2.table = futures.table ∨
      (complete handle futures).2.table =
        futures.table.update handle fun future => { future with progress := .consumed } := by
  rcases found : futures.table.find? handle with _ | ⟨progress, slot⟩
  · rw [complete_of_none found]
    exact .inl (refused_table _ _)
  cases active : slot.isCancelled with
  | true =>
      cases slot with
      | cancelled =>
          rw [complete_of_cancelled found]
          exact .inl rfl
      | empty | waked | waiting => cases active
  | false =>
      rcases progress.running_or_ended with ⟨work, rfl⟩ | ⟨outcome, rfl⟩ | rfl
      · rw [complete_of_running found active]
        exact .inl (refused_table _ _)
      · rw [complete_of_ended found active]
        exact .inr (reported_table _ _)
      · rw [complete_of_consumed found active]
        exact .inl (refused_table _ _)

end Futures

end Boundary
