import Boundary.Callback.Object
import Boundary.Callback.Registry
import Boundary.Proofs.Call.InProcess
import Boundary.Proofs.Handle.Latest
import Boundary.Proofs.Job.Delivery
import Boundary.Proofs.Job.Runtime

/-! # A method that is called in two ways

The core calls a method of a host object through the table of its interface. One function of the
table runs the method and answers when it is done; the other one starts a job for it, which answers
the core's callback later, or at once if there is no object under the handle
(`Boundary.AsyncCalls.table`). Here are the states that both work on, and what the functions and
the steps of such a job come to, as equations.
-/

namespace Boundary

/-- A handle with an object is in the table. -/
theorem Table.contains_of_get {α : Type} {table : Table α} {handle : Handle} {object : α}
    (found : table.get handle = .ok object) : table.contains handle = true := by
  unfold Table.get at found
  unfold Table.contains
  cases known : table.find? handle with
  | none =>
      rw [known] at found
      cases found
  | some object => rfl

/-! ## Jobs on any state -/

namespace Jobs

variable {σ ω ρ : Type} [Part σ (Jobs ω ρ)] {host : JobHost σ ω ρ} {state : σ} {handle : Handle}
  {channel : Channel} {recipient : ρ} {work : ω}

/-- How the work of a job ended, if it did and the completion step is still to come. -/
def outcome? (jobs : Jobs ω ρ) (handle : Handle) : Option (Outcome Lowering Output) :=
  match jobs.find? handle with
  | some ⟨_, _, .ended outcome, _⟩ => some outcome
  | _ => none

/-- As long as there are handles, a job is started. -/
theorem start_of_room {jobs : Jobs ω ρ} (room : jobs.pending.next ≤ Handle.greatest)
    (channel : Channel) (work : ω) (recipient : ρ) :
    ∃ handle after, start channel work recipient jobs = (.ok handle, after) := by
  unfold start
  rw [Table.insert_of_room room]
  exact ⟨_, _, rfl⟩

/-- The work of a job is run to its end. -/
theorem perform_of_working (found : (Part.get state : Jobs ω ρ).find? handle =
      some ⟨channel, recipient, .working work, false⟩) :
    perform host handle state =
      let ran := (host.work work).observe state
      onPart (enter handle (.ended ran.1) : StateM (Jobs ω ρ) Unit) ran.2 := by
  rw [perform_eq, found]
  rfl

/-- Nothing is left to be done for a job whose work has ended. -/
theorem perform_of_not_isWorking (idle : (Part.get state : Jobs ω ρ).isWorking handle = false) :
    perform host handle state = ((), state) := by
  unfold isWorking at idle
  rw [perform_eq]
  rcases found : (Part.get state : Jobs ω ρ).find? handle with
    _ | ⟨channel, recipient, work | outcome | _, unwanted⟩
  case some.working =>
    rw [found] at idle
    cases idle
  all_goals rfl

variable [Part σ Ledger]

/-- The completion step waits for the work. -/
theorem settle_of_isWorking (working : (Part.get state : Jobs ω ρ).isWorking handle = true) :
    settle host handle state = ((), state) := by
  unfold isWorking at working
  rw [settle_eq]
  cases found : (Part.get state : Jobs ω ρ).find? handle with
  | none => rfl
  | some job =>
      rw [found] at working
      exact if_pos working

/-- A job that is gone is not completed. -/
theorem settle_of_none (gone : (Part.get state : Jobs ω ρ).find? handle = none) :
    settle host handle state = ((), state) := by
  rw [settle_eq, gone]

omit [Part σ (Jobs ω ρ)] in
/-- A job that could not start answers with a panic. -/
theorem refuse_eq (host : JobHost σ ω ρ) (channel : Channel) (recipient : ρ) (cause : HandleError)
    (state : σ) :
    refuse host channel recipient cause state =
      let reported := Status.panic cause.message (Part.get state)
      host.complete recipient ⟨channel.placeholder, reported.1⟩ (Part.set reported.2 state) := by
  unfold refuse
  generalize Status.panic cause.message = reported
  rfl

end Jobs

/-! ## The two functions of a method -/

/-- The functions of a method, as a host puts them into the table of an interface. -/
structure MethodTable (σ : Type) where
  /-- Runs the method. -/
  call : Handle → EntryPoint σ Passed
  /-- Starts a job for the method. -/
  start : Handle → (data : UInt64) → StateM σ Handle

/-- Whom a job answers: the core's callback for results of a channel, with the data for it. -/
structure Addressee where
  channel : Channel
  data : UInt64

/-- A host with objects and jobs, and a core that calls it. -/
structure AsyncCalls (α : Type) where
  registry : CallbackRegistry α
  jobs : Jobs (Act Ledger Lowering Output) Addressee
  waiters : Waiters
  ledger : Ledger

namespace AsyncCalls

variable {α : Type}

instance : Part (AsyncCalls α) (CallbackRegistry α) where
  get asyncCalls := asyncCalls.registry
  set registry asyncCalls := { asyncCalls with registry := registry }
  get_set _ _ := rfl
  set_get _ := rfl
  set_set _ _ _ := rfl

instance : Part (AsyncCalls α) (Jobs (Act Ledger Lowering Output) Addressee) where
  get asyncCalls := asyncCalls.jobs
  set jobs asyncCalls := { asyncCalls with jobs := jobs }
  get_set _ _ := rfl
  set_get _ := rfl
  set_set _ _ _ := rfl

instance : Part (AsyncCalls α) Waiters where
  get asyncCalls := asyncCalls.waiters
  set waiters asyncCalls := { asyncCalls with waiters := waiters }
  get_set _ _ := rfl
  set_get _ := rfl
  set_set _ _ _ := rfl

instance : Part (AsyncCalls α) Ledger where
  get asyncCalls := asyncCalls.ledger
  set ledger asyncCalls := { asyncCalls with ledger := ledger }
  get_set _ _ := rfl
  set_get _ := rfl
  set_set _ _ _ := rfl

/-- A job runs its work and then calls the core's callback. -/
def host : JobHost (AsyncCalls α) (Act Ledger Lowering Output) Addressee where
  work work := work.onPart
  complete addressee result := JobAwait.deliver addressee.channel addressee.data result

/-- Cancels a job. -/
def cancel (job : Handle) : StateM (AsyncCalls α) Unit := do
  let _ ← onPart (Jobs.cancel job : StateM (Jobs (Act Ledger Lowering Output) Addressee) Bool)

/-- The jobs that are started for an addressee. -/
def keeper (addressee : Addressee) :
    JobKeeper (AsyncCalls α) (Act Ledger Lowering Output) where
  launch work := onPart (Jobs.start addressee.channel work addressee)
  refuse := Jobs.refuse host addressee.channel addressee
  isPending asyncCalls := asyncCalls.jobs.isPending
  cancel := cancel

/-- The functions of a method that answers through a channel. -/
def table (channel : Channel) (method : α → Act Ledger Lowering Output) :
    MethodTable (AsyncCalls α) where
  call handle := CallbackRegistry.dispatch handle channel.placeholder fun object =>
    Envelope.outputOrError channel (method object).onPart
  start handle data := CallbackRegistry.dispatchJob (keeper ⟨channel, data⟩) handle fun object =>
    return method object

/-- How the core starts and gives up a call of a method that takes its time. -/
def link (object : CallbackObject (MethodTable (AsyncCalls α))) :
    JobLink (AsyncCalls α) Handle where
  start data := object.table.start object.handle data
  giveUp := cancel

variable {asyncCalls : AsyncCalls α} {channel : Channel} {method : α → Act Ledger Lowering Output}
  {handle job : Handle} {object : α} {cause : HandleError} {data : UInt64}

/-! ### Running the method -/

/-- A call on a known handle runs the method in an envelope. -/
theorem call_of_ok (found : asyncCalls.registry.get handle = .ok object) :
    (table channel method).call handle asyncCalls =
      onPart (Envelope.outputOrError channel (method object)) asyncCalls := by
  have known : (Part.get asyncCalls : CallbackRegistry α) = asyncCalls.registry := rfl
  rw [Envelope.onPart_outputOrError]
  unfold table CallbackRegistry.dispatch
  simp only [bind_apply, getThe_apply, known, found]

/-- A call on an unknown handle is answered by a panic that tells why. -/
theorem call_of_error (unknown : asyncCalls.registry.get handle = .error cause) :
    (table channel method).call handle asyncCalls =
      ((channel.placeholder, (Status.panic cause.message asyncCalls.ledger).1),
        { asyncCalls with ledger := (Status.panic cause.message asyncCalls.ledger).2 }) := by
  have known : (Part.get asyncCalls : CallbackRegistry α) = asyncCalls.registry := rfl
  unfold table CallbackRegistry.dispatch
  simp only [bind_apply, getThe_apply, known, unknown]
  generalize Status.panic cause.message = reported
  rfl

/-! ### Starting a job for it -/

/-- If there is no object under the handle, the callback is called at once. -/
theorem start_of_error (unknown : asyncCalls.registry.get handle = .error cause) :
    (table channel method).start handle data asyncCalls =
      (.null, (JobAwait.deliver channel data
        ⟨channel.placeholder, (Status.panic cause.message asyncCalls.ledger).1⟩
        { asyncCalls with
          ledger := (Status.panic cause.message asyncCalls.ledger).2 }).2) := by
  have known : (Part.get asyncCalls : CallbackRegistry α) = asyncCalls.registry := rfl
  have refused : (keeper ⟨channel, data⟩).refuse cause asyncCalls = _ :=
    Jobs.refuse_eq host channel ⟨channel, data⟩ cause asyncCalls
  unfold table CallbackRegistry.dispatchJob
  simp only [bind_apply, getThe_apply, known, unknown, refused]
  generalize Status.panic cause.message = reported
  rfl

/-- A job that is asked of a known handle is started for what the method returns. -/
theorem start_of_ok {jobs : Jobs (Act Ledger Lowering Output) Addressee}
    (found : asyncCalls.registry.get handle = .ok object)
    (begun : Jobs.start channel (method object) ⟨channel, data⟩ asyncCalls.jobs =
      (.ok job, jobs)) :
    (table channel method).start handle data asyncCalls =
      (job, { asyncCalls with
        registry := (CallbackRegistry.note handle job jobs.isPending asyncCalls.registry).2
        jobs := jobs }) := by
  have known : (Part.get asyncCalls : CallbackRegistry α) = asyncCalls.registry := rfl
  have launched : (keeper ⟨channel, data⟩).launch (method object) asyncCalls =
      (.ok job, { asyncCalls with jobs := jobs }) := by
    have ran : (keeper ⟨channel, data⟩).launch (method object) asyncCalls =
      ((Jobs.start channel (method object) ⟨channel, data⟩ asyncCalls.jobs).1, { asyncCalls with
        jobs := (Jobs.start channel (method object) ⟨channel, data⟩ asyncCalls.jobs).2 }) := rfl
    rw [ran, begun]
  have held : asyncCalls.registry.objects.contains handle = true := Table.contains_of_get found
  unfold table CallbackRegistry.dispatchJob
  simp only [bind_apply, getThe_apply, known, found, pure_apply, launched]
  exact congrFun (if_pos held) _

/-! ### Answering -/

/-- The completion step of a job whose work ended answers whoever waits for it. -/
theorem settle_of_ended {waiter : Handle} {outcome : Outcome Lowering Output}
    (found : asyncCalls.jobs.find? job =
      some ⟨channel, ⟨channel, waiter.raw⟩, .ended outcome, false⟩)
    (pending : asyncCalls.jobs.isPending job = true)
    (label : asyncCalls.waiters.label? waiter = some channel) :
    Jobs.settle host job asyncCalls =
      let answer := Envelope.outputOrError channel (Act.ofOutcome outcome) asyncCalls.ledger
      ((), { asyncCalls with
        jobs := asyncCalls.jobs.without job
        ledger := answer.2
        waiters := (Promises.keep waiter ⟨answer.1.1, answer.1.2⟩ asyncCalls.waiters).2 }) := by
  have known : (Part.get asyncCalls : Jobs (Act Ledger Lowering Output) Addressee) =
    asyncCalls.jobs := rfl
  rw [Jobs.settle_eq, known, found]
  simp only [Job.isWorking, Bool.false_eq_true, ↓reduceIte, pending]
  exact JobAwait.deliver_of_eq label

end AsyncCalls

end Boundary
