import Boundary.Call.Envelope
import Boundary.Handle.Table

/-!
# Jobs of the host

When the core calls an asynchronous function of the host, the host starts a job and hands out a
handle to it. The job's work runs by itself; afterwards a completion step passes its result to the
core's callback, folded into a value and a status as a call would. If the core loses interest first,
it cancels the job, which aborts the work.

Completing and cancelling race for the entry in the table of pending jobs.  Whichever removes it
first wins: the callback is called, or nothing more is heard of the job.

A completion step removes the entry and makes the result and calls the callback behind that, without
holding on to the table. So the job may be cancelled in between, by another thread or by the code
that makes the result. This comes too late, has no effect, and returns before the callback is
called.
-/

namespace Boundary

/-- What the callback of a job is given. -/
structure JobResult where
  value : Passed
  status : Status
  deriving DecidableEq

/-- How far the work of a job has come. -/
inductive JobProgress (ω : Type) where
  | working (work : ω)
  | ended (outcome : Outcome Lowering Output)
  /-- The work was dropped before it ended. -/
  | aborted

/-- A job, whose work is described by `ω` and whose callback by `ρ`. -/
structure Job (ω ρ : Type) where
  channel : Channel
  recipient : ρ
  progress : JobProgress ω
  /-- Whether the work is to be dropped instead of being run. -/
  unwanted : Bool

namespace Job

variable {ω ρ : Type}

/-- Whether the work neither ended nor was dropped. -/
def isWorking (job : Job ω ρ) : Bool :=
  match job.progress with
  | .working _ => true
  | _ => false

end Job

/-- The jobs that a host started. -/
structure Jobs (ω ρ : Type) where
  /-- The jobs that are neither completed nor cancelled. -/
  pending : Table Unit
  /-- The jobs whose completion step is still to come. -/
  started : List (Handle × Job ω ρ)

/-- What is outside of the jobs. -/
structure JobHost (σ ω ρ : Type) where
  /-- Runs work to its end. -/
  work : ω → Act σ Lowering Output
  /-- Calls the core's callback. -/
  complete : ρ → JobResult → StateM σ Unit

namespace Jobs

variable {ω ρ : Type}

/-- No job was started. -/
def empty : Jobs ω ρ := ⟨Table.named "foreign_futures", []⟩

/-- Starts a job. -/
def start (channel : Channel) (work : ω) (recipient : ρ) :
    StateM (Jobs ω ρ) (Except HandleError Handle) := fun jobs =>
  match jobs.pending.insert () with
  | (.ok handle, pending) =>
    (.ok handle,
      ⟨pending, jobs.started ++ [(handle, ⟨channel, recipient, .working work, false⟩)]⟩)
  | (.error cause, pending) => (.error cause, { jobs with pending := pending })

/-- Whether a job is neither completed nor cancelled. -/
def isPending (jobs : Jobs ω ρ) (handle : Handle) : Bool := jobs.pending.contains handle

/-- A job whose completion step is still to come. -/
def find? (jobs : Jobs ω ρ) (handle : Handle) : Option (Job ω ρ) := jobs.started.lookup handle

/-- Whether the work of a job neither ended nor was dropped. -/
def isWorking (jobs : Jobs ω ρ) (handle : Handle) : Bool :=
  (jobs.find? handle).any Job.isWorking

/-- Changes a job. -/
def update (handle : Handle) (change : Job ω ρ → Job ω ρ) : StateM (Jobs ω ρ) Unit :=
  modify fun jobs =>
    { jobs with
      started := jobs.started.map fun entry =>
        if entry.1 = handle then (entry.1, change entry.2) else entry }

/-- Notes how far the work of a job has come. -/
def enter (handle : Handle) (progress : JobProgress ω) : StateM (Jobs ω ρ) Unit :=
  update handle fun job => { job with progress := progress }

/-- Removes a job from those that are pending, and tells whether it was one of them. -/
def claim (handle : Handle) : StateM (Jobs ω ρ) Bool := fun jobs =>
  (jobs.isPending handle, { jobs with pending := jobs.pending.erase handle })

/-- Cancels a job, and tells whether it was pending.  Cancelling again has no effect. -/
def cancel (handle : Handle) : StateM (Jobs ω ρ) Bool := do
  let claimed ← claim handle
  if claimed then update handle fun job => { job with unwanted := true }
  return claimed

variable {σ : Type} [Part σ (Jobs ω ρ)] [Part σ Ledger] (host : JobHost σ ω ρ)

/-- Runs the work of a job, or drops it if it is unwanted. -/
def perform (handle : Handle) : StateM σ Unit := do
  match (Part.get (← get) : Jobs ω ρ).find? handle with
  | some ⟨_, _, .working work, unwanted⟩ =>
    if unwanted then onPart (enter handle .aborted : StateM (Jobs ω ρ) _)
    else
      let outcome ← (host.work work).observe
      onPart (enter handle (.ended outcome) : StateM (Jobs ω ρ) _)
  | _ => return

/-- The result that the callback is given. -/
def fold (channel : Channel) : JobProgress ω → StateM Ledger JobResult
  | .ended outcome => do
    let (value, status) ← Envelope.outputOrError channel (Act.ofOutcome outcome)
    return ⟨value, status⟩
  | _ => return ⟨channel.placeholder, Status.cancelled⟩

/-- Begins the completion step of a job whose work ended or was dropped: the job is removed from
those that are pending.  It is yielded if it was one of them, and then its callback is due. -/
def beginCompletion (handle : Handle) : StateM (Jobs ω ρ) (Option (Job ω ρ)) := do
  match (← get).find? handle with
  | none => return none
  | some job =>
    if job.isWorking then return none
    modify fun jobs =>
      { jobs with started := jobs.started.filter fun entry => entry.1 != handle }
    if ← claim handle then return some job else return none

/-- Ends the completion step of a job that was pending. -/
def finishCompletion (job : Job ω ρ) : StateM σ Unit := do
  host.complete job.recipient (← onPart (fold job.channel job.progress))

/-- Takes the completion step of a job without a pause. -/
def settle (handle : Handle) : StateM σ Unit := do
  match ← onPart (beginCompletion handle : StateM (Jobs ω ρ) _) with
  | some job => finishCompletion host job
  | none => return

/-- Calls the core's callback for a job that could not start. -/
def refuse (channel : Channel) (recipient : ρ) (cause : HandleError) : StateM σ Unit := do
  let status ← onPart (Status.panic cause.message)
  host.complete recipient ⟨channel.placeholder, status⟩

end Jobs

end Boundary
