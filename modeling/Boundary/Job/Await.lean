import Boundary.Call.Caller
import Boundary.Handle.Promise
import Boundary.Job

/-!
# Awaiting a job of the host

The core waits for a job with a promise of its result, labelled with the channel of the call.  The
core's callback keeps the promise; a result that nobody waits for is discarded, and a result that
comes through another channel also breaks the promise.

Starting the job yields a future, which the core gives up when it has the result or loses interest.
A result that was delivered but not looked at is lost when the await is dropped, and its buffers
with it.
-/

namespace Boundary

/-- The promises of results, labelled with the channels through which they are to come. -/
abbrev Waiters := Promises Channel JobResult

/-- Nothing is waited for. -/
def Waiters.empty : Waiters := Promises.named "foreign_future_waiters"

namespace JobResult

/-- Releases a buffer that nobody will read.  A refusal is not reported to anyone. -/
def discardBuffer (buffer : Buffer) : StateM Ledger Unit := do
  let _ ← (Act.ofReporting buffer.free).observe

/-- Releases what was passed, if it is a buffer. -/
def discardValue : Passed → StateM Ledger Unit
  | .buffer buffer => discardBuffer buffer
  | _ => return

/-- Releases the buffers of a result that nobody will read. -/
def discard (result : JobResult) : StateM Ledger Unit := do
  discardValue result.value
  discardBuffer result.status.errorBuffer

end JobResult

/-- The core's hold on a job: how it is started for a waiter's data, and how it is given up. -/
structure JobLink (σ φ : Type) where
  start : (data : UInt64) → StateM σ φ
  giveUp : φ → StateM σ Unit

/-- How far an await has come; `φ` describes the future of the job. -/
inductive JobAwait (φ : Type) where
  | unstarted (channel : Channel)
  | waiting (waiter : Handle) (future : φ)
  | ended

namespace JobAwait

variable {σ φ ε : Type} [Part σ Ledger] [Part σ Waiters]

/-- The callback of the core, for results that come through a channel. -/
def deliver (channel : Channel) (data : UInt64) (result : JobResult) : StateM σ Unit := do
  match (Part.get (← get) : Waiters).label? ⟨data⟩ with
  | some expected =>
    if expected = channel then onPart (Promises.keep ⟨data⟩ result : StateM Waiters _)
    else
      onPart (Promises.breakOff ⟨data⟩ : StateM Waiters _)
      onPart result.discard
  | none => onPart result.discard

variable (caller : Caller σ) (link : JobLink σ φ) (declared : Read ε)

/-- Loses interest in a job. -/
def loseInterest (waiter : Handle) (future : φ) : StateM σ Unit := do
  onPart (Promises.forget waiter : StateM Waiters _)
  link.giveUp future

/-- Interprets the status of a result.  The value of a failed call is released. -/
def resolve (result : JobResult) : Act σ (CallError ε) Passed := do
  match ← Act.ofTotal (caller.checkStatus declared result.status).observe with
  | .ok () => return result.value
  | .error (.panic payload) => Act.unwind payload
  | .error (.error cause) =>
    Act.ofTotal (onPart (JobResult.discardValue result.value))
    Act.fail cause

/-- Looks for the result of a job that was started. -/
def look (waiter : Handle) (future : φ) :
    StateM σ (JobAwait φ × Option (Outcome (CallError ε) Passed)) := do
  match (Part.get (← get) : Waiters).status waiter with
  | .waiting => return (waiting waiter future, none)
  | .broken =>
    loseInterest link waiter future
    return (ended, some (.error (.error
      (.internal (.protocol "foreign future dropped its completion")))))
  | .kept result =>
    loseInterest link waiter future
    return (ended, some (← (resolve caller declared result).observe))

/-- Polls an await.  The first poll starts the job. -/
def poll : JobAwait φ → StateM σ (JobAwait φ × Option (Outcome (CallError ε) Passed))
  | unstarted channel => do
    match ← onPart (Promises.make channel : StateM Waiters _) with
    | .error cause => return (ended, some (.error (.error (.internal (.handle cause)))))
    | .ok waiter => look caller link declared waiter (← link.start waiter.raw)
  | waiting waiter future => look caller link declared waiter future
  | ended => return (ended, none)

/-- Drops an await.  One that was never polled has started nothing. -/
def drop : JobAwait φ → StateM σ Unit
  | waiting waiter future => loseInterest link waiter future
  | unstarted _ | ended => return

end JobAwait

end Boundary
