import Boundary.Proofs.Call.Likeness
import Boundary.Proofs.Callback.AsyncCalls

/-! # A method that is awaited

The core calls a method of a host object through a handle by awaiting the job that is started for
it. The await is polled for the first time when the method is called (`Boundary.Invocation.begin`).
From then on the host runs the work of the job and takes its completion step, the core polls the
await again, and others do whatever leaves the job alone (`Boundary.Invocation.Run`).
-/

namespace Boundary

namespace AsyncCalls

variable {α : Type}

/-- There is room for one more promise and one more job, and handles were issued in order. -/
structure Prepared (asyncCalls : AsyncCalls α) : Prop where
  jobs : asyncCalls.jobs.Orderly
  jobRoom : asyncCalls.jobs.pending.next ≤ Handle.greatest
  waiters : asyncCalls.waiters.Orderly
  waiterRoom : asyncCalls.waiters.table.next ≤ Handle.greatest

/-- The memory that is on its way from a job to whoever awaits it. -/
def entrusted (asyncCalls : AsyncCalls α) (waiter job : Handle) : List Address :=
  (asyncCalls.jobs.outcome? job).elim [] Outcome.allocations ++
    (asyncCalls.waiters.value? waiter).elim [] JobResult.allocations

/-- What others did left a job alone, and the promise of its result. -/
structure Spares (waiter job : Handle) (before after : AsyncCalls α) : Prop where
  entry : after.jobs.find? job = before.jobs.find? job
  pending : after.jobs.isPending job = before.jobs.isPending job
  label : after.waiters.label? waiter = before.waiters.label? waiter
  value : after.waiters.value? waiter = before.waiters.value? waiter
  memory : ∀ address ∈ before.entrusted waiter job,
    after.ledger.find? address = before.ledger.find? address

/-- A job is to answer an await, and has come so far. -/
structure Awaits (asyncCalls : AsyncCalls α) (channel : Channel) (waiter job : Handle)
    (progress : JobProgress (Act Ledger Lowering Output)) : Prop where
  entry : asyncCalls.jobs.find? job = some ⟨channel, ⟨channel, waiter.raw⟩, progress, false⟩
  pending : asyncCalls.jobs.isPending job = true
  label : asyncCalls.waiters.label? waiter = some channel
  value : asyncCalls.waiters.value? waiter = none

variable {before after asyncCalls : AsyncCalls α} {channel : Channel} {waiter job : Handle}
  {progress : JobProgress (Act Ledger Lowering Output)}

/-- An invocation goes on waiting while others do what spares it. -/
theorem Awaits.spares (awaits : before.Awaits channel waiter job progress)
    (spares : Spares waiter job before after) : after.Awaits channel waiter job progress where
  entry := spares.entry.trans awaits.entry
  pending := spares.pending.trans awaits.pending
  label := spares.label.trans awaits.label
  value := spares.value.trans awaits.value

theorem Awaits.status (awaits : asyncCalls.Awaits channel waiter job progress) :
    asyncCalls.waiters.status waiter = .waiting := by
  rw [Promises.status_eq, awaits.value, Promises.isOpen_of_label? awaits.label]
  rfl

/-- What is left when an await has made its promise. -/
def promising (asyncCalls : AsyncCalls α) (channel : Channel) : AsyncCalls α :=
  { asyncCalls with
    waiters := asyncCalls.waiters.pledged asyncCalls.waiters.table.upcoming channel }

/-- What is left when the job could not start and reported so, which keeps the promise at once. -/
def refusing (asyncCalls : AsyncCalls α) (channel : Channel) (reported : Status × Ledger) :
    AsyncCalls α :=
  { asyncCalls with
    waiters := asyncCalls.waiters.fulfilled asyncCalls.waiters.table.upcoming
      ⟨channel.placeholder, reported.1⟩
    ledger := reported.2 }

/-- A job that is asked of an unknown handle is not started. -/
theorem start_promising_of_error {method : α → Act Ledger Lowering Output} {handle : Handle}
    {cause : HandleError} (prepared : asyncCalls.Prepared)
    (unknown : asyncCalls.registry.get handle = .error cause) :
    (table channel method).start handle asyncCalls.waiters.table.upcoming.raw
        (asyncCalls.promising channel) =
      (.null, asyncCalls.refusing channel (Status.panic cause.message asyncCalls.ledger)) := by
  have still : (asyncCalls.promising channel).registry.get handle = .error cause := unknown
  have memory : (asyncCalls.promising channel).ledger = asyncCalls.ledger := rfl
  have fresh := prepared.waiters.table.find?_upcoming prepared.waiterRoom
  rw [start_of_error still, memory]
  generalize Status.panic cause.message asyncCalls.ledger = reported
  obtain ⟨status, ledger⟩ := reported
  let panicked : AsyncCalls α := { asyncCalls.promising channel with ledger := ledger }
  let result : JobResult := ⟨channel.placeholder, status⟩
  have label : (Part.get panicked : Waiters).label? asyncCalls.waiters.table.upcoming =
    some channel := Table.find?_holding fresh channel
  have delivered : JobAwait.deliver channel asyncCalls.waiters.table.upcoming.raw result panicked =
    ((), { panicked with
      waiters := (Promises.keep asyncCalls.waiters.table.upcoming result
        (asyncCalls.waiters.pledged asyncCalls.waiters.table.upcoming channel)).2 }) :=
    JobAwait.deliver_of_eq label
  rw [Promises.keep_pledged prepared.waiters prepared.waiterRoom] at delivered
  exact congrArg (fun ran => (Handle.null, ran.2)) delivered

/-- What is left when the await takes its result. -/
def leaving (asyncCalls : AsyncCalls α) (waiter job : Handle) : AsyncCalls α :=
  { asyncCalls with
    waiters := (Promises.forget waiter asyncCalls.waiters).2
    jobs := (Jobs.cancel job asyncCalls.jobs).2 }

/-- The core's hold on the object under a handle, to call a method of it. -/
def hold (channel : Channel) (method : α → Act Ledger Lowering Output) (handle : Handle) :
    CallbackObject (MethodTable (AsyncCalls α)) :=
  ⟨handle, table channel method⟩

end AsyncCalls

/-- A method that is called and awaited. -/
structure Invocation (α ε : Type) where
  asyncCalls : AsyncCalls α
  await : JobAwait Handle
  /-- How the work of the job ended, and the memory that it left. -/
  ended : Option (Outcome Lowering Output × Ledger)
  /-- What the core was told, and the memory then. -/
  answer : Option (Outcome (CallError ε) Passed × Ledger)

namespace Invocation

open AsyncCalls

/-- What happens while a method is awaited. -/
inductive Turn where
  /-- The core polls the await. -/
  | poll
  /-- The host runs the work of the job. -/
  | perform
  /-- The host takes the completion step of the job. -/
  | settle
  /-- Others do something else. -/
  | meanwhile
  deriving DecidableEq

variable {α ε : Type} (caller : Caller (AsyncCalls α)) (declared : Read ε)
  (object : CallbackObject (MethodTable (AsyncCalls α)))

/-- The core polls the await. -/
def poll (invocation : Invocation α ε) : Invocation α ε :=
  let ((await, outcome), asyncCalls) :=
    invocation.await.poll caller (link object) declared invocation.asyncCalls
  { invocation with
    asyncCalls := asyncCalls
    await := await
    answer := invocation.answer.or (outcome.map fun told => (told, asyncCalls.ledger)) }

/-- The method is called: the await is polled for the first time. -/
def begin (channel : Channel) (base : AsyncCalls α) : Invocation α ε :=
  poll caller declared object ⟨base, .unstarted channel, none, none⟩

/-- The host runs the work of the job. -/
def perform (invocation : Invocation α ε) : Invocation α ε :=
  match invocation.await with
  | .waiting _ job =>
    let asyncCalls := (Jobs.perform host job invocation.asyncCalls).2
    { invocation with
      asyncCalls := asyncCalls
      ended := invocation.ended.or
        ((asyncCalls.jobs.outcome? job).map fun outcome => (outcome, asyncCalls.ledger)) }
  | .unstarted _ | .ended => invocation

/-- The host takes the completion step of the job. -/
def settle (invocation : Invocation α ε) : Invocation α ε :=
  match invocation.await with
  | .waiting _ job =>
    { invocation with asyncCalls := (Jobs.settle host job invocation.asyncCalls).2 }
  | .unstarted _ | .ended => invocation

/-- What a turn can come to. Until the await has ended, others leave its job alone. -/
inductive Step : Invocation α ε → Turn → Invocation α ε → Prop
  | poll (invocation : Invocation α ε) :
      Step invocation .poll (poll caller declared object invocation)
  | perform (invocation : Invocation α ε) : Step invocation .perform invocation.perform
  | settle (invocation : Invocation α ε) : Step invocation .settle invocation.settle
  | meanwhile {invocation : Invocation α ε} {asyncCalls : AsyncCalls α} :
      (∀ waiter job, invocation.await = .waiting waiter job →
        Spares waiter job invocation.asyncCalls asyncCalls) →
      Step invocation .meanwhile { invocation with asyncCalls := asyncCalls }

/-- What several turns can come to, one after the other. -/
inductive Run : Invocation α ε → List Turn → Invocation α ε → Prop
  | done (invocation : Invocation α ε) : Run invocation [] invocation
  | next {first between last : Invocation α ε} {turn : Turn} {rest : List Turn} :
      Step caller declared object first turn between → Run between rest last →
      Run first (turn :: rest) last

/-! ## Polling -/

section

variable {caller : Caller (AsyncCalls α)} {declared : Read ε}
  {object : CallbackObject (MethodTable (AsyncCalls α))} {asyncCalls : AsyncCalls α}
  {waiter job : Handle} {result : JobResult}

theorem poll_waiting :
    (JobAwait.waiting waiter job).poll caller (link object) declared asyncCalls =
      JobAwait.look caller (link object) declared waiter job asyncCalls := rfl

/-- An await whose promise is not kept yet goes on waiting. -/
theorem look_of_waiting (waits : asyncCalls.waiters.status waiter = .waiting) :
    JobAwait.look caller (link object) declared waiter job asyncCalls =
      ((.waiting waiter job, none), asyncCalls) := by
  have known : (Part.get asyncCalls : Waiters) = asyncCalls.waiters := rfl
  unfold JobAwait.look
  simp only [bind_apply, get_apply, known, waits]
  rfl

/-- The await takes the result, and loses interest in the job. -/
theorem look_of_kept (kept : asyncCalls.waiters.status waiter = .kept result) :
    JobAwait.look caller (link object) declared waiter job asyncCalls =
      let told := (JobAwait.resolve caller declared result).observe
        (asyncCalls.leaving waiter job)
      ((.ended, some told.1), told.2) := by
  have known : (Part.get asyncCalls : Waiters) = asyncCalls.waiters := rfl
  unfold JobAwait.look
  simp only [bind_apply, get_apply, known, kept]
  rfl

variable {before await : JobAwait Handle} {outcome : Option (Outcome (CallError ε) Passed)}
  {after : AsyncCalls α} {ended : Option (Outcome Lowering Output × Ledger)}

/-- An invocation keeps the first answer that its await comes to. -/
theorem poll_of_eq {answer : Option (Outcome (CallError ε) Passed × Ledger)}
    (polled : before.poll caller (link object) declared asyncCalls = ((await, outcome), after)) :
    poll caller declared object ⟨asyncCalls, before, ended, answer⟩ =
      ⟨after, await, ended, answer.or (outcome.map fun told => (told, after.ledger))⟩ := by
  unfold poll
  simp only [polled]

theorem poll_of_waiting (waits : asyncCalls.waiters.status waiter = .waiting) :
    poll caller declared object ⟨asyncCalls, .waiting waiter job, ended, none⟩ =
      ⟨asyncCalls, .waiting waiter job, ended, none⟩ :=
  poll_of_eq (poll_waiting.trans (look_of_waiting waits))

/-- An await makes a promise when it is polled for the first time, and starts the job with it. -/
theorem poll_unstarted {base : AsyncCalls α} (prepared : base.Prepared) {channel : Channel}
    (launched : object.table.start object.handle base.waiters.table.upcoming.raw
      (base.promising channel) = (job, after)) :
    (JobAwait.unstarted channel).poll caller (link object) declared base =
      JobAwait.look caller (link object) declared base.waiters.table.upcoming job after := by
  have ran : (onPart (Promises.make channel : StateM Waiters _) : StateM (AsyncCalls α) _) base =
    ((Promises.make channel base.waiters).1,
      { base with waiters := (Promises.make channel base.waiters).2 }) := rfl
  rw [Promises.make_of_room prepared.waiterRoom] at ran
  have started : (link object).start base.waiters.table.upcoming.raw (base.promising channel) =
    (job, after) := launched
  unfold JobAwait.poll
  dsimp only
  rw [bind_apply, ran]
  dsimp only
  rw [bind_apply]
  change JobAwait.look caller (link object) declared _ ((link object).start _
    (base.promising channel)).1 ((link object).start _ (base.promising channel)).2 = _
  rw [started]

end

end Invocation

end Boundary
