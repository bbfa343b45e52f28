import Boundary.Callback.Registry
import Boundary.Job.Await
import Boundary.Sample.Source
import Boundary.Session.Reply

/-!
# A session with jobs

A host whose jobs run on a runtime of one thread, which advances only when told to and then until it
is idle.  A job is two tasks: its work, and the completion step that waits for the work.  Tasks run
in the order in which they were woken; those that a running task woke come before those that were
woken between runs.

A job may have a gate, which keeps its work from ending until it is opened.
-/

namespace Boundary

/-- What the work of a job does at its end. -/
inductive JobEnding where
  | act (act : Act Ledger Lowering Output)
  /-- It looks up a text in the source it was started on. -/
  | lookUp (source : Source) (key : String)

/-- The work of a job. -/
structure JobWork where
  label : String
  ending : JobEnding

/-- What is called when a job completes. -/
inductive Recipient where
  /-- The host itself, which logs the result. -/
  | log (data : UInt64)
  /-- The core's callback for results of a channel. -/
  | waiter (channel : Channel) (data : UInt64)

/-- A task of the runtime. -/
inductive JobTask where
  | work (job : Handle)
  | completion (job : Handle)
  deriving DecidableEq, Repr

/-- A job as the host is to start it. -/
structure JobPlan where
  name : String
  gated : Bool
  ending : Act Ledger Lowering Output

/-- A result of someone else's choice: a value, a status code and what the error buffer holds. -/
structure ResultPlan where
  value : StateM Ledger Passed
  code : Int
  data : Bytes

/-- How the core's await starts what it waits for. -/
inductive AwaitPlan where
  | job (plan : JobPlan)
  /-- A future that is no job: results are delivered at once, and more may follow. -/
  | token (number : UInt64) (delivered : List ResultPlan)

/-- The future of an await. -/
inductive JobFuture where
  | job (handle : Handle)
  | token (number : UInt64)

/-- The actions of the host and of the core. -/
inductive JobStep where
  | spawn (plan : JobPlan) (channel : Channel) (data : UInt64)
  | dispatch (name : String) (gated : Bool) (handle : Handle) (key : String) (data : UInt64)
      (freeing : Bool)
  | openGate (name : String)
  | run
  | free (name : String)
  | isPending (name : String)
  | cancel (handle : Handle)
  | register (source : Source)
  | cloneObject (handle : Handle)
  | freeObject (handle : Handle)
  | await (name : String) (channel : Channel) (plan : AwaitPlan)
  | poll (name : String)
  | drop (name : String)
  /-- Calls the callback that an await kept, with the data of an await. -/
  | deliver (name : String) (dataOf : String) (result : ResultPlan)

/-- What is observed between the host and the core. -/
inductive JobEvent where
  | finished (label : String)
  | completed (data : UInt64) (result : JobResult)
  | tokenFreed (number : UInt64)

/-- An await of the core: how it starts, and how far it has come. -/
structure PlannedAwait where
  channel : Channel
  plan : AwaitPlan
  await : JobAwait JobFuture

/-- A host with jobs, and a core that waits for some of them. -/
structure JobSession where
  ledger : Ledger
  registry : CallbackRegistry Source
  jobs : Jobs JobWork Recipient
  waiters : Waiters
  /-- The jobs by name; the null handle for one that could not start. -/
  names : NameMap Handle
  /-- The gates that were not opened yet, by the names of their jobs. -/
  gates : NameMap Handle
  awaits : NameMap PlannedAwait
  /-- The data for the callbacks that awaits kept. -/
  callbacks : NameMap UInt64
  /-- The tasks woken between runs. -/
  queue : List JobTask
  /-- The tasks woken by the task that is running. -/
  woken : List JobTask
  isRunning : Bool
  log : List JobEvent

namespace JobSession

instance : Part JobSession Ledger where
  get session := session.ledger
  set ledger session := { session with ledger := ledger }
  get_set _ _ := rfl
  set_get _ := rfl
  set_set _ _ _ := rfl

instance : Part JobSession (CallbackRegistry Source) where
  get session := session.registry
  set registry session := { session with registry := registry }
  get_set _ _ := rfl
  set_get _ := rfl
  set_set _ _ _ := rfl

instance : Part JobSession (Jobs JobWork Recipient) where
  get session := session.jobs
  set jobs session := { session with jobs := jobs }
  get_set _ _ := rfl
  set_get _ := rfl
  set_set _ _ _ := rfl

instance : Part JobSession Waiters where
  get session := session.waiters
  set waiters session := { session with waiters := waiters }
  get_set _ _ := rfl
  set_get _ := rfl
  set_set _ _ _ := rfl

/-- A host without jobs, and a core that waits for nothing. -/
def start (interface : String) : JobSession :=
  ⟨Ledger.empty, CallbackRegistry.named interface, Jobs.empty, Waiters.empty, [], [], [], [], [],
    [], false, []⟩

/-- Adds to the log. -/
def record (event : JobEvent) : StateM JobSession Unit :=
  modify fun session => { session with log := session.log ++ [event] }

/-- Takes the log. -/
def takeLog : StateM JobSession (List JobEvent) := fun session =>
  (session.log, { session with log := [] })

/-- Wakes a task, unless it was woken already. -/
def wake (task : JobTask) : StateM JobSession Unit :=
  modify fun session =>
    if session.queue.contains task || session.woken.contains task then session
    else if session.isRunning then { session with woken := session.woken ++ [task] }
    else { session with queue := session.queue ++ [task] }

/-- Cancels a job.  The runtime is to drop the work. -/
def cancel (handle : Handle) : StateM JobSession Unit := do
  if ← onPart (Jobs.cancel handle : StateM (Jobs JobWork Recipient) _) then
    if (← get).jobs.isWorking handle then wake (.work handle)

/-- Frees a handle of the registry. -/
def freeObject (handle : Handle) : StateM JobSession Unit :=
  CallbackRegistry.free Source cancel handle

/-- Ends the work of a job. -/
def endWork : JobEnding → Act JobSession Lowering Output
  | .act act => act.onPart
  | .lookUp source key => do
    let found ← (source.get (fun handle => do
      freeObject handle
      return (← getThe JobSession).registry.size) key).mapError StoreError.lowering
    return .lowered (Lowering.string found)

/-- The host and the core, as the jobs see them. -/
def host : JobHost JobSession JobWork Recipient where
  work work := do
    Act.ofTotal (record (.finished work.label))
    endWork work.ending
  complete
    | .log data, result => record (.completed data result)
    | .waiter channel data, result => JobAwait.deliver channel data result

/-- Whether the work of a job waits for its gate. -/
def isGated (session : JobSession) (handle : Handle) : Bool :=
  (session.gates.map Prod.snd).contains handle

/-- Whether a job was cancelled while its work went on. -/
def isUnwanted (session : JobSession) (handle : Handle) : Bool :=
  (session.jobs.find? handle).any Job.unwanted

/-- Runs a task. -/
def runTask : JobTask → StateM JobSession Unit
  | .work handle => do
    let session ← get
    if session.isGated handle && !session.isUnwanted handle then return
    Jobs.perform host handle
    wake (.completion handle)
  | .completion handle => Jobs.settle host handle

/-- Takes the task that is to be run next. -/
def nextTask : StateM JobSession (Option JobTask) := fun session =>
  match session.woken, session.queue with
  | task :: woken, _ => (some task, { session with woken := woken })
  | [], task :: queue => (some task, { session with queue := queue })
  | [], [] => (none, session)

/-- Runs tasks until none is woken, but no more than `fuel` of them. -/
def runTasks : (fuel : Nat) → StateM JobSession Unit
  | 0 => return
  | fuel + 1 => do
    match ← nextTask with
    | none => return
    | some task =>
      runTask task
      runTasks fuel

/-- Lets the runtime advance until it is idle.  Every job is woken at most twice on the way: when it
is cancelled, and when its work ends. -/
def run : StateM JobSession Unit := do
  let session ← get
  set { session with isRunning := true }
  runTasks (session.queue.length + 2 * session.jobs.started.length + 1)
  modify fun session => { session with isRunning := false }

/-- Names a job. -/
def name (name : String) (handle : Handle) : StateM JobSession Unit :=
  modify fun session => { session with names := session.names.insert name handle }

/-- Keeps the gate of a job.  A gate that had the name is given up, which lets its job through. -/
def keepGate (label : String) (handle : Handle) : StateM JobSession Unit := do
  let replaced := NameMap.get? (← get).gates label
  modify fun session => { session with gates := session.gates.insert label handle }
  replaced.forM fun other => wake (.work other)

/-- Starts a job under a name, and yields its handle. -/
def startJob (label : String) (gated : Bool) (channel : Channel) (ending : JobEnding)
    (recipient : Recipient) : StateM JobSession (Except HandleError Handle) := do
  match ← onPart (Jobs.start channel (JobWork.mk label ending) recipient) with
  | .error cause => return .error cause
  | .ok handle =>
    if gated then keepGate label handle
    wake (.work handle)
    wake (.completion handle)
    return .ok handle

/-- Starts a job under a name.  One that cannot start gets the null handle. -/
def spawn (plan : JobPlan) (channel : Channel) (recipient : Recipient) :
    StateM JobSession Handle := do
  let handle := ((← startJob plan.name plan.gated channel (.act plan.ending)
    recipient).toOption).getD
    Handle.null
  name plan.name handle
  return handle

/-- The jobs that are started on objects, under a name. -/
def keeper (label : String) (gated : Bool) (data : UInt64) : JobKeeper JobSession JobEnding where
  launch ending := startJob label gated .buffer ending (.log data)
  refuse := Jobs.refuse host .buffer (.log data)
  isPending session := session.jobs.isPending
  cancel := cancel

/-- Starts a job on the object under a handle, which the method may free before. -/
def dispatch (label : String) (gated : Bool) (handle : Handle) (key : String) (data : UInt64)
    (freeing : Bool) : StateM JobSession Handle :=
  CallbackRegistry.dispatchJob (keeper label gated data) handle fun source : Source => do
    if freeing then freeObject handle
    return .lookUp source key

/-- Opens the gate of a job, and tells whether the work still waited for it. -/
def openGate (name : String) : StateM JobSession Bool := do
  match NameMap.get? (← get).gates name with
  | none => return false
  | some handle =>
    modify fun session => { session with gates := session.gates.erase name }
    if (← get).jobs.isWorking handle then
      wake (.work handle)
      return true
    else return false

/-- The handle of a job. -/
def job (session : JobSession) (name : String) : Handle :=
  (session.names.get? name).getD Handle.null

/-- Makes a result. -/
def makeResult (plan : ResultPlan) : StateM JobSession JobResult := do
  let value ← onPart plan.value
  return ⟨value, ⟨plan.code, ← onPart (Buffer.ofBytes plan.data)⟩⟩

/-- Starts what an await waits for. -/
def startAwaited (name : String) (channel : Channel) (plan : AwaitPlan) (data : UInt64) :
    StateM JobSession JobFuture := do
  match plan with
  | .job plan => return .job (← spawn plan channel (.waiter channel data))
  | .token number results =>
    modify fun session => { session with callbacks := session.callbacks.insert name data }
    results.forM fun plan => do JobAwait.deliver channel data (← makeResult plan)
    return .token number

/-- Gives up the future of an await. -/
def giveUp : JobFuture → StateM JobSession Unit
  | .job handle => cancel handle
  | .token number => record (.tokenFreed number)

/-- Drops an await, if there is one of the name. -/
def dropAwait (name : String) : StateM JobSession Unit := do
  match NameMap.get? (← get).awaits name with
  | none => return
  | some planned =>
    let link : JobLink JobSession JobFuture :=
      ⟨startAwaited name planned.channel planned.plan, giveUp⟩
    planned.await.drop link
    modify fun session =>
      { session with awaits := session.awaits.insert name { planned with await := .ended } }

/-- Polls an await whose calls declare texts. -/
def pollAwait (name : String) : StateM JobSession (Reply String) := do
  match NameMap.get? (← get).awaits name with
  | none | some ⟨_, _, .ended⟩ => return .gone
  | some planned =>
    let link : JobLink JobSession JobFuture :=
      ⟨startAwaited name planned.channel planned.plan, giveUp⟩
    let (await, outcome) ← planned.await.poll Caller.inProcess link Utf8.read
    modify fun session =>
      { session with awaits := session.awaits.insert name { planned with await := await } }
    match outcome with
    | none => return .pending
    | some outcome => return Reply.ofCall .passed outcome

/-- Calls the callback that an await kept. -/
def deliver (name dataOf : String) (plan : ResultPlan) : StateM JobSession Unit := do
  let session ← get
  match session.awaits.get? name, session.callbacks.get? dataOf with
  | some planned, some data => JobAwait.deliver planned.channel data (← makeResult plan)
  | _, _ => return

/-- Takes one step. -/
def step : JobStep → StateM JobSession (Reply String)
  | .spawn plan channel data => do return .handle (← spawn plan channel (.log data))
  | .dispatch label gated handle key data freeing => do
    let job ← dispatch label gated handle key data freeing
    name label job
    return .handle job
  | .openGate name => do return .flag (← openGate name)
  | .run => do
    run
    return .done
  | .free name => do
    cancel ((← get).job name)
    return .done
  | .isPending name => do
    let session ← get
    return .flag (session.jobs.isPending (session.job name))
  | .cancel handle => do
    cancel handle
    return .done
  | .register source => do
    match ← onPart (CallbackRegistry.register source) with
    | .ok handle => return .handle handle
    | .error cause => return .failed (.handle cause)
  | .cloneObject handle => do
    return .handle (← onPart (CallbackRegistry.cloneHandle handle :
      StateM (CallbackRegistry Source) _))
  | .freeObject handle => do
    freeObject handle
    return .done
  | .await name channel plan => do
    dropAwait name
    modify fun session =>
      { session with awaits := session.awaits.insert name ⟨channel, plan, .unstarted channel⟩ }
    return .done
  | .poll name => pollAwait name
  | .drop name => do
    dropAwait name
    return .done
  | .deliver name dataOf plan => do
    deliver name dataOf plan
    return .done

end JobSession

end Boundary
