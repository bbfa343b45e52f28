import Boundary.Callback.Registry
import Boundary.Proofs.Job.Runtime

/-! # A host with objects and jobs

A host keeps objects for the core and runs jobs on them, next to jobs that others started. Its users
get from one state to another by registering, cloning and freeing handles, by starting jobs and by
letting them advance (`Boundary.CallbackHost.Reaches`). A method that is asked for work, and the
work of a job, may do all of that as well before they are done.

`Boundary.CallbackHost` keeps, next to the tables, what has to be known to say what freeing a handle
does: through which handle each job was started, which handles were freed, and which callbacks were
called.
-/

namespace Boundary

namespace Jobs

variable {ω ρ : Type}

/-- What is left of the jobs when some of them are cancelled one after the other. -/
def cancelAll (jobs : Jobs ω ρ) (handles : List Handle) : Jobs ω ρ :=
  handles.foldl (fun jobs handle => (cancel handle jobs).2) jobs

/-- Cancelling several jobs takes them from the table, and no others. -/
theorem isPending_cancelAll (jobs : Jobs ω ρ) (handles : List Handle) (other : Handle) :
    (jobs.cancelAll handles).isPending other =
      if other ∈ handles then false else jobs.isPending other := by
  induction handles generalizing jobs with
  | nil => exact (if_neg List.not_mem_nil).symm
  | cons handle rest ih =>
      change ((cancel handle jobs).2.cancelAll rest).isPending other = _
      rw [ih, isPending_cancel]
      by_cases here : other = handle
      · simp only [here, List.mem_cons_self, ↓reduceIte, ite_self]
      · simp only [here, List.mem_cons, false_or, ↓reduceIte]

/-- Cancelling several jobs leaves the others as they are. -/
theorem find?_cancelAll {handles : List Handle} {other : Handle} (kept : other ∉ handles)
    (jobs : Jobs ω ρ) : (jobs.cancelAll handles).find? other = jobs.find? other := by
  induction handles generalizing jobs with
  | nil => rfl
  | cons handle rest ih =>
      obtain ⟨differs, others⟩ := List.ne_and_not_mem_of_not_mem_cons kept
      change ((cancel handle jobs).2.cancelAll rest).find? other = _
      rw [ih others, find?_cancel, if_neg differs]

theorem next_cancelAll (jobs : Jobs ω ρ) (handles : List Handle) :
    (jobs.cancelAll handles).pending.next = jobs.pending.next := by
  induction handles generalizing jobs with
  | nil => rfl
  | cons handle rest ih => exact (ih _).trans (next_cancel jobs handle)

theorem Orderly.cancelAll {jobs : Jobs ω ρ} (orderly : jobs.Orderly) (handles : List Handle) :
    (jobs.cancelAll handles).Orderly := by
  induction handles generalizing jobs with
  | nil => exact orderly
  | cons handle rest ih => exact ih (orderly.cancel handle)

end Jobs

namespace CallbackRegistry

variable {α : Type} (registry : CallbackRegistry α) (handle other : Handle)

/-- Removing a handle forgets its jobs, and no others. -/
theorem lookup_remove : (remove handle registry).2.jobs.lookup other =
    if other = handle then none else registry.jobs.lookup other :=
  lookup_filter_ne registry.jobs handle other

theorem jobsOf_remove : (remove handle registry).2.jobsOf other =
    if other = handle then [] else registry.jobsOf other := by
  unfold jobsOf
  rw [lookup_remove]
  split <;> rfl

/-- Noting a job forgets those of the handle that are over. -/
theorem lookup_note (job : Handle) (isPending : Handle → Bool) :
    (note handle job isPending registry).2.jobs.lookup other =
      if other = handle then some ((registry.jobsOf handle).filter isPending ++ [job])
      else registry.jobs.lookup other := by
  change List.lookup other ((handle, _) :: registry.jobs.filter fun entry => entry.1 != handle) = _
  rw [List.lookup_cons, lookup_filter_ne]
  by_cases same : other = handle
  · simp only [same, beq_self_eq_true, ↓reduceIte]
  · simp only [same, beq_eq_false_iff_ne.mpr same, ↓reduceIte]

end CallbackRegistry

/-- A call of a callback of the core. -/
structure Answer (ρ : Type) where
  /-- The job that it is called for, unless none could start. -/
  job : Option Handle
  recipient : ρ
  result : JobResult
  /-- The handles that were freed before. -/
  freed : List Handle

/-- Objects of type `α`, and jobs with work of type `ω` and callbacks of type `ρ`. -/
structure CallbackHost (α ω ρ : Type) where
  registry : CallbackRegistry α
  jobs : Jobs ω ρ
  ledger : Ledger
  /-- The jobs that were started on objects, each with the handle through which it was. -/
  origins : List (Handle × Handle)
  /-- The handles that were freed while they had an object. -/
  freed : List Handle
  answers : List (Answer ρ)

namespace CallbackHost

variable {α ω ρ : Type}

instance : Part (CallbackHost α ω ρ) (CallbackRegistry α) where
  get state := state.registry
  set registry state := { state with registry := registry }
  get_set _ _ := rfl
  set_get _ := rfl
  set_set _ _ _ := rfl

instance : Part (CallbackHost α ω ρ) (Jobs ω ρ) where
  get state := state.jobs
  set jobs state := { state with jobs := jobs }
  get_set _ _ := rfl
  set_get _ := rfl
  set_set _ _ _ := rfl

instance : Part (CallbackHost α ω ρ) Ledger where
  get state := state.ledger
  set ledger state := { state with ledger := ledger }
  get_set _ _ := rfl
  set_get _ := rfl
  set_set _ _ _ := rfl

/-- Whether the handle has an object. -/
def holds (state : CallbackHost α ω ρ) (handle : Handle) : Bool :=
  state.registry.objects.contains handle

/-- Cancels a job. -/
def cancel (job : Handle) : StateM (CallbackHost α ω ρ) Unit := do
  let _ ← onPart (Jobs.cancel job : StateM (Jobs ω ρ) Bool)

/-- Frees a handle, and notes it if it had an object. -/
def free (handle : Handle) : StateM (CallbackHost α ω ρ) Unit := do
  let held := (← get).holds handle
  CallbackRegistry.free α cancel handle
  if held then modify fun state => { state with freed := handle :: state.freed }

variable (work : ω → Act (CallbackHost α ω ρ) Lowering Output)

/-- Work may be anything; every call of a callback is noted, with the job that it is for. -/
def host (job : Option Handle) : JobHost (CallbackHost α ω ρ) ω ρ where
  work := work
  complete recipient result := modify fun state =>
    { state with answers := state.answers ++ [⟨job, recipient, result, state.freed⟩] }

/-- Starts a job on an object, and notes the handle through which it was. -/
def launch (channel : Channel) (handle : Handle) (recipient : ρ) (work : ω) :
    StateM (CallbackHost α ω ρ) (Except HandleError Handle) := do
  match ← onPart (Jobs.start channel work recipient) with
  | .error cause => return .error cause
  | .ok job =>
    modify fun state => { state with origins := (job, handle) :: state.origins }
    return .ok job

/-- The jobs that are started through a handle. -/
def keeper (channel : Channel) (handle : Handle) (recipient : ρ) :
    JobKeeper (CallbackHost α ω ρ) ω where
  launch := launch channel handle recipient
  refuse := Jobs.refuse (host work none) channel recipient
  isPending state := state.jobs.isPending
  cancel := cancel

/-- Starts a job on the object under a handle. -/
def dispatch (channel : Channel) (recipient : ρ) (handle : Handle)
    (method : α → StateM (CallbackHost α ω ρ) ω) : StateM (CallbackHost α ω ρ) Handle :=
  CallbackRegistry.dispatchJob (keeper work channel handle recipient) handle method

/-- From one state of a host its users get to another. A method that makes work, and the work of a
job that is run, get somewhere themselves before they are done. A callback is the last thing that
a step calls, so what it does in turn are the steps that follow. -/
inductive Reaches : CallbackHost α ω ρ → CallbackHost α ω ρ → Prop
  | refl (state : CallbackHost α ω ρ) : Reaches state state
  | register {start state : CallbackHost α ω ρ} (object : α) : Reaches start state →
      Reaches start
        ((onPart (CallbackRegistry.register object) : StateM (CallbackHost α ω ρ) _) state).2
  | clone {start state : CallbackHost α ω ρ} (handle : Handle) : Reaches start state →
      Reaches start ((onPart (CallbackRegistry.cloneHandle handle :
        StateM (CallbackRegistry α) Handle) : StateM (CallbackHost α ω ρ) _) state).2
  | free {start state : CallbackHost α ω ρ} (handle : Handle) : Reaches start state →
      Reaches start (CallbackHost.free handle state).2
  | dispatch {start state : CallbackHost α ω ρ} (channel : Channel) (recipient : ρ)
      (handle : Handle) (method : α → StateM (CallbackHost α ω ρ) ω) : Reaches start state →
      (∀ object, state.registry.get handle = .ok object →
        Reaches state (method object state).2) →
      Reaches start (CallbackHost.dispatch work channel recipient handle method state).2
  /-- Others start a job. -/
  | start {start state : CallbackHost α ω ρ} (channel : Channel) (ending : ω) (recipient : ρ) :
      Reaches start state →
      Reaches start ((onPart (Jobs.start channel ending recipient) :
        StateM (CallbackHost α ω ρ) _) state).2
  | perform {start state : CallbackHost α ω ρ} (job : Handle) : Reaches start state →
      (∀ channel recipient ending,
        state.jobs.find? job = some ⟨channel, recipient, .working ending, false⟩ →
        Reaches state ((work ending).observe state).2) →
      Reaches start (Jobs.perform (host work (some job)) job state).2
  /-- On one thread nothing comes between the two parts of a completion step. -/
  | settle {start state : CallbackHost α ω ρ} (job : Handle) : Reaches start state →
      Reaches start (Jobs.settle (host work (some job)) job state).2
  /-- The core loses interest in a job. -/
  | cancel {start state : CallbackHost α ω ρ} (job : Handle) : Reaches start state →
      Reaches start (CallbackHost.cancel job state).2
  /-- Memory is handed out or given back elsewhere. -/
  | elsewhere {start state : CallbackHost α ω ρ} (use : StateM Ledger Unit) : Reaches start state →
      Reaches start ((onPart use : StateM (CallbackHost α ω ρ) Unit) state).2

/-! ### What is done, as equations -/

variable {work} {state : CallbackHost α ω ρ} {channel : Channel} {recipient : ρ}
  {handle job : Handle}

/-- Cancelling the jobs of a handle one by one cancels all of them. -/
theorem forM_cancel (handles : List Handle) (state : CallbackHost α ω ρ) :
    handles.forM cancel state =
      ((), { state with jobs := state.jobs.cancelAll handles }) := by
  induction handles generalizing state with
  | nil => rfl
  | cons handle rest ih => exact ih _

/-- Freeing a handle cancels the jobs on the list of the handle. -/
theorem free_eq (handle : Handle) (state : CallbackHost α ω ρ) :
    (free handle state).2 =
      { state with
        registry := (CallbackRegistry.remove handle state.registry).2
        jobs := state.jobs.cancelAll (state.registry.jobsOf handle)
        freed := if state.holds handle then handle :: state.freed else state.freed } := by
  have removed : CallbackRegistry.free α cancel handle state =
      (state.registry.jobsOf handle).forM cancel
        { state with registry := (CallbackRegistry.remove handle state.registry).2 } := rfl
  unfold free
  simp only [bind_apply, get_apply, removed, forM_cancel]
  by_cases held : state.holds handle = true
  · simp only [held, ↓reduceIte]
    rfl
  · simp only [held, Bool.false_eq_true, ↓reduceIte]
    rfl

/-- A request that is refused is answered at once, with a panic that tells why. -/
theorem refuse_eq (channel : Channel) (recipient : ρ) (cause : HandleError)
    (state : CallbackHost α ω ρ) :
    (Jobs.refuse (host work none) channel recipient cause state).2 =
      { state with
        ledger := (Status.panic cause.message state.ledger).2
        answers := state.answers ++ [⟨none, recipient,
          ⟨channel.placeholder, (Status.panic cause.message state.ledger).1⟩,
          state.freed⟩] } := rfl

/-- A call for work on an unknown handle is refused. -/
theorem dispatch_of_error {cause : HandleError}
    (unknown : state.registry.get handle = .error cause)
    (method : α → StateM (CallbackHost α ω ρ) ω) :
    (dispatch work channel recipient handle method state).2 =
      (Jobs.refuse (host work none) channel recipient cause state).2 := by
  have known : (Part.get state : CallbackRegistry α) = state.registry := rfl
  unfold dispatch CallbackRegistry.dispatchJob
  simp only [bind_apply, getThe_apply, known, unknown]
  rfl

/-- A job that starts is noted with the handle it belongs to. -/
theorem launch_of_ok {ending : ω} {jobs : Jobs ω ρ}
    (begun : Jobs.start channel ending recipient state.jobs = (.ok job, jobs)) :
    launch channel handle recipient ending state =
      (.ok job, { state with jobs := jobs, origins := (job, handle) :: state.origins }) := by
  have ran : (onPart (Jobs.start channel ending recipient) :
      StateM (CallbackHost α ω ρ) (Except HandleError Handle)) state =
    ((Jobs.start channel ending recipient state.jobs).1,
      { state with jobs := (Jobs.start channel ending recipient state.jobs).2 }) := rfl
  unfold launch
  rw [bind_apply, ran, begun]
  rfl

/-- A job that cannot start leaves no note. -/
theorem launch_of_error {ending : ω} {jobs : Jobs ω ρ} {cause : HandleError}
    (failed : Jobs.start channel ending recipient state.jobs = (.error cause, jobs)) :
    launch channel handle recipient ending state =
      (.error cause, { state with jobs := jobs }) := by
  have ran : (onPart (Jobs.start channel ending recipient) :
      StateM (CallbackHost α ω ρ) (Except HandleError Handle)) state =
    ((Jobs.start channel ending recipient state.jobs).1,
      { state with jobs := (Jobs.start channel ending recipient state.jobs).2 }) := rfl
  unfold launch
  rw [bind_apply, ran, failed]
  rfl

/-- What becomes of the host when it starts a job whose work was made. The job is noted under its
handle, or cancelled if the method freed the handle. -/
def started (work : ω → Act (CallbackHost α ω ρ) Lowering Output) (channel : Channel)
    (recipient : ρ)
    (handle : Handle) (ending : ω) (state : CallbackHost α ω ρ) : CallbackHost α ω ρ :=
  match Jobs.start channel ending recipient state.jobs with
  | (.error cause, jobs) =>
    (Jobs.refuse (host work none) channel recipient cause { state with jobs := jobs }).2
  | (.ok job, jobs) =>
    if state.holds handle then
      { state with
        registry := (CallbackRegistry.note handle job jobs.isPending state.registry).2
        jobs := jobs
        origins := (job, handle) :: state.origins }
    else
      { state with
        jobs := (Jobs.cancel job jobs).2
        origins := (job, handle) :: state.origins }

/-- A method whose job cannot start is refused. -/
theorem started_of_error {ending : ω} {jobs : Jobs ω ρ} {cause : HandleError}
    (failed : Jobs.start channel ending recipient state.jobs = (.error cause, jobs)) :
    started work channel recipient handle ending state =
      (Jobs.refuse (host work none) channel recipient cause { state with jobs := jobs }).2 := by
  unfold started
  rw [failed]

/-- The job of a method is noted under the handle, if this is still held. -/
theorem started_of_holds {ending : ω} {jobs : Jobs ω ρ}
    (begun : Jobs.start channel ending recipient state.jobs = (.ok job, jobs))
    (held : state.holds handle = true) :
    started work channel recipient handle ending state =
      { state with
        registry := (CallbackRegistry.note handle job jobs.isPending state.registry).2
        jobs := jobs
        origins := (job, handle) :: state.origins } := by
  unfold started
  rw [begun]
  exact if_pos held

/-- The job of a method that freed its own handle is cancelled. -/
theorem started_of_not_holds {ending : ω} {jobs : Jobs ω ρ}
    (begun : Jobs.start channel ending recipient state.jobs = (.ok job, jobs))
    (gone : ¬ state.holds handle = true) :
    started work channel recipient handle ending state =
      { state with
        jobs := (Jobs.cancel job jobs).2
        origins := (job, handle) :: state.origins } := by
  unfold started
  rw [begun]
  exact if_neg gone

/-- A call for work runs the method, and starts a job for what this returns. -/
theorem dispatch_of_ok {object : α} (found : state.registry.get handle = .ok object)
    (method : α → StateM (CallbackHost α ω ρ) ω) :
    (dispatch work channel recipient handle method state).2 =
      started work channel recipient handle (method object state).1
        (method object state).2 := by
  have known : (Part.get state : CallbackRegistry α) = state.registry := rfl
  unfold dispatch CallbackRegistry.dispatchJob
  simp only [bind_apply, getThe_apply, known, found]
  generalize method object state = made
  obtain ⟨ending, between⟩ := made
  have launching : (keeper work channel handle recipient).launch =
    launch channel handle recipient := rfl
  rw [launching]
  rcases begun : Jobs.start channel ending recipient between.jobs with ⟨cause | job, jobs⟩
  · rw [launch_of_error begun, started_of_error begun]
    rfl
  · rw [launch_of_ok begun]
    let begunOn : CallbackHost α ω ρ :=
      { between with jobs := jobs, origins := (job, handle) :: between.origins }
    change ((if between.holds handle = true then
        (do onPart (CallbackRegistry.note handle job jobs.isPending); pure job)
      else (do cancel job; pure job) : StateM (CallbackHost α ω ρ) Handle) begunOn).2 = _
    by_cases held : between.holds handle = true
    · rw [if_pos held, started_of_holds begun held]
      rfl
    · rw [if_neg held, started_of_not_holds begun held]
      rfl

/-- A job whose work was dropped or is done is left as it is. -/
theorem perform_eq (job : Handle) (state : CallbackHost α ω ρ) :
    (Jobs.perform (host work (some job)) job state).2 =
      match state.jobs.find? job with
      | some ⟨_, _, .working ending, unwanted⟩ =>
        if unwanted then { state with jobs := (Jobs.enter job .aborted state.jobs).2 }
        else
          { ((work ending).observe state).2 with
            jobs := (Jobs.enter job (.ended ((work ending).observe state).1)
              ((work ending).observe state).2.jobs).2 }
      | _ => state := by
  have known : (Part.get state : Jobs ω ρ) = state.jobs := rfl
  rw [Jobs.perform_eq, known]
  rcases state.jobs.find? job with _ | ⟨channel, recipient, ending | outcome | _, unwanted⟩
  case some.working => cases unwanted <;> rfl
  all_goals rfl

/-- The callback is called for a job that is pending when its completion step is taken. -/
theorem settle_eq (job : Handle) (state : CallbackHost α ω ρ) :
    (Jobs.settle (host work (some job)) job state).2 =
      match state.jobs.find? job with
      | some found =>
        if found.isWorking then state
        else if state.jobs.isPending job then
          let answer := Jobs.fold found.channel found.progress state.ledger
          { state with
            jobs := state.jobs.without job
            ledger := answer.2
            answers := state.answers ++
              [⟨some job, found.recipient, answer.1, state.freed⟩] }
        else { state with jobs := state.jobs.without job }
      | none => state := by
  have known : (Part.get state : Jobs ω ρ) = state.jobs := rfl
  rw [Jobs.settle_eq, known]
  cases state.jobs.find? job with
  | none => rfl
  | some found =>
      dsimp only
      cases found.isWorking <;> cases state.jobs.isPending job <;> rfl

end CallbackHost

end Boundary
