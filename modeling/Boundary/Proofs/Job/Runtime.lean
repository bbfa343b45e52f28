import Boundary.Job
import Boundary.Proofs.Handle.Table
import Boundary.Proofs.Sequencing

/-! # Jobs side by side

A host has several jobs at a time, and what it does with one of them leaves the others alone:
what can be seen of a job after a step depends on what could be seen of it before, on the step,
and on the memory that is handed out (`Boundary.JobRuntime.view_take`). The completion step of a
job is two steps here, so that anything may happen between its removal from the table and the
call of its callback.
-/

namespace Boundary

namespace Jobs

variable {ω ρ : Type} (jobs : Jobs ω ρ) (handle other : Handle)

theorem isPending_claim : (claim handle jobs).2.isPending other =
    if other = handle then false else jobs.isPending other := by
  unfold claim isPending Table.contains
  rw [Table.find?_erase]
  split <;> rfl

theorem find?_update (change : Job ω ρ → Job ω ρ) :
    (update handle change jobs).2.find? other =
      if other = handle then (jobs.find? other).map change else jobs.find? other :=
  lookup_map_update jobs.started handle other change

/-- Starting a job leaves those alone that have handles. -/
theorem start_of_issued (issued : other.raw.toNat < jobs.pending.next) (channel : Channel)
    (work : ω) (recipient : ρ) :
    (start channel work recipient jobs).2.isPending other = jobs.isPending other ∧
      (start channel work recipient jobs).2.find? other = jobs.find? other ∧
      (start channel work recipient jobs).2.pending.next = jobs.pending.next + 1 := by
  have kept := Table.find?_insert_of_issued issued ()
  have next := Table.next_insert jobs.pending ()
  unfold start isPending Table.contains
  rcases inserted : jobs.pending.insert () with ⟨cause | fresh, pending⟩
  · rw [inserted] at kept next
    exact ⟨congrArg Option.isSome kept, rfl, next⟩
  · rw [inserted] at kept next
    have different : other ≠ fresh := by
      rintro rfl
      exact absurd issued (Nat.not_lt.mpr (Nat.le_of_eq (Table.insert_eq_ok inserted).1.symm))
    exact ⟨congrArg Option.isSome kept, lookup_append_ne jobs.started other different _, next⟩

/-- Cancelling a job takes it from the table, and no other. -/
theorem isPending_cancel : (cancel handle jobs).2.isPending other =
    if other = handle then false else jobs.isPending other := by
  have claimed : (claim handle jobs).1 = jobs.isPending handle := rfl
  unfold cancel
  rw [bind_apply, claimed]
  cases jobs.isPending handle <;> exact isPending_claim jobs handle other

/-- Cancelling a pending job marks its work as unwanted. -/
theorem find?_cancel : (cancel handle jobs).2.find? other =
    if other = handle then
      if jobs.isPending handle then
        (jobs.find? other).map fun job => { job with unwanted := true }
      else jobs.find? other
    else jobs.find? other := by
  have claimed : (claim handle jobs).1 = jobs.isPending handle := rfl
  unfold cancel
  rw [bind_apply, claimed]
  cases jobs.isPending handle with
  | true =>
      simp only [↓reduceIte, bind_apply, pure_apply]
      exact find?_update (claim handle jobs).2 handle other _
  | false => exact (ite_self _).symm

/-- Cancelling a job that is not pending changes nothing. -/
theorem cancel_of_not_isPending (settled : jobs.isPending handle = false) :
    cancel handle jobs = (false, jobs) := by
  have claimed : claim handle jobs =
    (jobs.isPending handle, { jobs with pending := jobs.pending.erase handle }) := rfl
  unfold cancel
  have absent : jobs.pending.find? handle = none :=
    Option.not_isSome_iff_eq_none.mp (ne_true_of_eq_false settled)
  rw [bind_apply, claimed, settled, Table.erase_of_find?_eq_none absent]
  rfl

theorem next_cancel : (cancel handle jobs).2.pending.next = jobs.pending.next := by
  have claimed : (claim handle jobs).1 = jobs.isPending handle := rfl
  unfold cancel
  rw [bind_apply, claimed]
  cases jobs.isPending handle <;> rfl

/-- A job gets the handle with the next number. -/
theorem start_eq_ok {jobs after : Jobs ω ρ} {handle : Handle} {channel : Channel} {work : ω}
    {recipient : ρ} (begun : start channel work recipient jobs = (.ok handle, after)) :
    handle.raw.toNat = jobs.pending.next := by
  unfold start at begun
  rcases inserted : jobs.pending.insert () with ⟨cause | fresh, pending⟩
  · rw [inserted] at begun
    cases begun
  · rw [inserted] at begun
    cases begun
    exact (Table.insert_eq_ok inserted).1

/-- A number is used up for every job, whether it can be started or not. -/
theorem next_start (channel : Channel) (work : ω) (recipient : ρ) :
    (start channel work recipient jobs).2.pending.next = jobs.pending.next + 1 := by
  have next := Table.next_insert jobs.pending ()
  unfold start
  rcases inserted : jobs.pending.insert () with ⟨cause | fresh, pending⟩
  all_goals
    rw [inserted] at next
    exact next

/-- What a completion step leaves of the jobs. -/
def without : Jobs ω ρ :=
  ⟨jobs.pending.erase handle, jobs.started.filter fun entry => entry.1 != handle⟩

theorem isPending_without : (jobs.without handle).isPending other =
    if other = handle then false else jobs.isPending other :=
  isPending_claim jobs handle other

theorem find?_without : (jobs.without handle).find? other =
    if other = handle then none else jobs.find? other :=
  lookup_filter_ne jobs.started handle other

section

variable {σ : Type} [Part σ (Jobs ω ρ)] (host : JobHost σ ω ρ) (state : σ)

/-- Work is run to its end unless it is unwanted, and a job is performed once. -/
theorem perform_eq : perform host handle state =
    match (Part.get state : Jobs ω ρ).find? handle with
    | some ⟨_, _, .working work, unwanted⟩ =>
      if unwanted then onPart (enter handle .aborted : StateM (Jobs ω ρ) Unit) state
      else
        let ran := (host.work work).observe state
        onPart (enter handle (.ended ran.1) : StateM (Jobs ω ρ) Unit) ran.2
    | _ => ((), state) := by
  unfold perform
  rw [bind_apply, get_apply]
  rcases (Part.get state : Jobs ω ρ).find? handle with
    _ | ⟨channel, recipient, work | outcome | _, unwanted⟩
  case some.working => cases unwanted <;> rfl
  all_goals rfl

/-- A completion step waits for the work, and is due to answer if the job is still pending. -/
theorem beginCompletion_eq : beginCompletion handle jobs =
    match jobs.find? handle with
    | some job =>
      if job.isWorking then (none, jobs)
      else (if jobs.isPending handle then some job else none, jobs.without handle)
    | none => (none, jobs) := by
  unfold beginCompletion
  rw [bind_apply, get_apply]
  -- The job is removed from those that were started before it is known whether it was cancelled.
  cases jobs.find? handle with
  | none => rfl
  | some job =>
      cases working : job.isWorking with
      | true => simp only [working, ↓reduceIte, pure_apply]
      | false =>
          simp only [working, Bool.false_eq_true, ↓reduceIte, bind_apply, modify_apply]
          have claimed (started : List (Handle × Job ω ρ)) :
              claim handle { jobs with started := started } =
                (jobs.isPending handle,
                  { jobs with pending := jobs.pending.erase handle, started := started }) := rfl
          rw [claimed]
          cases jobs.isPending handle <;> rfl

/-- The completion step waits for the work, and calls the callback if the job is still pending. -/
theorem settle_eq [Part σ Ledger] : settle host handle state =
    match (Part.get state : Jobs ω ρ).find? handle with
    | some job =>
      if job.isWorking then ((), state)
      else
        let left : σ := Part.set ((Part.get state : Jobs ω ρ).without handle) state
        if (Part.get state : Jobs ω ρ).isPending handle then
          let answer := fold job.channel job.progress (Part.get left)
          host.complete job.recipient answer.1 (Part.set answer.2 left)
        else ((), left)
    | none => ((), state) := by
  have kept : (Part.set (Part.get state : Jobs ω ρ) state : σ) = state := Part.set_get state
  unfold settle
  rw [bind_apply, onPart_apply, beginCompletion_eq]
  cases (Part.get state : Jobs ω ρ).find? handle with
  | none => exact congrArg (Prod.mk ()) kept
  | some job =>
      cases working : job.isWorking with
      | true =>
          simp only [working, ↓reduceIte]
          exact congrArg (Prod.mk ()) kept
      | false =>
          simp only [working, Bool.false_eq_true, ↓reduceIte]
          cases (Part.get state : Jobs ω ρ).isPending handle <;> rfl

end

/-- Only handles that were issued belong to jobs. -/
structure Orderly : Prop where
  pending : jobs.pending.Orderly
  started : ∀ entry ∈ jobs.started, entry.1.raw.toNat < jobs.pending.next

namespace Orderly

variable {jobs : Jobs ω ρ} {handle : Handle}

theorem empty : (empty : Jobs ω ρ).Orderly := ⟨.named _, List.forall_mem_nil _⟩

theorem start (orderly : jobs.Orderly) (channel : Channel) (work : ω) (recipient : ρ) :
    (start channel work recipient jobs).2.Orderly := by
  have issues := orderly.pending.insert ()
  have next := Table.next_insert jobs.pending ()
  have earlier : ∀ entry ∈ jobs.started, entry.1.raw.toNat < (jobs.pending.insert ()).2.next :=
    fun entry member => next ▸ Nat.lt_succ_of_lt (orderly.started entry member)
  unfold Jobs.start
  rcases inserted : jobs.pending.insert () with ⟨cause | fresh, pending⟩
  · rw [inserted] at issues earlier
    exact ⟨issues, earlier⟩
  · rw [inserted] at issues earlier next
    refine ⟨issues, List.forall_mem_append.mpr ⟨earlier, List.forall_mem_singleton.mpr ?_⟩⟩
    change fresh.raw.toNat < pending.next
    rw [(Table.insert_eq_ok inserted).1, next]
    exact Nat.lt_succ_self _

theorem update (orderly : jobs.Orderly) (handle : Handle) (change : Job ω ρ → Job ω ρ) :
    (update handle change jobs).2.Orderly :=
  ⟨orderly.pending, issued_map_update jobs.started handle orderly.started change⟩

theorem enter (orderly : jobs.Orderly) (handle : Handle) (progress : JobProgress ω) :
    (enter handle progress jobs).2.Orderly :=
  orderly.update handle fun job => { job with progress := progress }

theorem cancel (orderly : jobs.Orderly) (handle : Handle) : (cancel handle jobs).2.Orderly := by
  have claimed : (claim handle jobs).1 = jobs.isPending handle := rfl
  have left : (claim handle jobs).2.Orderly := ⟨orderly.pending.erase handle, orderly.started⟩
  unfold Jobs.cancel
  rw [bind_apply, claimed]
  cases jobs.isPending handle with
  | true =>
      simp only [↓reduceIte, bind_apply, pure_apply]
      exact left.update handle _
  | false => exact left

theorem without (orderly : jobs.Orderly) (handle : Handle) : (jobs.without handle).Orderly :=
  ⟨orderly.pending.erase handle,
    fun entry member => orderly.started entry (List.mem_filter.mp member).1⟩

/-- A job that was started is pending, and its work has not begun. -/
theorem of_start (orderly : jobs.Orderly) {channel : Channel} {work : ω} {recipient : ρ}
    {after : Jobs ω ρ} (started : Jobs.start channel work recipient jobs = (.ok handle, after)) :
    after.isPending handle = true ∧
      after.find? handle = some ⟨channel, recipient, .working work, false⟩ ∧
      handle.raw.toNat < after.pending.next := by
  unfold Jobs.start at started
  rcases inserted : jobs.pending.insert () with ⟨cause | fresh, pending⟩
  · rw [inserted] at started
    cases started
  · rw [inserted] at started
    cases started
    have known := orderly.pending.find?_insert inserted
    obtain ⟨number, rfl⟩ := Table.insert_eq_ok inserted
    have absent : jobs.started.lookup handle = none := by
      refine List.lookup_eq_none_iff.mpr fun entry member => bne_iff_ne.mpr ?_
      rintro rfl
      exact absurd (orderly.started entry member) (number ▸ Nat.lt_irrefl _)
    refine ⟨congrArg Option.isSome known, ?_, number ▸ Nat.lt_succ_self _⟩
    change (jobs.started ++ [(handle, _)]).lookup handle = _
    rw [List.lookup_append, absent, List.lookup_cons_self]
    rfl

end Orderly

end Jobs

/-- A call of a completion callback, and the job that it was made for. -/
structure Completion (ρ : Type) where
  handle : Handle
  recipient : ρ
  result : JobResult

/-- The jobs of a host, and the calls that it made of the core's callbacks. -/
structure JobRuntime (ρ : Type) where
  jobs : Jobs (Act Ledger Lowering Output) ρ
  /-- The jobs whose completion step removed them from the table and did not end yet. -/
  completing : List (Handle × Job (Act Ledger Lowering Output) ρ)
  ledger : Ledger
  calls : List (Completion ρ)

namespace JobRuntime

variable {ρ : Type}

instance : Part (JobRuntime ρ) (Jobs (Act Ledger Lowering Output) ρ) where
  get runtime := runtime.jobs
  set jobs runtime := { runtime with jobs := jobs }
  get_set _ _ := rfl
  set_get _ := rfl
  set_set _ _ _ := rfl

instance : Part (JobRuntime ρ) Ledger where
  get runtime := runtime.ledger
  set ledger runtime := { runtime with ledger := ledger }
  get_set _ _ := rfl
  set_get _ := rfl
  set_set _ _ _ := rfl

/-- The host notes for which job it calls a callback. -/
def host (handle : Handle) : JobHost (JobRuntime ρ) (Act Ledger Lowering Output) ρ where
  work ending := ending.onPart
  complete recipient result := modify fun runtime =>
    { runtime with calls := runtime.calls ++ [⟨handle, recipient, result⟩] }

/-- What happens to the jobs, in any order. -/
inductive Step (ρ : Type) where
  | start (channel : Channel) (work : Act Ledger Lowering Output) (recipient : ρ)
  /-- The work of a job is run to its end, or dropped if the job was cancelled. -/
  | perform (handle : Handle)
  | beginCompletion (handle : Handle)
  | finishCompletion (handle : Handle)
  | cancel (handle : Handle)
  /-- Memory is handed out or given back elsewhere. -/
  | elsewhere (use : StateM Ledger Unit)

/-- Begins the completion step of a job.  Its callback is due if the job was still pending. -/
def beginCompletion (handle : Handle) : StateM (JobRuntime ρ) Unit := do
  match ← onPart (Jobs.beginCompletion handle) with
  | some job =>
    modify fun runtime => { runtime with completing := runtime.completing ++ [(handle, job)] }
  | none => return

/-- Ends the completion step of a job whose callback is due. -/
def finishCompletion (handle : Handle) : StateM (JobRuntime ρ) Unit := do
  match (← get).completing.lookup handle with
  | some job =>
    modify fun runtime =>
      { runtime with completing := runtime.completing.filter fun entry => entry.1 != handle }
    Jobs.finishCompletion (host handle) job
  | none => return

/-- Takes a step. -/
def take : Step ρ → StateM (JobRuntime ρ) Unit
  | .start channel work recipient => do let _ ← onPart (Jobs.start channel work recipient)
  | .perform handle => Jobs.perform (host handle) handle
  | .beginCompletion handle => beginCompletion handle
  | .finishCompletion handle => finishCompletion handle
  | .cancel handle => do
    let _ ← onPart (Jobs.cancel handle : StateM (Jobs (Act Ledger Lowering Output) ρ) Bool)
  | .elsewhere use => onPart use

/-- What a run of steps leads to. -/
def run (runtime : JobRuntime ρ) (steps : List (Step ρ)) : JobRuntime ρ :=
  steps.foldl (fun runtime step => (take step runtime).2) runtime

/-- The calls of the callback of a job. -/
def called (handle : Handle) (runtime : JobRuntime ρ) : List (Completion ρ) :=
  runtime.calls.filter fun call => call.handle = handle

/-- What can be seen of one job. -/
structure View (ρ : Type) where
  /-- The number of the handle to be issued next. -/
  next : Nat
  isPending : Bool
  job : Option (Job (Act Ledger Lowering Output) ρ)
  /-- The job as its completion step took it from the table, until the callback is called. -/
  completing : Option (Job (Act Ledger Lowering Output) ρ)
  calls : List (Completion ρ)

def view (handle : Handle) (runtime : JobRuntime ρ) : View ρ :=
  ⟨runtime.jobs.pending.next, runtime.jobs.isPending handle, runtime.jobs.find? handle,
    runtime.completing.lookup handle, runtime.called handle⟩

/-- What a step does to what can be seen of one job. -/
def Step.effect (handle : Handle) (ledger : Ledger) (view : View ρ) : Step ρ → View ρ
  | .perform other =>
    if handle = other then
      match view.job with
      | some ⟨channel, recipient, .working work, unwanted⟩ =>
        { view with
          job := some ⟨channel, recipient,
            if unwanted then .aborted else .ended (work.observe ledger).1, unwanted⟩ }
      | _ => view
    else view
  | .beginCompletion other =>
    if handle = other then
      match view.job with
      | some job =>
        if job.isWorking then view
        else
          { view with
            isPending := false
            job := none
            completing := if view.isPending then view.completing.or (some job)
              else view.completing }
      | none => view
    else view
  | .finishCompletion other =>
    if handle = other then
      match view.completing with
      | some job =>
        { view with
          completing := none
          calls := view.calls ++
            [⟨handle, job.recipient, (Jobs.fold job.channel job.progress ledger).1⟩] }
      | none => view
    else view
  | .cancel other =>
    if handle = other then
      { view with
        isPending := false
        job := if view.isPending then view.job.map fun job => { job with unwanted := true }
          else view.job }
    else view
  | .start _ _ _ => { view with next := view.next + 1 }
  | .elsewhere _ => view

variable {runtime : JobRuntime ρ} {handle : Handle}

/-- Starting a job shows nothing of a job that was started before. -/
theorem view_start (issued : handle.raw.toNat < runtime.jobs.pending.next) (channel : Channel)
    (work : Act Ledger Lowering Output) (recipient : ρ) :
    (take (.start channel work recipient) runtime).2.view handle =
      { runtime.view handle with next := runtime.jobs.pending.next + 1 } := by
  obtain ⟨pending, found, next⟩ :=
    runtime.jobs.start_of_issued handle issued channel work recipient
  change View.mk (Jobs.start channel work recipient runtime.jobs).2.pending.next
    ((Jobs.start channel work recipient runtime.jobs).2.isPending handle)
    ((Jobs.start channel work recipient runtime.jobs).2.find? handle) _ _ = _
  rw [pending, found, next]
  rfl

/-- Cancelling takes a job from those that are pending, if it was one of them. -/
theorem view_cancel (runtime : JobRuntime ρ) (handle other : Handle) :
    (take (.cancel other) runtime).2.view handle =
      (Step.cancel other).effect handle runtime.ledger (runtime.view handle) := by
  change View.mk (Jobs.cancel other runtime.jobs).2.pending.next
    ((Jobs.cancel other runtime.jobs).2.isPending handle)
    ((Jobs.cancel other runtime.jobs).2.find? handle) _ _ = _
  rw [Jobs.isPending_cancel, Jobs.find?_cancel, Jobs.next_cancel]
  by_cases same : handle = other
  · subst same
    simp only [↓reduceIte, Step.effect]
    rfl
  · simp only [same, ↓reduceIte, Step.effect]
    rfl

/-- Work changes nothing but the memory that is handed out. -/
theorem observe_work (runtime : JobRuntime ρ) (handle : Handle)
    (work : Act Ledger Lowering Output) :
    ((host handle).work work).observe runtime =
      ((work.observe runtime.ledger).1,
        { runtime with ledger := (work.observe runtime.ledger).2 }) := by
  change (work.onPart : Act (JobRuntime ρ) Lowering Output).observe runtime = _
  have known : (Part.get runtime : Ledger) = runtime.ledger := rfl
  unfold Act.observe Act.onPart
  rw [known]
  cases work runtime.ledger <;> rfl

/-- Performing a job whose work is done already has no effect. -/
theorem take_perform (runtime : JobRuntime ρ) (handle : Handle) :
    (take (.perform handle) runtime).2 =
      match runtime.jobs.find? handle with
      | some ⟨_, _, .working work, unwanted⟩ =>
        if unwanted then { runtime with jobs := (Jobs.enter handle .aborted runtime.jobs).2 }
        else
          ⟨(Jobs.enter handle (.ended (work.observe runtime.ledger).1) runtime.jobs).2,
            runtime.completing, (work.observe runtime.ledger).2, runtime.calls⟩
      | _ => runtime := by
  have known : (Part.get runtime : Jobs (Act Ledger Lowering Output) ρ) = runtime.jobs := rfl
  change (Jobs.perform (host handle) handle runtime).2 = _
  rw [Jobs.perform_eq, known]
  rcases runtime.jobs.find? handle with _ | ⟨channel, recipient, work | outcome | _, unwanted⟩
  case some.working =>
    cases unwanted with
    | true => rfl
    | false =>
        simp only [Bool.false_eq_true, ↓reduceIte, observe_work]
        rfl
  all_goals rfl

/-- A completion step that begins takes a job whose work is over from those that were started. -/
theorem take_beginCompletion (runtime : JobRuntime ρ) (handle : Handle) :
    (take (.beginCompletion handle) runtime).2 =
      match runtime.jobs.find? handle with
      | some job =>
        if job.isWorking then runtime
        else
          { runtime with
            jobs := runtime.jobs.without handle
            completing := if runtime.jobs.isPending handle then
              runtime.completing ++ [(handle, job)] else runtime.completing }
      | none => runtime := by
  have known : (Part.get runtime : Jobs (Act Ledger Lowering Output) ρ) = runtime.jobs := rfl
  change (beginCompletion handle runtime).2 = _
  unfold beginCompletion
  rw [bind_apply, onPart_apply, known, Jobs.beginCompletion_eq]
  cases runtime.jobs.find? handle with
  | none => rfl
  | some job =>
      dsimp only
      cases job.isWorking <;> cases runtime.jobs.isPending handle <;> rfl

/-- A completion step that ends calls the callback. -/
theorem take_finishCompletion (runtime : JobRuntime ρ) (handle : Handle) :
    (take (.finishCompletion handle) runtime).2 =
      match runtime.completing.lookup handle with
      | some job =>
        let answer := Jobs.fold job.channel job.progress runtime.ledger
        ⟨runtime.jobs, runtime.completing.filter fun entry => entry.1 != handle, answer.2,
          runtime.calls ++ [⟨handle, job.recipient, answer.1⟩]⟩
      | none => runtime := by
  change (finishCompletion handle runtime).2 = _
  unfold finishCompletion
  rw [bind_apply, get_apply]
  cases runtime.completing.lookup handle <;> rfl

/-- How far the work of a job has come shows in the view of that job. -/
theorem view_enter (runtime : JobRuntime ρ) (ledger : Ledger) (handle other : Handle)
    (progress : JobProgress (Act Ledger Lowering Output)) :
    view handle
        ⟨(Jobs.enter other progress runtime.jobs).2, runtime.completing, ledger, runtime.calls⟩ =
      if handle = other then
        { runtime.view handle with
          job := (runtime.jobs.find? handle).map fun job => { job with progress := progress } }
      else runtime.view handle := by
  have entered := runtime.jobs.find?_update other handle fun job =>
    { job with progress := progress }
  unfold view Jobs.enter
  rw [entered]
  split <;> rfl

/-- Work that is run shows in the view of its job alone. -/
theorem view_perform (runtime : JobRuntime ρ) (handle other : Handle) :
    (take (.perform other) runtime).2.view handle =
      (Step.perform other).effect handle runtime.ledger (runtime.view handle) := by
  rw [take_perform]
  by_cases same : handle = other
  · subst same
    simp only [Step.effect, ↓reduceIte, view]
    rcases found : runtime.jobs.find? handle with
      _ | ⟨channel, recipient, work | outcome | _, unwanted⟩
    case some.working =>
      cases unwanted with
      | true =>
          refine (view_enter runtime _ handle handle _).trans ?_
          rw [if_pos rfl, found]
          rfl
      | false =>
          refine (view_enter runtime _ handle handle _).trans ?_
          rw [if_pos rfl, found]
          rfl
    all_goals
      dsimp only
      rw [found]
  · simp only [Step.effect, same, ↓reduceIte]
    split
    · split
      · exact (view_enter runtime _ handle other _).trans (if_neg same)
      · exact (view_enter runtime _ handle other _).trans (if_neg same)
    · rfl

/-- The completion step of a job that begins shows in the view of that job alone. -/
theorem view_beginCompletion (runtime : JobRuntime ρ) (handle other : Handle) :
    (take (.beginCompletion other) runtime).2.view handle =
      (Step.beginCompletion other).effect handle runtime.ledger (runtime.view handle) := by
  have seen : (runtime.view handle).job = runtime.jobs.find? handle := rfl
  have asked : (runtime.view handle).isPending = runtime.jobs.isPending handle := rfl
  rw [take_beginCompletion]
  by_cases same : handle = other
  · subst same
    simp only [Step.effect, ↓reduceIte, seen, asked]
    cases found : runtime.jobs.find? handle with
    | none => rfl
    | some job =>
        dsimp only
        cases job.isWorking with
        | true => rfl
        | false =>
            simp only [Bool.false_eq_true, ↓reduceIte]
            unfold view
            rw [Jobs.isPending_without, Jobs.find?_without, if_pos rfl, if_pos rfl]
            cases runtime.jobs.isPending handle with
            | true =>
                simp only [↓reduceIte, List.lookup_append, List.lookup_cons_self]
                rfl
            | false => rfl
  · simp only [Step.effect, same, ↓reduceIte]
    split
    · split
      · rfl
      · unfold view
        dsimp only
        rw [Jobs.isPending_without, Jobs.find?_without, if_neg same, if_neg same]
        split
        · rw [lookup_append_ne runtime.completing handle same]
          rfl
        · rfl
    · rfl

/-- The completion step of a job that ends shows in the view of that job alone. -/
theorem view_finishCompletion (runtime : JobRuntime ρ) (handle other : Handle) :
    (take (.finishCompletion other) runtime).2.view handle =
      (Step.finishCompletion other).effect handle runtime.ledger (runtime.view handle) := by
  have due : (runtime.view handle).completing = runtime.completing.lookup handle := rfl
  rw [take_finishCompletion]
  by_cases same : handle = other
  · subst same
    simp only [Step.effect, ↓reduceIte, due]
    cases found : runtime.completing.lookup handle with
    | none => rfl
    | some job =>
        simp only [view, called, lookup_filter_ne, ↓reduceIte, List.filter_append]
        rw [List.filter_cons_of_pos (by simp), List.filter_nil]
  · -- The call that may be made is not one for this job.
    have apart : other ≠ handle := fun back => same back.symm
    simp only [Step.effect, same, ↓reduceIte]
    split
    · simp only [view, called, lookup_filter_ne, same, ↓reduceIte, List.filter_append]
      rw [List.filter_cons_of_neg (by simp [apart]), List.filter_nil, List.append_nil]
    · rfl

/-- **What can be seen of a job after a step depends on what could be seen of it before.** -/
theorem view_take (issued : handle.raw.toNat < runtime.jobs.pending.next) (step : Step ρ) :
    (take step runtime).2.view handle =
      step.effect handle runtime.ledger (runtime.view handle) := by
  cases step with
  | start channel work recipient => exact view_start issued channel work recipient
  | perform other => exact view_perform runtime handle other
  | beginCompletion other => exact view_beginCompletion runtime handle other
  | finishCompletion other => exact view_finishCompletion runtime handle other
  | cancel other => exact view_cancel runtime handle other
  | elsewhere use => rfl

/-- Handles are issued in ascending order. -/
theorem next_le_effect (handle : Handle) (ledger : Ledger) (view : View ρ) (step : Step ρ) :
    view.next ≤ (step.effect handle ledger view).next := by
  cases step with
  | start channel work recipient => exact Nat.le_succ _
  | elsewhere use => exact Nat.le_refl _
  | _ =>
      simp only [Step.effect]
      repeat' split
      all_goals exact Nat.le_refl _

/-- A host that did not start anything yet. -/
def idle (ledger : Ledger) : JobRuntime ρ := ⟨.empty, [], ledger, []⟩

/-- Only handles that were issued belong to jobs, whatever has become of these. -/
structure Orderly (runtime : JobRuntime ρ) : Prop where
  jobs : runtime.jobs.Orderly
  completing : ∀ entry ∈ runtime.completing,
    entry.1.raw.toNat < runtime.jobs.pending.next
  calls : ∀ call ∈ runtime.calls, call.handle.raw.toNat < runtime.jobs.pending.next

namespace Orderly

theorem idle (ledger : Ledger) : (idle ledger : JobRuntime ρ).Orderly :=
  ⟨.empty, List.forall_mem_nil _, List.forall_mem_nil _⟩

/-- A job that is started has no completion step and no calls of its callback behind it. -/
theorem fresh {channel : Channel} {work : Act Ledger Lowering Output} {recipient : ρ}
    {started : Jobs (Act Ledger Lowering Output) ρ} (orderly : runtime.Orderly)
    (begun : Jobs.start channel work recipient runtime.jobs = (.ok handle, started)) :
    runtime.completing.lookup handle = none ∧ runtime.called handle = [] := by
  have number := Jobs.start_eq_ok begun
  constructor
  · refine List.lookup_eq_none_iff.mpr fun entry member => bne_iff_ne.mpr ?_
    rintro rfl
    exact absurd (orderly.completing entry member) (number ▸ Nat.lt_irrefl _)
  · refine List.filter_eq_nil_iff.mpr fun call member => ?_
    rintro same
    obtain rfl := of_decide_eq_true same
    exact absurd (orderly.calls call member) (number ▸ Nat.lt_irrefl _)

/-- What is known of the handles stays known as further ones are issued. -/
theorem withJobs {jobs : Jobs (Act Ledger Lowering Output) ρ} (orderly : runtime.Orderly)
    (kept : jobs.Orderly) (later : runtime.jobs.pending.next ≤ jobs.pending.next)
    (ledger : Ledger) : (⟨jobs, runtime.completing, ledger, runtime.calls⟩ :
      JobRuntime ρ).Orderly :=
  ⟨kept, fun entry member => Nat.lt_of_lt_of_le (orderly.completing entry member) later,
    fun call member => Nat.lt_of_lt_of_le (orderly.calls call member) later⟩

/-- A completion step that begins is due for a job that was started. -/
theorem beginCompletion (orderly : runtime.Orderly) (handle : Handle) :
    (take (.beginCompletion handle) runtime).2.Orderly := by
  rw [take_beginCompletion]
  cases found : runtime.jobs.find? handle with
  | none => exact orderly
  | some job =>
      dsimp only
      split
      · exact orderly
      · obtain ⟨before, later, listed, -⟩ := List.lookup_eq_some_iff.mp found
        have issued : handle.raw.toNat < runtime.jobs.pending.next :=
          orderly.jobs.started (handle, job) (by rw [listed]; exact List.mem_append_cons_self)
        refine ⟨orderly.jobs.without handle, ?_, orderly.calls⟩
        split
        · exact List.forall_mem_append.mpr
            ⟨orderly.completing, List.forall_mem_singleton.mpr issued⟩
        · exact orderly.completing

/-- A completion step that ends calls the callback of a job that was due. -/
theorem finishCompletion (orderly : runtime.Orderly) (handle : Handle) :
    (take (.finishCompletion handle) runtime).2.Orderly := by
  rw [take_finishCompletion]
  cases found : runtime.completing.lookup handle with
  | none => exact orderly
  | some job =>
      obtain ⟨before, later, listed, -⟩ := List.lookup_eq_some_iff.mp found
      have issued : handle.raw.toNat < runtime.jobs.pending.next :=
        orderly.completing (handle, job) (by rw [listed]; exact List.mem_append_cons_self)
      refine ⟨orderly.jobs, fun entry member => ?_,
        List.forall_mem_append.mpr ⟨orderly.calls, List.forall_mem_singleton.mpr issued⟩⟩
      exact orderly.completing entry (List.mem_filter.mp member).1

/-- A step leaves a runtime orderly. -/
theorem take (orderly : runtime.Orderly) (step : Step ρ) : (take step runtime).2.Orderly := by
  cases step with
  | start channel work recipient =>
      refine orderly.withJobs (orderly.jobs.start channel work recipient) ?_ runtime.ledger
      exact Nat.le_of_lt (Nat.lt_of_succ_le
        (Nat.le_of_eq (runtime.jobs.next_start channel work recipient).symm))
  | perform handle =>
      rw [take_perform]
      split
      · split
        · exact orderly.withJobs (orderly.jobs.enter handle _) (Nat.le_refl _) _
        · exact orderly.withJobs (orderly.jobs.enter handle _) (Nat.le_refl _) _
      · exact orderly
  | beginCompletion handle => exact orderly.beginCompletion handle
  | finishCompletion handle => exact orderly.finishCompletion handle
  | cancel handle =>
      refine orderly.withJobs (orderly.jobs.cancel handle) ?_ runtime.ledger
      exact Nat.le_of_eq (Jobs.next_cancel runtime.jobs handle).symm
  | elsewhere use => exact orderly.withJobs orderly.jobs (Nat.le_refl _) _

/-- However jobs are started and go on, only handles that were issued belong to them. -/
theorem run (orderly : runtime.Orderly) (steps : List (Step ρ)) : (runtime.run steps).Orderly := by
  induction steps generalizing runtime with
  | nil => exact orderly
  | cons step rest ih => exact ih (orderly.take step)

end Orderly

end JobRuntime

end Boundary
