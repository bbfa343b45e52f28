import Boundary.Proofs.Job.Runtime

/-! # Completing and cancelling a job

Completing and cancelling race for a job, and one of them wins. A completion step that removes the
job from the table first calls the core's callback, once, with what a call would have answered that
ended as the work did; when the job was cancelled before, the callback is never called
(`Boundary.JobRuntime.callback_is_called_once`). Cancelling the job after its removal comes too
late: it changes nothing, and the callback may be called when it has returned
(`Boundary.JobRuntime.callback_follows_late_cancel`). A job is in one of five phases
(`Boundary.JobRuntime.Phase`), and each step takes one to the next.
-/

namespace Boundary.JobRuntime

variable {ρ : Type} {runtime : JobRuntime ρ} {handle : Handle}

/-- How far a job has come, as the core sees it. -/
inductive Phase where
  | working
  | ended (outcome : Outcome Lowering Output)
  /-- The completion step removed the job from the table and has not called the callback. -/
  | completing (outcome : Outcome Lowering Output)
  | completed (result : JobResult)
  /-- The job was cancelled before its completion step. -/
  | freed

/-- A step takes a job from one phase to the next. -/
def Phase.next (handle : Handle) (channel : Channel) (work : Act Ledger Lowering Output)
    (ledger : Ledger) (phase : Phase) : Step ρ → Phase
  | .perform other =>
    if handle = other then
      match phase with
      | working => ended (work.observe ledger).1
      | phase => phase
    else phase
  | .beginCompletion other =>
    if handle = other then
      match phase with
      | ended outcome => completing outcome
      | phase => phase
    else phase
  | .finishCompletion other =>
    if handle = other then
      match phase with
      | completing outcome =>
        let answer := (Envelope.outputOrError channel (Act.ofOutcome outcome) ledger).1
        completed ⟨answer.1, answer.2⟩
      | phase => phase
    else phase
  | .cancel other =>
    if handle = other then
      match phase with
      | working | ended _ => freed
      | phase => phase
    else phase
  | .start _ _ _ | .elsewhere _ => phase

variable {channel : Channel} {recipient : ρ} {work : Act Ledger Lowering Output} {phase : Phase}

/-- What can be seen of a job in a phase. -/
inductive Phase.Stands (handle : Handle) (channel : Channel) (recipient : ρ)
    (work : Act Ledger Lowering Output) : Phase → View ρ → Prop where
  | working {next : Nat} : Stands handle channel recipient work working
      ⟨next, true, some ⟨channel, recipient, .working work, false⟩, none, []⟩
  | ended {next : Nat} {outcome : Outcome Lowering Output} :
      Stands handle channel recipient work (ended outcome)
        ⟨next, true, some ⟨channel, recipient, .ended outcome, false⟩, none, []⟩
  | completing {next : Nat} {outcome : Outcome Lowering Output} :
      Stands handle channel recipient work (completing outcome)
        ⟨next, false, none, some ⟨channel, recipient, .ended outcome, false⟩, []⟩
  | completed {next : Nat} {result : JobResult} :
      Stands handle channel recipient work (completed result)
        ⟨next, false, none, none, [⟨handle, recipient, result⟩]⟩
  | freed {next : Nat} {job : Option (Job (Act Ledger Lowering Output) ρ)} :
      Stands handle channel recipient work freed ⟨next, false, job, none, []⟩

/-- Each step takes what can be seen of a job in one phase to what can be seen in the next. -/
theorem Phase.Stands.step {view : View ρ}
    (stands : phase.Stands handle channel recipient work view) (ledger : Ledger)
    (step : Step ρ) :
    (phase.next handle channel work ledger step).Stands handle channel recipient work
      (step.effect handle ledger view) := by
  cases step with
  | perform other =>
      by_cases same : handle = other
      · simp only [Step.effect, Phase.next, same, ↓reduceIte]
        cases stands with
        | working => exact .ended
        | ended => exact .ended
        | completing => exact .completing
        | completed => exact same ▸ .completed
        | @freed next job =>
            rcases job with _ | ⟨channel, recipient, work | outcome | _, unwanted⟩ <;> exact .freed
      · simp only [Step.effect, Phase.next, same, ↓reduceIte]
        exact stands
  | beginCompletion other =>
      by_cases same : handle = other
      · simp only [Step.effect, Phase.next, same, ↓reduceIte]
        cases stands with
        | working => exact .working
        | ended => exact .completing
        | completing => exact .completing
        | completed => exact same ▸ .completed
        | @freed next job =>
            rcases job with _ | ⟨channel, recipient, work | outcome | _, unwanted⟩ <;> exact .freed
      · simp only [Step.effect, Phase.next, same, ↓reduceIte]
        exact stands
  | finishCompletion other =>
      by_cases same : handle = other
      · simp only [Step.effect, Phase.next, same, ↓reduceIte]
        cases stands with
        | working => exact .working
        | ended => exact .ended
        | completing => exact .completed
        | completed => exact same ▸ .completed
        | freed => exact .freed
      · simp only [Step.effect, Phase.next, same, ↓reduceIte]
        exact stands
  | cancel other =>
      by_cases same : handle = other
      · simp only [Step.effect, Phase.next, same, ↓reduceIte]
        cases stands with
        | completing => exact .completing
        | completed => exact same ▸ .completed
        | _ => exact .freed
      · simp only [Step.effect, Phase.next, same, ↓reduceIte]
        exact stands
  | start channel' work' recipient' => cases stands <;> constructor
  | elsewhere use => exact stands

/-! ### Along a run -/

/-- The phase that a run leads to. -/
def after (handle : Handle) (channel : Channel) (work : Act Ledger Lowering Output) :
    JobRuntime ρ → Phase → List (Step ρ) → Phase
  | _, phase, [] => phase
  | runtime, phase, step :: rest =>
    after handle channel work (take step runtime).2
      (phase.next handle channel work runtime.ledger step) rest

variable {steps earlier : List (Step ρ)}

theorem after_cons (handle : Handle) (channel : Channel) (work : Act Ledger Lowering Output)
    (runtime : JobRuntime ρ) (phase : Phase) (step : Step ρ) (rest : List (Step ρ)) :
    after handle channel work runtime phase (step :: rest) =
      after handle channel work (take step runtime).2
        (phase.next handle channel work runtime.ledger step) rest := rfl

/-- A run of two parts goes through the phases of the one and then of the other. -/
theorem after_append (handle : Handle) (channel : Channel) (work : Act Ledger Lowering Output)
    (runtime : JobRuntime ρ) (phase : Phase) (steps more : List (Step ρ)) :
    after handle channel work runtime phase (steps ++ more) =
      after handle channel work (runtime.run steps)
        (after handle channel work runtime phase steps) more := by
  induction steps generalizing runtime phase with
  | nil => rfl
  | cons step rest ih => exact ih _ _

/-- A job stands as the phase says that a run leads to. -/
theorem Phase.Stands.run
    (stands : phase.Stands handle channel recipient work (runtime.view handle))
    (issued : handle.raw.toNat < runtime.jobs.pending.next) (steps : List (Step ρ)) :
    (after handle channel work runtime phase steps).Stands handle channel recipient work
      ((runtime.run steps).view handle) := by
  induction steps generalizing runtime phase with
  | nil => exact stands
  | cons step rest ih =>
      have stepped := view_take issued step
      have later := next_le_effect handle runtime.ledger (runtime.view handle) step
      rw [← stepped] at later
      refine ih ?_ (Nat.lt_of_lt_of_le issued later)
      rw [stepped]
      exact stands.step runtime.ledger step

/-- Steps that keep a job in its phase lead nowhere else. -/
theorem after_of_next_eq
    (keeps : ∀ step ∈ steps, ∀ ledger, phase.next handle channel work ledger step = phase)
    (runtime : JobRuntime ρ) : after handle channel work runtime phase steps = phase := by
  induction steps generalizing runtime with
  | nil => rfl
  | cons step rest ih =>
      obtain ⟨first, others⟩ := List.forall_mem_cons.mp keeps
      unfold after
      rw [first runtime.ledger]
      exact ih others _

/-- Whether the job is no longer in the table. -/
def Phase.isOver : Phase → Bool
  | working | ended _ => false
  | completing _ | completed _ | freed => true

/-- The calls of the callback that were made for a job. -/
def Phase.calls (handle : Handle) (recipient : ρ) : Phase → List (Completion ρ)
  | completed result => [⟨handle, recipient, result⟩]
  | _ => []

/-- No phase has more than one call of the callback behind it. -/
theorem Phase.length_calls_le (handle : Handle) (recipient : ρ) (phase : Phase) :
    (phase.calls handle recipient).length ≤ 1 := by
  cases phase with
  | completed result => exact Nat.le_refl 1
  | _ => exact Nat.zero_le 1

theorem Phase.Stands.calls_eq {view : View ρ}
    (stands : phase.Stands handle channel recipient work view) :
    view.calls = phase.calls handle recipient := by
  cases stands <;> rfl

theorem Phase.Stands.isPending_eq {view : View ρ}
    (stands : phase.Stands handle channel recipient work view) :
    view.isPending = !phase.isOver := by
  cases stands <;> rfl

/-- A job that was completed or freed has come to its end. -/
theorem Phase.next_of_completed {result : JobResult} (ledger : Ledger) (step : Step ρ) :
    (completed result).next handle channel work ledger step = completed result := by
  cases step <;> simp only [next, ite_self]

theorem Phase.next_freed (ledger : Ledger) (step : Step ρ) :
    freed.next handle channel work ledger step = freed := by
  cases step <;> simp only [next, ite_self]

/-! ### What the steps say -/

/-- A completion step began after the work of the job had been run or dropped. -/
def CompletionBegan (handle : Handle) (steps : List (Step ρ)) : Prop :=
  ∃ before later, steps = before ++ .beginCompletion handle :: later ∧ .perform handle ∈ before

/-- The last step is the one with which a completion step begins, or it began before. -/
theorem completionBegan_append_step (handle : Handle) (earlier : List (Step ρ)) (step : Step ρ) :
    CompletionBegan handle (earlier ++ [step]) ↔ CompletionBegan handle earlier ∨
      step = .beginCompletion handle ∧ .perform handle ∈ earlier := by
  constructor
  · rintro ⟨before, later, same, performed⟩
    rcases List.eq_nil_or_concat later with rfl | ⟨rest, last, rfl⟩
    · obtain ⟨rfl, rfl⟩ := List.append_inj' same rfl |>.imp id fun tail => (List.cons.inj tail).1
      exact .inr ⟨rfl, performed⟩
    · rw [List.concat_eq_append, ← List.cons_append, ← List.append_assoc] at same
      exact .inl ⟨before, rest, (List.append_inj' same rfl).1, performed⟩
  · rintro (⟨before, later, rfl, performed⟩ | ⟨rfl, performed⟩)
    · exact ⟨before, later ++ [step], by simp only [List.append_assoc, List.cons_append], performed⟩
    · exact ⟨earlier, [], rfl, performed⟩

/-- What has happened to a job that was started and is in a phase. -/
def Phase.Follows (handle : Handle) (steps : List (Step ρ)) : Phase → Prop
  | working => .cancel handle ∉ steps ∧ .perform handle ∉ steps
  | ended _ =>
    .cancel handle ∉ steps ∧ .perform handle ∈ steps ∧ ¬ CompletionBegan handle steps
  | completing _ | completed _ => CompletionBegan handle steps
  | freed => .cancel handle ∈ steps

/-- No completion step can begin before the work of the job was run or dropped. -/
theorem not_completionBegan (idle : .perform handle ∉ earlier) :
    ¬ CompletionBegan handle earlier := by
  rintro ⟨before, later, rfl, performed⟩
  exact idle (List.mem_append_left _ performed)

/-- Each step keeps the phase in line with what has happened to the job. -/
theorem Phase.Follows.step (follows : phase.Follows handle earlier) (ledger : Ledger)
    (step : Step ρ) :
    (phase.next handle channel work ledger step).Follows handle (earlier ++ [step]) := by
  have began := completionBegan_append_step handle earlier step
  cases phase with
  | working =>
      have unbegun := not_completionBegan follows.2
      cases step <;> grind [next, Follows]
  | ended outcome => cases step <;> grind [next, Follows]
  | completing outcome => cases step <;> grind [next, Follows]
  | completed result =>
      rw [next_of_completed]
      exact began.mpr (.inl follows)
  | freed =>
      rw [next_freed]
      exact List.mem_append_left _ follows

/-- However a run goes on, the phase of a job is in line with what has happened to it. -/
theorem Phase.Follows.run (follows : phase.Follows handle earlier) (runtime : JobRuntime ρ)
    (steps : List (Step ρ)) :
    (after handle channel work runtime phase steps).Follows handle (earlier ++ steps) := by
  induction steps generalizing runtime phase earlier with
  | nil =>
      rw [List.append_nil]
      exact follows
  | cons step rest ih =>
      have stepped : (phase.next handle channel work runtime.ledger step).Follows handle
        (earlier ++ [step]) := follows.step runtime.ledger step
      have later := ih stepped (take step runtime).2
      rwa [List.append_assoc] at later

/-- The phase that a job is in after a run that began when it was started. -/
theorem follows_after (handle : Handle) (channel : Channel) (work : Act Ledger Lowering Output)
    (runtime : JobRuntime ρ) (steps : List (Step ρ)) :
    (after handle channel work runtime .working steps).Follows handle steps := by
  have begun : Phase.working.Follows handle ([] : List (Step ρ)) :=
    ⟨List.not_mem_nil, List.not_mem_nil⟩
  exact begun.run runtime steps

/-- A job leaves the table when it is cancelled or its completion step begins, and not before. -/
theorem Phase.Follows.isOver_iff (follows : phase.Follows handle steps) :
    phase.isOver = true ↔ .cancel handle ∈ steps ∨ CompletionBegan handle steps := by
  cases phase with
  | working =>
      obtain ⟨kept, idle⟩ := follows
      simp only [isOver, Bool.false_eq_true, kept, not_completionBegan idle, or_self]
  | ended outcome =>
      obtain ⟨kept, -, unbegun⟩ := follows
      simp only [isOver, Bool.false_eq_true, kept, unbegun, or_self]
  | completing outcome => exact iff_of_true rfl (.inr follows)
  | completed result => exact iff_of_true rfl (.inr follows)
  | freed => exact iff_of_true rfl (.inl follows)

/-- A job that is cancelled before its completion step begins is freed for good. -/
theorem after_cancelled {before later : List (Step ρ)}
    (unbegun : ¬ CompletionBegan handle before) (runtime : JobRuntime ρ) :
    after handle channel work runtime .working (before ++ .cancel handle :: later) = .freed := by
  have follows := follows_after handle channel work runtime before
  rw [after_append, after_cons]
  generalize after handle channel work runtime .working before = reached at follows ⊢
  have freed (ledger : Ledger) :
      reached.next handle channel work ledger (.cancel handle : Step ρ) = .freed := by
    cases reached with
    | completing outcome => exact absurd follows unbegun
    | completed result => exact absurd follows unbegun
    | _ => exact if_pos rfl
  rw [freed]
  exact after_of_next_eq (fun step _ ledger => Phase.next_freed ledger step) _

/-- Work that is not run, and not cancelled, goes on. -/
theorem Phase.next_working {ledger : Ledger} {step : Step ρ} (idle : step ≠ .perform handle)
    (kept : step ≠ .cancel handle) :
    working.next handle channel work ledger step = working := by
  cases step with
  | perform other => exact if_neg fun same => idle (congrArg Step.perform same.symm)
  | cancel other => exact if_neg fun same => kept (congrArg Step.cancel same.symm)
  | beginCompletion other => exact ite_self _
  | finishCompletion other => exact ite_self _
  | _ => rfl

/-- A job whose work has ended waits for its completion. -/
theorem Phase.next_ended {outcome : Outcome Lowering Output} {ledger : Ledger} {step : Step ρ}
    (unbegun : step ≠ .beginCompletion handle) (kept : step ≠ .cancel handle) :
    (ended outcome).next handle channel work ledger step = ended outcome := by
  cases step with
  | perform other => exact ite_self _
  | cancel other => exact if_neg fun same => kept (congrArg Step.cancel same.symm)
  | beginCompletion other =>
      exact if_neg fun same => unbegun (congrArg Step.beginCompletion same.symm)
  | finishCompletion other => exact ite_self _
  | _ => rfl

/-- Whatever happens to a job on the way, cancelling it included, its callback stays due. -/
theorem Phase.next_completing {outcome : Outcome Lowering Output} {ledger : Ledger}
    {step : Step ρ} (unfinished : step ≠ .finishCompletion handle) :
    (completing outcome).next handle channel work ledger step = completing outcome := by
  cases step with
  | finishCompletion other =>
      exact if_neg fun same => unfinished (congrArg Step.finishCompletion same.symm)
  | perform other => exact ite_self _
  | cancel other => exact ite_self _
  | beginCompletion other => exact ite_self _
  | _ => rfl

/-- The first completion step after the end of the work completes a job that was not cancelled
before it began. -/
theorem after_completion {before between within later : List (Step ρ)}
    (unperformed : .perform handle ∉ before) (keptBefore : .cancel handle ∉ before)
    (unbegun : .beginCompletion handle ∉ between) (keptBetween : .cancel handle ∉ between)
    (unfinished : .finishCompletion handle ∉ within) :
    let outcome := (work.observe (runtime.run before).ledger).1
    let answer := (Envelope.outputOrError channel (Act.ofOutcome outcome)
      (runtime.run (before ++ .perform handle ::
        (between ++ .beginCompletion handle :: within))).ledger).1
    after handle channel work runtime .working (before ++ .perform handle ::
        (between ++ .beginCompletion handle :: (within ++ .finishCompletion handle :: later))) =
      .completed ⟨answer.1, answer.2⟩ := by
  intro outcome answer
  -- Nothing happens to the job until its work ends, from then on until its completion step begins,
  -- and from then on until it ends.
  have waits : after handle channel work runtime .working before = .working :=
    after_of_next_eq (fun step member ledger => Phase.next_working
      (ne_of_mem_of_not_mem member unperformed) (ne_of_mem_of_not_mem member keptBefore)) runtime
  have ends : Phase.working.next handle channel work (runtime.run before).ledger
    (.perform handle : Step ρ) = .ended outcome := if_pos rfl
  have rests (runtime : JobRuntime ρ) :
      after handle channel work runtime (.ended outcome) between = .ended outcome :=
    after_of_next_eq (fun step member ledger => Phase.next_ended
      (ne_of_mem_of_not_mem member unbegun) (ne_of_mem_of_not_mem member keptBetween)) runtime
  have begins (ledger : Ledger) : (Phase.ended outcome).next handle channel work ledger
    (.beginCompletion handle : Step ρ) = .completing outcome := if_pos rfl
  have due (runtime : JobRuntime ρ) :
      after handle channel work runtime (.completing outcome) within = .completing outcome :=
    after_of_next_eq (fun step member ledger => Phase.next_completing
      (ne_of_mem_of_not_mem member unfinished)) runtime
  have completes : (Phase.completing outcome).next handle channel work
    (runtime.run (before ++ .perform handle ::
      (between ++ .beginCompletion handle :: within))).ledger (.finishCompletion handle : Step ρ) =
      .completed ⟨answer.1, answer.2⟩ := if_pos rfl
  have regroup : before ++ .perform handle ::
      (between ++ .beginCompletion handle :: (within ++ .finishCompletion handle :: later)) =
        (before ++ .perform handle :: (between ++ .beginCompletion handle :: within)) ++
          .finishCompletion handle :: later := by
    simp only [List.append_assoc, List.cons_append]
  have reached : after handle channel work runtime .working
      (before ++ .perform handle :: (between ++ .beginCompletion handle :: within)) =
        .completing outcome := by
    rw [after_append, waits, after_cons, ends, after_append, rests, after_cons, begins, due]
  rw [regroup, after_append, reached, after_cons, completes]
  exact after_of_next_eq (fun step _ ledger => Phase.next_of_completed ledger step) _

/-! ### The callback of a job -/

/-- What the core can rely on when the host starts a job for it. -/
structure Settles (handle : Handle) (channel : Channel) (recipient : ρ)
    (work : Act Ledger Lowering Output) (start : JobRuntime ρ) (steps : List (Step ρ)) : Prop where
  /-- The callback is called once at most. -/
  once : ((start.run steps).called handle).length ≤ 1
  /-- It is never called if the job is cancelled before its completion step begins. -/
  silent : ∀ before later, steps = before ++ .cancel handle :: later →
    ¬ CompletionBegan handle before → (start.run steps).called handle = []
  /-- A completion step that begins after the end of the work, and before the job is cancelled,
  calls it with what a call would have answered that ended as the work did, also if the job is
  cancelled meanwhile. -/
  completed : ∀ before between within later,
    steps = before ++ .perform handle ::
      (between ++ .beginCompletion handle :: (within ++ .finishCompletion handle :: later)) →
    .perform handle ∉ before → .cancel handle ∉ before →
    .beginCompletion handle ∉ between → .cancel handle ∉ between →
    .finishCompletion handle ∉ within →
    let outcome := (work.observe (start.run before).ledger).1
    let answer := (Envelope.outputOrError channel (Act.ofOutcome outcome)
      (start.run (before ++ .perform handle ::
        (between ++ .beginCompletion handle :: within))).ledger).1
    (start.run steps).called handle = [⟨handle, recipient, ⟨answer.1, answer.2⟩⟩]
  /-- The job is pending until it is cancelled or its completion step begins. -/
  pending : (start.run steps).jobs.isPending handle = true ↔
    ¬ (.cancel handle ∈ steps ∨ CompletionBegan handle steps)
  /-- From then on there is nothing to be cancelled. -/
  again : .cancel handle ∈ steps ∨ CompletionBegan handle steps →
    take (.cancel handle) (start.run steps) = ((), start.run steps)

/-- What the core can rely on is told by the phases of the job. -/
theorem run_settles (started : runtime.view handle =
      ⟨runtime.jobs.pending.next, true, some ⟨channel, recipient, .working work, false⟩, none, []⟩)
    (issued : handle.raw.toNat < runtime.jobs.pending.next) (steps : List (Step ρ)) :
    Settles handle channel recipient work runtime steps := by
  have begun : Phase.working.Stands handle channel recipient work (runtime.view handle) :=
    started ▸ .working
  have called (steps : List (Step ρ)) : (runtime.run steps).called handle =
      (after handle channel work runtime .working steps).calls handle recipient :=
    (begun.run issued steps).calls_eq
  have pending : (runtime.run steps).jobs.isPending handle =
      !(after handle channel work runtime .working steps).isOver :=
    (begun.run issued steps).isPending_eq
  have gone := (follows_after handle channel work runtime steps).isOver_iff
  constructor
  · rw [called]
    exact Phase.length_calls_le _ _ _
  · rintro before later rfl unbegun
    rw [called, after_cancelled unbegun]
    rfl
  · rintro before between within later rfl unperformed keptBefore unbegun keptBetween unfinished
    rw [called, after_completion unperformed keptBefore unbegun keptBetween unfinished]
    rfl
  · rw [pending, Bool.not_eq_true', ← Bool.not_eq_true, gone]
  · intro settled
    rw [gone.mpr settled] at pending
    have nothing := Jobs.cancel_of_not_isPending _ _ pending
    change ((), { runtime.run steps with
      jobs := (Jobs.cancel handle (runtime.run steps).jobs).2 }) = _
    rw [nothing]

/-- **A callback is called once at most**, and not at all after its job was cancelled before the
completion step began, whatever else the host does and did before. -/
theorem callback_is_called_once {ledger : Ledger} {earlier : List (Step ρ)}
    {started : Jobs (Act Ledger Lowering Output) ρ}
    (begun : Jobs.start channel work recipient ((idle ledger).run earlier).jobs =
      (.ok handle, started)) (steps : List (Step ρ)) :
    Settles handle channel recipient work { (idle ledger).run earlier with jobs := started }
      steps := by
  have orderly := (Orderly.idle ledger).run earlier
  obtain ⟨pending, found, issued⟩ := orderly.jobs.of_start begun
  have fresh := orderly.fresh begun
  refine run_settles ?_ issued steps
  change View.mk _ _ _ (((idle ledger).run earlier).completing.lookup handle)
    (((idle ledger).run earlier).called handle) = _
  rw [pending, found, fresh.1, fresh.2]

/-- The job before this one is just being completed when it is started, and it is cancelled while
its own completion step is not over. -/
theorem callback_is_called_once_overlapping :
    let earlier : List (Step Unit) :=
      [.start .void (return .void) (), .perform ⟨1⟩, .beginCompletion ⟨1⟩]
    let begun := Jobs.start .void (return .void) () ((idle Ledger.empty).run earlier).jobs
    begun.1.toOption = some ⟨2⟩ ∧
      Settles ⟨2⟩ .void () (return .void) { (idle Ledger.empty).run earlier with jobs := begun.2 }
        [.beginCompletion ⟨2⟩, .perform ⟨2⟩, .beginCompletion ⟨2⟩, .finishCompletion ⟨1⟩,
          .cancel ⟨2⟩, .finishCompletion ⟨2⟩, .cancel ⟨2⟩] :=
  ⟨rfl, callback_is_called_once rfl _⟩

/-- A host that started a single job, which comes to nothing. -/
def startedVoid : JobRuntime Unit :=
  { idle Ledger.empty with jobs := (Jobs.start .void (return .void) () .empty).2 }

/-- **The callback of a job may be called when the job was cancelled**, if it was cancelled after
its completion step had begun. -/
theorem callback_follows_late_cancel :
    let steps : List (Step Unit) := [.perform ⟨1⟩, .beginCompletion ⟨1⟩, .cancel ⟨1⟩]
    (startedVoid.run steps).called ⟨1⟩ = [] ∧
      (startedVoid.run (steps ++ [.finishCompletion ⟨1⟩])).called ⟨1⟩ =
        [⟨⟨1⟩, (), ⟨.void, Status.success⟩⟩] ∧
      ¬ ∀ steps more, .cancel ⟨1⟩ ∈ steps →
        (startedVoid.run (steps ++ more)).called ⟨1⟩ = (startedVoid.run steps).called ⟨1⟩ := by
  intro steps
  have silent : (startedVoid.run steps).called ⟨1⟩ = [] := rfl
  have called : (startedVoid.run (steps ++ [.finishCompletion ⟨1⟩])).called ⟨1⟩ =
      [⟨⟨1⟩, (), ⟨.void, Status.success⟩⟩] := rfl
  refine ⟨silent, called, fun never => ?_⟩
  have kept := never steps [.finishCompletion ⟨1⟩] (.tail _ (.tail _ (.head _)))
  rw [silent, called] at kept
  cases kept

end Boundary.JobRuntime
