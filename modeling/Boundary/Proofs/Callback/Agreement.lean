import Boundary.Proofs.Callback.Invocation

/-! # Both ways to call a method agree

A method is called and awaited. The work of its job is run, the completion step is taken, in the
course of whatever else happens, and the await is polled again. Then the core is told what it would
have been told by the function that runs the method at once: the same value, the same declared
error, the same panic, and also if there is no object under the handle
(`Boundary.Invocation.answered_as_invoked`).

An invocation goes through stages (`Boundary.Invocation.Stage`). What carries it from one to the
next is that the end of the work, and then the result that is made of it, are alike to what any
other run of the method that ends the same would leave.
-/

namespace Boundary.Invocation

open AsyncCalls

variable {α ε : Type}

/-! ## How far an invocation has come -/

/-- How far an invocation has come. -/
inductive Stage where
  | working
  | ended
  | delivered
  | answered
  deriving DecidableEq

/-- Each stage waits for one of the turns. -/
def Stage.next : Stage → Turn → Stage
  | .working, .perform => .ended
  | .ended, .settle => .delivered
  | .delivered, .poll => .answered
  | stage, _ => stage

/-- The turns that are still waited for. -/
def Stage.left : Stage → List Turn
  | .working => [.perform, .settle, .poll]
  | .ended => [.settle, .poll]
  | .delivered => [.poll]
  | .answered => []

/-- A turn that comes when it is waited for brings the stage on. -/
theorem Stage.left_next (stage : Stage) (turn : Turn) {rest : List Turn}
    (within : stage.left.Sublist (turn :: rest)) : (stage.next turn).left.Sublist rest := by
  cases stage with
  | working =>
      cases turn with
      | perform => exact List.cons_sublist_cons.mp within
      | _ => exact within.of_cons_of_ne (by decide)
  | ended =>
      cases turn with
      | settle => exact List.cons_sublist_cons.mp within
      | _ => exact within.of_cons_of_ne (by decide)
  | delivered =>
      cases turn with
      | poll => exact List.cons_sublist_cons.mp within
      | _ => exact within.of_cons_of_ne (by decide)
  | answered => exact List.nil_sublist rest

/-- Turns that come in their order bring an invocation to its end. -/
theorem Stage.foldl_next {stage : Stage} {turns : List Turn} (timely : stage.left.Sublist turns) :
    turns.foldl Stage.next stage = .answered := by
  induction turns generalizing stage with
  | nil =>
      cases stage with
      | answered => rfl
      | _ => cases timely
  | cons turn rest ih => exact ih (stage.left_next turn timely)

/-- The memory still has what the body that ended left there for its result. -/
def Retains (work : Outcome Lowering Output × Ledger) (ledger : Ledger) : Prop :=
  ∀ other, EndsAlike work other → EndsAlike (work.1, ledger) other

/-- A result is what would be passed of any body that ended as the work did. -/
def Conveys (channel : Channel) (work : Outcome Lowering Output × Ledger) (ledger : Ledger)
    (result : JobResult) : Prop :=
  ∀ other, EndsAlike work other →
    let answer := Envelope.outputOrError channel (Act.ofOutcome other.1) other.2
    result.Alike ledger answer.2 ⟨answer.1.1, answer.1.2⟩

variable (caller : Caller (AsyncCalls α)) (declared : Read ε) (channel : Channel)
  (method : α → Act Ledger Lowering Output) (handle : Handle) (base : AsyncCalls α)

/-- What the core is told agrees with what it would be told if the method were run at once. -/
structure Agreement (answer : Outcome (CallError ε) Passed × Ledger)
    (ended : Option (Outcome Lowering Output × Ledger)) : Prop where
  /-- It does so in every state where the same object is under the handle, or none, and where the
  method ends as the work did. -/
  invoked : ∀ other : AsyncCalls α,
    other.registry.get handle = base.registry.get handle →
    (∀ target, base.registry.get handle = .ok target → ∀ work ∈ ended,
      EndsAlike work ((method target).observe other.ledger)) →
    let called := ((hold channel method handle).invoke caller declared MethodTable.call).observe
      other
    ToldAlike answer (called.1, called.2.ledger)
  /-- The work was the method's. -/
  worked : ∀ target, base.registry.get handle = .ok target →
    ∃ ledger, ended = some ((method target).observe ledger)
  /-- If there is no object, the core is told why. -/
  refused : ∀ cause, base.registry.get handle = .error cause →
    answer.1 = .error (.error (.panic (reportable cause.message)))

/-- What there is at a stage of an invocation. -/
inductive Stands : Stage → Invocation α ε → Prop
  | working {asyncCalls : AsyncCalls α} {waiter job : Handle} {target : α} :
      base.registry.get handle = .ok target →
      asyncCalls.Awaits channel waiter job (.working (method target)) →
      Stands .working ⟨asyncCalls, .waiting waiter job, none, none⟩
  | ended {asyncCalls : AsyncCalls α} {waiter job : Handle} {target : α} {ledger : Ledger} :
      base.registry.get handle = .ok target →
      asyncCalls.Awaits channel waiter job (.ended ((method target).observe ledger).1) →
      Retains ((method target).observe ledger) asyncCalls.ledger →
      Stands .ended
        ⟨asyncCalls, .waiting waiter job, some ((method target).observe ledger), none⟩
  | delivered {asyncCalls : AsyncCalls α} {waiter job : Handle} {target : α} {ledger : Ledger}
      {result : JobResult} :
      base.registry.get handle = .ok target → asyncCalls.jobs.find? job = none →
      asyncCalls.waiters.value? waiter = some result →
      Conveys channel ((method target).observe ledger) asyncCalls.ledger result →
      Stands .delivered
        ⟨asyncCalls, .waiting waiter job, some ((method target).observe ledger), none⟩
  | answered {asyncCalls : AsyncCalls α} {answer : Outcome (CallError ε) Passed × Ledger}
      {ended : Option (Outcome Lowering Output × Ledger)} :
      Agreement caller declared channel method handle base answer ended →
      Stands .answered ⟨asyncCalls, .ended, ended, some answer⟩

section

variable {caller declared channel method handle base} {stage : Stage} {invocation : Invocation α ε}

/-! ### The turns of the host -/

/-- Work that has been run is not run again. -/
theorem perform_of_idle {asyncCalls : AsyncCalls α} {waiter job : Handle}
    {work : Outcome Lowering Output × Ledger} (idle : asyncCalls.jobs.isWorking job = false) :
    perform (⟨asyncCalls, .waiting waiter job, some work, none⟩ : Invocation α ε) =
      ⟨asyncCalls, .waiting waiter job, some work, none⟩ := by
  have kept : Jobs.perform host job asyncCalls = ((), asyncCalls) :=
    Jobs.perform_of_not_isWorking idle
  unfold perform
  simp only [kept]
  rfl

/-- The work of a job that has not begun is run on the memory. -/
theorem perform_of_awaits {asyncCalls : AsyncCalls α} {waiter job : Handle}
    {work : Act Ledger Lowering Output}
    (awaits : asyncCalls.Awaits channel waiter job (.working work)) :
    ∃ after : AsyncCalls α,
      after.Awaits channel waiter job (.ended (work.observe asyncCalls.ledger).1) ∧
      after.ledger = (work.observe asyncCalls.ledger).2 ∧
      perform (⟨asyncCalls, .waiting waiter job, none, none⟩ : Invocation α ε) =
        ⟨after, .waiting waiter job, some (work.observe asyncCalls.ledger), none⟩ := by
  let ran := work.observe asyncCalls.ledger
  let jobs := (Jobs.enter job (.ended ran.1) asyncCalls.jobs).2
  have performed : Jobs.perform host job asyncCalls =
      ((), { asyncCalls with jobs := jobs, ledger := ran.2 }) := by
    have observed : (host.work work).observe asyncCalls =
        (ran.1, { asyncCalls with ledger := ran.2 }) :=
      congrFun (Act.observe_onPart work) asyncCalls
    rw [Jobs.perform_of_working awaits.entry, observed]
    rfl
  have entered : jobs.find? job = some ⟨channel, ⟨channel, waiter.raw⟩, .ended ran.1, false⟩ := by
    have updated := asyncCalls.jobs.find?_update job job fun found =>
      { found with progress := .ended ran.1 }
    rw [if_pos rfl, awaits.entry] at updated
    exact updated
  have ended : jobs.outcome? job = some ran.1 := by
    unfold Jobs.outcome?
    rw [entered]
  refine ⟨{ asyncCalls with jobs := jobs, ledger := ran.2 },
    ⟨entered, awaits.pending, awaits.label, awaits.value⟩, rfl, ?_⟩
  unfold perform
  simp only [performed, ended]
  rfl

/-- Running the work of the job brings an invocation to its next stage. -/
theorem Stands.perform
    (stands : Stands caller declared channel method handle base stage invocation) :
    Stands caller declared channel method handle base (stage.next .perform) invocation.perform := by
  cases stands with
  | working found awaits =>
      obtain ⟨after, ended, ledger, performed⟩ := perform_of_awaits (ε := ε) awaits
      rw [performed]
      refine .ended found ended fun other ends => ?_
      rw [ledger]
      exact ends
  | ended found awaits retains =>
      rw [perform_of_idle (congrArg (Option.any Job.isWorking) awaits.entry)]
      exact .ended found awaits retains
  | delivered found gone kept conveys =>
      rw [perform_of_idle (congrArg (Option.any Job.isWorking) gone)]
      exact .delivered found gone kept conveys
  | answered agreement => exact .answered agreement

/-- Completing the job brings an invocation to its next stage. -/
theorem Stands.settle
    (stands : Stands caller declared channel method handle base stage invocation) :
    Stands caller declared channel method handle base (stage.next .settle) invocation.settle := by
  cases stands with
  | @working asyncCalls waiter job target found awaits =>
      have busy : asyncCalls.jobs.isWorking job = true :=
        congrArg (Option.any Job.isWorking) awaits.entry
      have kept : Jobs.settle host job asyncCalls = ((), asyncCalls) :=
        Jobs.settle_of_isWorking busy
      unfold Invocation.settle
      simp only [kept]
      exact .working found awaits
  | @ended asyncCalls waiter job target ledger found awaits retains =>
      have settled := settle_of_ended awaits.entry awaits.pending awaits.label
      have gone : (asyncCalls.jobs.without job).find? job = none :=
        (asyncCalls.jobs.find?_without job job).trans (if_pos rfl)
      have kept (result : JobResult) :
          (Promises.keep waiter result asyncCalls.waiters).2.value? waiter = some result := by
        rw [Promises.value?_keep, if_pos ⟨rfl, Promises.isOpen_of_label? awaits.label⟩,
          awaits.value]
        rfl
      unfold Invocation.settle
      simp only [settled]
      exact .delivered found gone (kept _) fun other ends =>
        Envelope.alike_outputOrError channel (retains other ends)
  | @delivered asyncCalls waiter job target ledger result found gone kept conveys =>
      have done : Jobs.settle host job asyncCalls = ((), asyncCalls) := Jobs.settle_of_none gone
      unfold Invocation.settle
      simp only [done]
      exact .delivered found gone kept conveys
  | answered agreement => exact .answered agreement

/-! ### The turns of others -/

theorem Retains.congr {work : Outcome Lowering Output × Ledger} {ledger later : Ledger}
    (retains : Retains work ledger)
    (same : ∀ address ∈ Outcome.allocations work.1,
      later.find? address = ledger.find? address) : Retains work later :=
  fun other ends => (retains other ends).congr same

theorem Conveys.congr {work : Outcome Lowering Output × Ledger} {ledger later : Ledger}
    {result : JobResult} (conveys : Conveys channel work ledger result)
    (same : ∀ address ∈ result.allocations, later.find? address = ledger.find? address) :
    Conveys channel work later result :=
  fun other ends => (conveys other ends).congr same

/-- What others do while an invocation waits leaves it at its stage. -/
theorem Stands.meanwhile
    (stands : Stands caller declared channel method handle base stage invocation)
    {asyncCalls : AsyncCalls α}
    (spared : ∀ waiter job, invocation.await = .waiting waiter job →
      Spares waiter job invocation.asyncCalls asyncCalls) :
    Stands caller declared channel method handle base stage
      { invocation with asyncCalls := asyncCalls } := by
  cases stands with
  | working found awaits => exact .working found (awaits.spares (spared _ _ rfl))
  | @ended before waiter job target ledger found awaits retains =>
      have spares := spared waiter job rfl
      refine .ended found (awaits.spares spares) (retains.congr fun address own => ?_)
      have listed : before.jobs.outcome? job = some ((method target).observe ledger).1 := by
        unfold Jobs.outcome?
        rw [awaits.entry]
      refine spares.memory address (List.mem_append_left _ ?_)
      rw [listed]
      exact own
  | @delivered before waiter job target ledger result found gone kept conveys =>
      have spares := spared waiter job rfl
      refine .delivered found (spares.entry.trans gone) (spares.value.trans kept)
        (conveys.congr fun address own => ?_)
      refine spares.memory address (List.mem_append_right _ ?_)
      rw [kept]
      exact own
  | answered agreement => exact .answered agreement

/-! ### The turns of the core -/

/-- What a caller is told if the method is run at once on the object under the handle. -/
theorem call_conveyed (takesBack : caller.TakesBack) {target : α}
    {work : Outcome Lowering Output × Ledger} {result : JobResult} {left other : AsyncCalls α}
    (conveys : Conveys channel work left.ledger result)
    (found : other.registry.get handle = .ok target)
    (ends : EndsAlike work ((method target).observe other.ledger)) :
    let told := (JobAwait.resolve caller declared result).observe left
    let called := ((hold channel method handle).invoke caller declared MethodTable.call).observe
      other
    ToldAlike (told.1, told.2.ledger) (called.1, called.2.ledger) := by
  have alike := conveys _ ends
  rw [Envelope.outputOrError_ended] at alike
  exact JobAwait.resolve_alike_call takesBack declared (call_of_ok found) alike

/-- Polling the await brings an invocation to its next stage. -/
theorem Stands.poll (takesBack : caller.TakesBack)
    (stands : Stands caller declared channel method handle base stage invocation) :
    Stands caller declared channel method handle base (stage.next .poll)
      (invocation.poll caller declared (hold channel method handle)) := by
  cases stands with
  | working found awaits =>
      rw [poll_of_waiting awaits.status]
      exact .working found awaits
  | ended found awaits retains =>
      rw [poll_of_waiting awaits.status]
      exact .ended found awaits retains
  | @delivered asyncCalls waiter job target ledger result found gone kept conveys =>
      have status : asyncCalls.waiters.status waiter = .kept result := by
        rw [Promises.status_eq, kept]
      rw [poll_of_eq (poll_waiting.trans (look_of_kept status))]
      refine .answered ⟨?_, ?_, ?_⟩
      · intro other same comparable
        exact call_conveyed takesBack conveys (same.trans found) (comparable target found _ rfl)
      · intro again known
        cases found.symm.trans known
        exact ⟨ledger, rfl⟩
      · intro cause unknown
        cases found.symm.trans unknown
  | answered agreement =>
      rw [poll_of_eq rfl]
      exact .answered agreement

/-! ### The first poll -/

/-- If there is an object, a job is started for it. -/
theorem begin_of_ok (prepared : base.Prepared) {target : α}
    (found : base.registry.get handle = .ok target) :
    Stands caller declared channel method handle base .working
      (begin caller declared (hold channel method handle) channel base) := by
  let waiter := base.waiters.table.upcoming
  obtain ⟨job, jobs, begun⟩ := Jobs.start_of_room prepared.jobRoom channel (method target)
    (⟨channel, waiter.raw⟩ : Addressee)
  obtain ⟨pending, entry, _⟩ := prepared.jobs.of_start begun
  let started : AsyncCalls α := { base.promising channel with
    registry := (CallbackRegistry.note handle job jobs.isPending base.registry).2
    jobs := jobs }
  have launched : (table channel method).start handle waiter.raw (base.promising channel) =
    (job, started) := start_of_ok found begun
  have fresh := prepared.waiters.table.find?_upcoming prepared.waiterRoom
  have awaits : started.Awaits channel waiter job (.working (method target)) :=
    ⟨entry, pending, Table.find?_holding fresh channel,
      Promises.lookup_kept_upcoming prepared.waiters prepared.waiterRoom⟩
  have polled : (JobAwait.unstarted channel).poll caller (link (hold channel method handle))
      declared base = ((.waiting waiter job, none), started) :=
    (poll_unstarted prepared launched).trans (look_of_waiting awaits.status)
  unfold begin
  rw [poll_of_eq polled]
  exact .working found awaits

/-- What is told when no job could start agrees with a call, if a panic is reported to both in the
same way. -/
theorem agreement_of_refused (takesBack : caller.TakesBack) {cause : HandleError}
    (unknown : base.registry.get handle = .error cause) {report : StateM Ledger Status}
    (alike : ∀ here there, JobResult.Alike (report here).2 (report there).2
      ⟨channel.placeholder, (report here).1⟩ ⟨channel.placeholder, (report there).1⟩)
    (entered : ∀ other : AsyncCalls α, other.registry.get handle = .error cause →
      (table channel method).call handle other =
        ((channel.placeholder, (report other.ledger).1),
          { other with ledger := (report other.ledger).2 }))
    (refused : ((caller.call declared ((table channel method).call handle)).observe base).1 =
      .error (.error (.panic (reportable cause.message)))) {left : AsyncCalls α}
    (memory : left.ledger = (report base.ledger).2) :
    let told := (JobAwait.resolve caller declared
      ⟨channel.placeholder, (report base.ledger).1⟩).observe left
    Agreement caller declared channel method handle base (told.1, told.2.ledger) none := by
  intro told
  have agrees (other : AsyncCalls α) (same : other.registry.get handle = .error cause) :
      let called := (caller.call declared ((table channel method).call handle)).observe other
      ToldAlike (told.1, told.2.ledger) (called.1, called.2.ledger) := by
    have alikeThere := alike base.ledger other.ledger
    rw [← memory] at alikeThere
    exact JobAwait.resolve_alike_call takesBack declared (entered other same) alikeThere
  refine ⟨?_, ?_, ?_⟩
  · intro other same _
    exact agrees other (same.trans unknown)
  · intro target found
    cases unknown.symm.trans found
  · intro again known
    cases unknown.symm.trans known
    have told : Outcome.Alike _ told.1 _ := agrees base unknown
    rw [refused] at told
    exact told.eq_error

/-- A job that cannot be started answers the await at once. -/
theorem begin_of_refusing (prepared : base.Prepared) {reported : Status × Ledger}
    (launched : (table channel method).start handle base.waiters.table.upcoming.raw
      (base.promising channel) = (.null, base.refusing channel reported)) :
    let left := (base.refusing channel reported).leaving base.waiters.table.upcoming .null
    let told := (JobAwait.resolve caller declared ⟨channel.placeholder, reported.1⟩).observe left
    begin caller declared (hold channel method handle) channel base =
      ⟨told.2, .ended, none, some (told.1, told.2.ledger)⟩ := by
  intro left told
  have status := Promises.status_fulfilled prepared.waiters prepared.waiterRoom
    (⟨channel.placeholder, reported.1⟩ : JobResult)
  have polled : (JobAwait.unstarted channel).poll caller (link (hold channel method handle))
      declared base = ((.ended, some told.1), told.2) :=
    (poll_unstarted prepared launched).trans (look_of_kept status)
  exact poll_of_eq polled

theorem ledger_leaving_refusing (reported : Status × Ledger) (waiter job : Handle) :
    ((base.refusing channel reported).leaving waiter job).ledger = reported.2 := rfl

/-- If there is none, the core is told so at once. -/
theorem begin_of_error (takesBack : caller.TakesBack) (prepared : base.Prepared)
    {cause : HandleError} (unknown : base.registry.get handle = .error cause) :
    Stands caller declared channel method handle base .answered
      (begin caller declared (hold channel method handle) channel base) := by
  have refused : ((caller.call declared ((table channel method).call handle)).observe base).1 =
      .error (.error (.panic (reportable cause.message))) :=
    Caller.call_of_panic takesBack declared (call_of_error unknown)
  rw [begin_of_refusing prepared (start_promising_of_error prepared unknown)]
  exact .answered (agreement_of_refused takesBack unknown
    (Status.alike_panic channel cause.message) (fun _ => call_of_error) refused
    (ledger_leaving_refusing _ _ _))

/-! ### From turn to turn -/

/-- **A step brings an invocation to its next stage.** -/
theorem Stands.step (takesBack : caller.TakesBack)
    (stands : Stands caller declared channel method handle base stage invocation)
    {turn : Turn} {later : Invocation α ε}
    (step : Step caller declared (hold channel method handle) invocation turn later) :
    Stands caller declared channel method handle base (stage.next turn) later := by
  cases step with
  | poll => exact stands.poll takesBack
  | perform => exact stands.perform
  | settle => exact stands.settle
  | meanwhile spared =>
      have stays : stage.next .meanwhile = stage := by cases stage <;> rfl
      rw [stays]
      exact stands.meanwhile spared

/-- So does a run, to the stage that its turns lead to. -/
theorem Stands.run (takesBack : caller.TakesBack) {turns : List Turn}
    {first last : Invocation α ε}
    (run : Run caller declared (hold channel method handle) first turns last)
    (stands : Stands caller declared channel method handle base stage first) :
    Stands caller declared channel method handle base (turns.foldl Stage.next stage) last := by
  induction run generalizing stage with
  | done => exact stands
  | next step _ ih => exact ih (stands.step takesBack step)

/-- An invocation that was answered agrees with the call. -/
theorem Stands.agreement
    (stands : Stands caller declared channel method handle base .answered invocation) :
    ∃ answer, invocation.answer = some answer ∧
      Agreement caller declared channel method handle base answer invocation.ended := by
  cases stands with
  | answered agreement => exact ⟨_, rfl, agreement⟩

end

variable {caller declared channel method handle base}

/-- In particular, the core is told what it would be told by a call that was made when the work was
run, instead of running it. -/
theorem Agreement.instead {answer : Outcome (CallError ε) Passed × Ledger}
    {ended : Option (Outcome Lowering Output × Ledger)}
    (agreement : Agreement caller declared channel method handle base answer ended) {target : α}
    (found : base.registry.get handle = .ok target) {asked : AsyncCalls α}
    (same : asked.registry.get handle = base.registry.get handle)
    (ran : ended = some ((method target).observe asked.ledger)) :
    let called := ((hold channel method handle).invoke caller declared MethodTable.call).observe
      asked
    ToldAlike answer (called.1, called.2.ledger) := by
  apply agreement.invoked asked same
  intro again known work worked
  cases found.symm.trans known
  cases ran.symm.trans worked
  exact .refl _

/-- **A method that is awaited answers as one that is run at once.** A core calls a method through
any handle, whether there is an object under it or not. If there is one, the work of the job that
is started is run, its completion step is taken and the await is polled, in this order and among
other things that leave the job alone. Then the core has been told what it would have been told by
a call of the method. -/
theorem answered_as_invoked (takesBack : caller.TakesBack) (prepared : base.Prepared)
    {turns : List Turn} {last : Invocation α ε}
    (run : Run caller declared (hold channel method handle)
      (begin caller declared (hold channel method handle) channel base) turns last)
    (timely : ∀ target, base.registry.get handle = .ok target →
      [.perform, .settle, .poll].Sublist turns) :
    ∃ answer, last.answer = some answer ∧
      Agreement caller declared channel method handle base answer last.ended := by
  match known : base.registry.get handle with
  | .ok target =>
      have stands := (begin_of_ok prepared known).run takesBack run
      have within : Stage.working.left.Sublist turns := timely target known
      rw [Stage.foldl_next within] at stands
      exact stands.agreement
  | .error cause =>
      have stands := (begin_of_error takesBack prepared known).run takesBack run
      have within : Stage.answered.left.Sublist turns := List.nil_sublist turns
      rw [Stage.foldl_next within] at stands
      exact stands.agreement

/-- A store that refuses an operation is heard to refuse it later as well. -/
theorem refusal_is_answered_as_invoked :
    let store : CallbackRegistry Unit := (CallbackRegistry.register () (.named "Store")).2
    let base : AsyncCalls Unit := ⟨store, .empty, .empty, .empty⟩
    let refuse : Unit → Act Ledger Lowering Output := fun _ =>
      Act.fail StoreError.readOnly.lowering
    let object : CallbackObject (MethodTable (AsyncCalls Unit)) := hold .buffer refuse ⟨1⟩
    let first := begin Caller.inProcess StoreError.read object .buffer base
    let last := poll Caller.inProcess StoreError.read object first.perform.settle
    (Caller.inProcess : Caller (AsyncCalls Unit)).TakesBack ∧ base.Prepared ∧
      Run Caller.inProcess StoreError.read object first [.perform, .settle, .poll] last ∧
      ∃ answer, last.answer = some answer ∧
        Agreement Caller.inProcess StoreError.read .buffer refuse ⟨1⟩ base answer last.ended ∧
        (let called :=
          (object.invoke Caller.inProcess StoreError.read MethodTable.call).observe base
         ToldAlike answer (called.1, called.2.ledger)) ∧
        answer.1 = .error (.error (.declared .readOnly)) := by
  intro store base refuse object first last
  have prepared : base.Prepared :=
    ⟨.empty, by decide, .named _, by decide⟩
  have run : Run Caller.inProcess StoreError.read object first
      [.perform, .settle, .poll] last :=
    .next (.perform first) (.next (.settle _) (.next (.poll _) (.done _)))
  obtain ⟨answer, told, agreement⟩ :=
    answered_as_invoked Caller.takesBack_inProcess prepared run fun _ _ => List.Sublist.refl _
  have called := agreement.invoked base rfl fun target found work worked => by
    obtain ⟨ledger, ended⟩ := agreement.worked target found
    cases ended.symm.trans worked
    exact .failed (.error StoreError.readOnly.lowering)
  refine ⟨Caller.takesBack_inProcess, prepared, run, answer, told, agreement, called, ?_⟩
  have heard : last.answer.map Prod.fst = some (.error (.error (.declared .readOnly))) := by
    decide +kernel
  rw [told] at heard
  exact Option.some.inj heard

end Boundary.Invocation
