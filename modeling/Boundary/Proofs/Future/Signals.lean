import Boundary.Proofs.Future.Driver
import Mathlib.Data.List.TakeWhile

/-! # Every poll is answered once

However a host drives a future, the polls that find it finished are told so, each once, and those
that find it pending are resumed in the order in which they were made, except for the latest, whose
continuation may still be stored (`Boundary.FutureDriver.every_poll_is_answered_once`). When the
future is cancelled or freed, that one is dropped and nothing is heard of the future any more
(`Boundary.FutureDriver.run_silent`). The argument composes what one step does to the slot
(`Boundary.Slot.Passes`) with the number of pauses that the work has left
(`Boundary.CoreFuture.Serves`).
-/

namespace Boundary

/-- Whether the work is still to go on. -/
def Progress.isRunning : Progress → Bool
  | .running _ => true
  | _ => false

/-- The number of polls that are still to find the work unfinished. -/
def Progress.pausesLeft : Progress → Nat
  | .running work => work.pauses.length
  | _ => 0

theorem Progress.isRunning_ofOutcome (outcome : Outcome Lowering Output) :
    (ofOutcome outcome).isRunning = false := by
  rcases outcome with (declared | payload) | output <;> rfl

theorem Progress.pausesLeft_ofOutcome (outcome : Outcome Lowering Output) :
    (ofOutcome outcome).pausesLeft = 0 := by
  rcases outcome with (declared | payload) | output <;> rfl

theorem Progress.isRunning_taken (progress : Progress) :
    progress.taken.isRunning = progress.isRunning := by
  cases progress <;> rfl

theorem Progress.pausesLeft_taken (progress : Progress) :
    progress.taken.pausesLeft = progress.pausesLeft := by
  cases progress <;> rfl

namespace CoreFuture

/-- From one state of a future to another it was polled, and signals were sent. The polls that it
had pauses left for found it unfinished and the rest found it finished. -/
structure Serves (future : CoreFuture) (polls : List UInt64) (signals : List Signal)
    (after : CoreFuture) : Prop where
  passes : future.slot.Passes (polls.take future.progress.pausesLeft)
    (polls.drop future.progress.pausesLeft) signals after.slot
  pausesLeft : after.progress.pausesLeft = future.progress.pausesLeft - polls.length
  isRunning : after.progress.isRunning ↔
    future.progress.isRunning ∧ polls.length ≤ future.progress.pausesLeft

variable {future between after : CoreFuture} {polls polls' : List UInt64}
  {signals signals' : List Signal}

/-- Polls that are served one after the other are served together. -/
theorem Serves.trans (first : future.Serves polls signals between)
    (second : between.Serves polls' signals' after) :
    future.Serves (polls ++ polls') (signals ++ signals') after where
  passes := by
    have passed := first.passes.trans second.passes
    rw [first.pausesLeft] at passed
    rw [List.take_append, List.drop_append]
    exact passed
  pausesLeft := by
    rw [second.pausesLeft, first.pausesLeft, List.length_append, Nat.sub_sub]
  isRunning := by
    rw [second.isRunning, first.isRunning, first.pausesLeft, List.length_append]
    constructor
    · rintro ⟨⟨running, enough⟩, rest⟩
      exact ⟨running, by omega⟩
    · rintro ⟨running, enough⟩
      exact ⟨⟨running, by omega⟩, by omega⟩

/-- Without a poll, signals only go to continuations that were stored. -/
theorem Serves.unpolled (passes : future.slot.Passes [] [] signals after.slot)
    (left : after.progress.pausesLeft = future.progress.pausesLeft)
    (running : after.progress.isRunning = future.progress.isRunning) :
    future.Serves [] signals after where
  passes := by
    rw [List.take_nil, List.drop_nil]
    exact passes
  pausesLeft := left
  isRunning := by
    rw [running]
    exact (and_iff_left (Nat.zero_le _)).symm

end CoreFuture

namespace FutureDriver

/-- Whether the step ends the interest in the future. -/
def Step.ends : Step → Bool
  | cancel | free => true
  | _ => false

/-- The data of a poll. -/
def Step.data? : Step → Option UInt64
  | poll data => some data
  | _ => none

variable {handle : Handle} {driver : FutureDriver} {future : CoreFuture} {step : Step}
  {steps : List Step}

/-- A step that is no end of a future serves its poll, if it is one. -/
theorem Step.effect_serves (active : future.slot.isCancelled = false) (stays : step.ends = false)
    (ledger : Ledger) (kept : Bool) :
    ∃ after, (step.effect ledger kept future).1 = some after ∧
      future.Serves step.data?.toList (step.effect ledger kept future).2 after := by
  obtain ⟨progress, slot⟩ := future
  change slot.isCancelled = false at active
  cases step with
  | poll data =>
      simp only [Step.effect, active, Bool.false_eq_true, ↓reduceIte]
      rcases progress with ⟨label, _ | ⟨pause, rest⟩, ending, wakesOnDrop⟩ | result | message | _
      · have woken := Slot.passes_wakeTimes active (wakesOnDrop && kept).toNat
        refine ⟨_, rfl, woken.trans (Slot.passes_ready woken.active data), ?_, ?_⟩
        · exact Progress.pausesLeft_ofOutcome _
        · simp [Progress.isRunning_ofOutcome, Progress.pausesLeft, Step.data?]
      · have woken := Slot.passes_wakeTimes active pause.wakes
        have stored := woken.trans (Slot.passes_store woken.active data)
        refine ⟨_, rfl, ?_, rfl, ?_⟩
        · change slot.Passes (data :: [].take rest.length) ([].drop rest.length) _ _
          rw [List.take_nil, List.drop_nil]
          exact stored
        · simp [Progress.isRunning, Progress.pausesLeft, Step.data?]
      all_goals exact ⟨_, rfl, Slot.passes_ready active data, rfl, by simp [Progress.isRunning]⟩
  | wake keeps => exact ⟨_, rfl, .unpolled (Slot.passes_wake active) rfl rfl⟩
  | complete =>
      simp only [Step.effect, active, Bool.false_eq_true, ↓reduceIte]
      exact ⟨_, rfl, .unpolled (.refl active) progress.pausesLeft_taken progress.isRunning_taken⟩
  | cancel => cases stays
  | free => cases stays
  | spawn work => exact ⟨_, rfl, .unpolled (.refl active) rfl rfl⟩
  | elsewhere use => exact ⟨_, rfl, .unpolled (.refl active) rfl rfl⟩

/-- **A future that nobody cancels or frees answers its polls in order.** -/
theorem run_serves (found : driver.find? handle = some future)
    (issued : handle.raw.toNat < driver.futures.table.next)
    (active : future.slot.isCancelled = false) (stays : ∀ step ∈ steps, step.ends = false) :
    ∃ after signals, Leaves handle driver (some after) signals (run handle driver steps) ∧
      future.Serves (steps.filterMap Step.data?) signals after := by
  induction steps generalizing driver future with
  | nil => exact ⟨future, [], .still found, .unpolled (.refl active) rfl rfl⟩
  | cons step rest ih =>
      obtain ⟨first, others⟩ := List.forall_mem_cons.mp stays
      obtain ⟨between, left, served⟩ := Step.effect_serves active first driver.futures.ledger
        (driver.futures.wakers.contains handle)
      have performed := perform_leaves found issued step
      rw [left] at performed
      obtain ⟨after, signals, ran, later⟩ := ih performed.find?
        (Nat.lt_of_lt_of_le issued performed.next) served.passes.active others
      refine ⟨after, _, performed.trans ran, ?_⟩
      rw [List.filterMap_eq_flatMap_toList, List.flatMap_cons, ← List.filterMap_eq_flatMap_toList]
      exact served.trans later

/-! ### Once nobody is interested -/

/-- Nothing is under the handle, or a future that was cancelled. -/
def Silent (left : Option CoreFuture) : Prop := left.all fun future => future.slot.isCancelled

/-- Cancelling and freeing signal nobody, and leave a future silent. -/
theorem Step.effect_of_ends (step : Step) (ends : step.ends = true) (ledger : Ledger) (kept : Bool)
    (future : CoreFuture) :
    (step.effect ledger kept future).2 = [] ∧ Silent (step.effect ledger kept future).1 := by
  cases step with
  | cancel =>
      obtain ⟨progress, left⟩ := effect_cancel ledger kept future
      rw [left]
      exact ⟨rfl, rfl⟩
  | free => exact ⟨rfl, rfl⟩
  | _ => cases ends

/-- A cancelled future stays silent, whatever is done to it. -/
theorem Step.effect_of_cancelled (cancelled : future.slot.isCancelled = true) (step : Step)
    (ledger : Ledger) (kept : Bool) :
    (step.effect ledger kept future).2 = [] ∧ Silent (step.effect ledger kept future).1 := by
  obtain ⟨progress, slot⟩ := future
  obtain rfl := Slot.isCancelled_iff.mp cancelled
  cases step <;> exact ⟨rfl, rfl⟩

/-- Cancelling and freeing silence a future. -/
theorem perform_ends (found : driver.find? handle = some future)
    (issued : handle.raw.toNat < driver.futures.table.next) (ends : step.ends = true) :
    ∃ left, Silent left ∧ Leaves handle driver left [] (perform handle step driver).2 := by
  have performed := perform_leaves found issued step
  obtain ⟨quiet, left⟩ := step.effect_of_ends ends driver.futures.ledger
    (driver.futures.wakers.contains handle) future
  rw [quiet] at performed
  exact ⟨_, left, performed⟩

/-- A silent future stays silent. -/
theorem perform_silent (silent : Silent (driver.find? handle))
    (issued : handle.raw.toNat < driver.futures.table.next) (step : Step) :
    ∃ left, Silent left ∧ Leaves handle driver left [] (perform handle step driver).2 := by
  cases found : driver.find? handle with
  | none => exact ⟨none, rfl, perform_gone found issued step⟩
  | some future =>
      rw [found] at silent
      have performed := perform_leaves found issued step
      obtain ⟨quiet, left⟩ := step.effect_of_cancelled silent driver.futures.ledger
        (driver.futures.wakers.contains handle)
      rw [quiet] at performed
      exact ⟨_, left, performed⟩

/-- **Nothing is heard of a future that was cancelled or freed.** -/
theorem run_silent (silent : Silent (driver.find? handle))
    (issued : handle.raw.toNat < driver.futures.table.next) (steps : List Step) :
    ∃ left, Silent left ∧ Leaves handle driver left [] (run handle driver steps) := by
  induction steps generalizing driver with
  | nil => exact ⟨_, silent, .still rfl⟩
  | cons step rest ih =>
      obtain ⟨left, quiet, performed⟩ := perform_silent silent issued step
      obtain ⟨last, quieter, ran⟩ := ih (performed.find?.symm ▸ quiet)
        (Nat.lt_of_lt_of_le issued performed.next)
      exact ⟨last, quieter, performed.trans ran⟩

/-- Cancelling a silent future changes nothing. -/
theorem cancel_silent (silent : Silent (driver.find? handle)) :
    perform handle .cancel driver = ((), driver) := by
  cases found : driver.find? handle with
  | none => exact cancel_of_none found
  | some future =>
      rw [found] at silent
      exact cancel_of_cancelled found silent

/-! ### The whole run -/

/-- The polls that are made before the future is cancelled or freed. -/
def polls (steps : List Step) : List UInt64 :=
  (steps.takeWhile fun step => !step.ends).filterMap Step.data?

/-- The continuation that is stored, if one is. -/
def stored (handle : Handle) (driver : FutureDriver) : List UInt64 :=
  match driver.find? handle with
  | some future => future.slot.stored
  | none => []

/-- The continuation that was stored when the future was cancelled or freed, if it was. -/
def dropped (handle : Handle) (driver : FutureDriver) (steps : List Step) : List UInt64 :=
  if steps.any Step.ends then
    stored handle (run handle driver (steps.takeWhile fun step => !step.ends))
  else []

/-- A list of steps has no end of the future in it, or a first one. -/
theorem stays_or_ends (steps : List Step) : (∀ step ∈ steps, step.ends = false) ∨
    ∃ before last later, steps = before ++ last :: later ∧
      (∀ step ∈ before, step.ends = false) ∧ last.ends = true := by
  cases first : steps.find? Step.ends with
  | none =>
      refine .inl fun step member => ?_
      exact Bool.eq_false_iff.mpr (List.find?_eq_none.mp first step member)
  | some last =>
      obtain ⟨ends, before, later, split, stays⟩ := List.find?_eq_some_iff_append.mp first
      refine .inr ⟨before, last, later, split, fun step member => ?_, ends⟩
      exact eq_false_of_ne_true fun ends => absurd (stays step member) (by rw [ends]; exact nofun)

theorem takeWhile_of_stays (stays : ∀ step ∈ steps, step.ends = false) :
    (steps.takeWhile fun step => !step.ends) = steps :=
  List.takeWhile_eq_self_iff.mpr fun step member => by rw [stays step member]; rfl

theorem takeWhile_of_ends {before later : List Step} {last : Step}
    (stays : ∀ step ∈ before, step.ends = false) (ends : last.ends = true) :
    ((before ++ last :: later).takeWhile fun step => !step.ends) = before := by
  rw [List.takeWhile_append_of_pos fun step member => by rw [stays step member]; rfl,
    List.takeWhile_cons_of_neg (by rw [ends]; exact Bool.false_ne_true), List.append_nil]

/-- What a host can rely on when it drives a future with some work. -/
structure Answered (handle : Handle) (work : Work) (start : FutureDriver) (steps : List Step) :
    Prop where
  /-- No poll is answered twice. -/
  once : ((run handle start steps).signals.map Signal.data).Nodup
  /-- The polls that find the work finished are told that the result is ready, and no others. -/
  readied : readied (run handle start steps).signals = (polls steps).drop work.pauses.length
  /-- Those that find it pending are resumed, except for the one whose continuation is still stored
  or was dropped. -/
  woken : woken (run handle start steps).signals ++ stored handle (run handle start steps) ++
    dropped handle start steps = (polls steps).take work.pauses.length
  stored : (stored handle (run handle start steps)).length ≤ 1
  /-- Until then the work is finished by the first poll after its last pause. -/
  running : steps.any Step.ends = false → ∃ future,
    (run handle start steps).find? handle = some future ∧
      (future.progress.isRunning ↔ (polls steps).length ≤ work.pauses.length)
  silent : steps.any Step.ends = true → ∀ more,
    (run handle start (steps ++ more)).signals = (run handle start steps).signals
  cancelled : steps.any Step.ends = true →
    perform handle .cancel (run handle start steps) = ((), run handle start steps)

theorem stored_of_find? (found : driver.find? handle = some future) :
    stored handle driver = future.slot.stored := by
  unfold stored
  rw [found]

/-- Nothing is stored for a silent future. -/
theorem stored_of_silent (silent : Silent (driver.find? handle)) : stored handle driver = [] := by
  unfold stored
  cases found : driver.find? handle with
  | none => rfl
  | some future =>
      rw [found] at silent
      obtain ⟨progress, slot⟩ := future
      obtain rfl := Slot.isCancelled_iff.mp silent
      rfl

/-- Data that are distinct are signalled at most once, with one code or the other. -/
theorem nodup_data {signals : List Signal} {data remaining : List UInt64} {count : Nat}
    (distinct : data.Nodup) (ready : readied signals = data.drop count)
    (wake : woken signals ++ remaining = data.take count) : (signals.map Signal.data).Nodup := by
  have resumed : (woken signals).Sublist (data.take count) :=
    wake ▸ List.sublist_append_left _ remaining
  have all : (woken signals ++ readied signals).Sublist (data.take count ++ data.drop count) :=
    resumed.append (ready ▸ List.Sublist.refl _)
  rw [List.take_append_drop] at all
  exact (woken_append_readied_perm signals).nodup_iff.mp (distinct.sublist all)

variable {work : Work}

/-- Whether or not the future is cancelled or freed on the way, the polls before that are served.
What is stored after them either still is, or was dropped. -/
theorem run_served (found : driver.find? handle = some future)
    (issued : handle.raw.toNat < driver.futures.table.next)
    (active : future.slot.isCancelled = false) (steps : List Step) :
    ∃ between left signals, Leaves handle driver left signals (run handle driver steps) ∧
      future.Serves (polls steps) signals between ∧
      stored handle (run handle driver steps) ++ dropped handle driver steps = between.slot.stored ∧
      if steps.any Step.ends then Silent left else left = some between := by
  rcases stays_or_ends steps with stays | ⟨before, last, later, rfl, stays, ends⟩
  · obtain ⟨after, signals, ran, served⟩ := run_serves found issued active stays
    have goesOn : steps.any Step.ends = false := List.any_eq_false.mpr fun step member =>
      ne_true_of_eq_false (stays step member)
    refine ⟨after, some after, signals, ran, ?_, ?_, ?_⟩
    · rw [polls, takeWhile_of_stays stays]
      exact served
    · rw [dropped, goesOn, stored_of_find? ran.find?]
      exact List.append_nil _
    · rw [goesOn]
      rfl
  · obtain ⟨between, signals, ran, served⟩ := run_serves found issued active stays
    have known := Nat.lt_of_lt_of_le issued ran.next
    -- Nobody is interested after the last step, so that the later ones send nothing.
    obtain ⟨left, silent, performed⟩ := perform_ends ran.find? known ends
    have ended := ran.trans performed
    obtain ⟨final, quiet, heard⟩ := run_silent (ended.find?.symm ▸ silent)
      (Nat.lt_of_lt_of_le issued ended.next) later
    have whole := ended.trans heard
    rw [List.append_nil, List.append_nil, ← run_cons, ← run_append] at whole
    have stops : (before ++ last :: later).any Step.ends = true :=
      List.any_eq_true.mpr ⟨last, List.mem_append_right _ List.mem_cons_self, ends⟩
    refine ⟨between, final, signals, whole, ?_, ?_, ?_⟩
    · rw [polls, takeWhile_of_ends stays ends]
      exact served
    · rw [stored_of_silent (whole.find?.symm ▸ quiet), dropped, stops, takeWhile_of_ends stays ends,
        ← stored_of_find? ran.find?]
      rfl
    · rw [stops]
      exact quiet

/-- **Every poll is answered once**, from any host in which the future was just spawned. -/
theorem run_answered (found : driver.find? handle = some ⟨.running work, .empty⟩)
    (issued : handle.raw.toNat < driver.futures.table.next) (fresh : driver.signals = [])
    (distinct : (polls steps).Nodup) : Answered handle work driver steps := by
  obtain ⟨between, left, signals, ran, served, remains, ended⟩ := run_served found issued rfl steps
  have sent : (run handle driver steps).signals = signals := by
    rw [ran.signals, fresh]
    rfl
  have ready : readied signals = (polls steps).drop work.pauses.length := served.passes.readied
  have wake : woken signals ++ between.slot.stored = (polls steps).take work.pauses.length :=
    served.passes.woken
  have hushed (stops : steps.any Step.ends = true) :
      Silent ((run handle driver steps).find? handle) := by
    rw [stops] at ended
    exact ran.find?.symm ▸ ended
  constructor
  · rw [sent]
    exact nodup_data distinct ready wake
  · rw [sent]
    exact ready
  · rw [sent, List.append_assoc, remains]
    exact wake
  · exact Nat.le_trans (List.length_append ▸ Nat.le_add_right _ _)
      (remains ▸ between.slot.length_stored_le)
  · intro goesOn
    rw [goesOn] at ended
    exact ⟨between, ran.find?.trans ended, served.isRunning.trans (and_iff_right rfl)⟩
  · intro stops more
    obtain ⟨_, _, continued⟩ := run_silent (hushed stops) (Nat.lt_of_lt_of_le issued ran.next) more
    rw [run_append, continued.signals, List.append_nil]
  · exact fun stops => cancel_silent (hushed stops)

/-- **Every poll of a future is answered once**, however the host drives it. -/
theorem every_poll_is_answered_once {futures started : Futures} (orderly : futures.table.Orderly)
    (spawned : Futures.spawn work futures = (.ok handle, started)) (steps : List Step)
    (distinct : (polls steps).Nodup) : Answered handle work ⟨started, []⟩ steps := by
  obtain ⟨found, issued⟩ := find?_of_spawn orderly spawned []
  exact run_answered found issued rfl distinct

/-- Two polls of work that pauses once, with a wake between them, and a poll that comes after a
cancel. -/
theorem idle_polls_are_answered_once :
    Answered ⟨1⟩ (idle [⟨true, 0⟩]) ⟨idling [⟨true, 0⟩], []⟩
      [.poll 1, .wake true, .poll 2, .cancel, .poll 3] :=
  every_poll_is_answered_once (.named _) (spawn_idle _) _ (by decide)

end FutureDriver

end Boundary
