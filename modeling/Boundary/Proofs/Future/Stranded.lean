import Boundary.Proofs.Future.Signals

/-! # Continuations that are left behind

A poll that finds a future pending leaves a continuation. When one that was left before is still
stored, two things go wrong. If the future is woken once inside of the later poll, the wake is
spent on the earlier continuation and the later one is stored although the future was woken. If
the later poll finds the future finished, the earlier continuation stays where it is. These are
the only cases (`Boundary.FutureDriver.stranded_iff`).
-/

namespace Boundary

/-- How many times a future is woken inside of a poll. -/
def Progress.wakesWhenPolled (kept : Bool) : Progress → Nat
  | .running ⟨_, pause :: _, _, _⟩ => pause.wakes
  | .running ⟨_, [], _, wakesOnDrop⟩ => (wakesOnDrop && kept).toNat
  | _ => 0

namespace FutureDriver

variable {handle : Handle} {driver : FutureDriver} {future : CoreFuture} {steps : List Step}

/-- Whether the future is woken between polls. -/
def Step.isWake : Step → Bool
  | wake _ => true
  | _ => false

/-- Whether a poll that is made now finds the future pending. -/
def pauses (handle : Handle) (driver : FutureDriver) : Bool :=
  (driver.find? handle).any fun future => future.progress.pausesLeft != 0

/-- How many times the future is woken inside of a poll that is made now. -/
def wakes (handle : Handle) (driver : FutureDriver) : Nat :=
  ((driver.find? handle).map fun future =>
    future.progress.wakesWhenPolled (driver.futures.wakers.contains handle)).getD 0

/-- A continuation is stored although the future was woken since the latest poll began, or a poll
was told that the result is ready. The latest poll is the one that comes between the steps. -/
def Stranded (handle : Handle) (start : FutureDriver) (before : List Step) (data : UInt64)
    (later : List Step) : Prop :=
  (wakes handle (run handle start before) ≠ 0 ∨ later.any Step.isWake ∨
    readied (run handle start (before ++ .poll data :: later)).signals ≠ []) ∧
  stored handle (run handle start (before ++ .poll data :: later)) ≠ []

/-- A poll that ends the work leaves an older continuation stored unless a wake takes it; one that
pauses stores its own unless a wake has been noted. -/
theorem Step.stored_effect_poll (active : future.slot.isCancelled = false) (data : UInt64)
    (ledger : Ledger) (kept : Bool) :
    ∃ after, ((poll data).effect ledger kept future).1 = some after ∧
      after.slot.isCancelled = false ∧ (after.slot.stored ≠ [] ↔
        if future.progress.pausesLeft = 0 then
          future.progress.wakesWhenPolled kept = 0 ∧ future.slot.stored ≠ []
        else future.progress.wakesWhenPolled kept = 0 ∧ future.slot ≠ .waked ∨
          future.progress.wakesWhenPolled kept = 1 ∧ future.slot.stored ≠ []) := by
  have stays : (poll data).ends = false := rfl
  obtain ⟨after, left, served⟩ := Step.effect_serves active stays ledger kept
  refine ⟨after, left, served.passes.active, ?_⟩
  obtain ⟨progress, slot⟩ := future
  change slot.isCancelled = false at active
  simp only [effect, active, Bool.false_eq_true, ↓reduceIte] at left
  rcases progress with ⟨label, _ | ⟨pause, rest⟩, ending, wakesOnDrop⟩ | result | message | _
  all_goals obtain rfl := Option.some.inj left
  · rw [Slot.stored_wakeTimes]
    change (if (wakesOnDrop && kept).toNat = 0 then slot.stored else []) ≠ [] ↔
      (wakesOnDrop && kept).toNat = 0 ∧ slot.stored ≠ []
    split
    · next none => exact (and_iff_right none).symm
    · next some => exact iff_of_false (· rfl) fun both => some both.1
  · exact Slot.stored_store_wakeTimes active data pause.wakes
  all_goals exact (and_iff_right rfl).symm

/-- Between polls only a wake takes the continuation that is stored. -/
theorem Step.stored_effect_unpolled {step : Step} (active : future.slot.isCancelled = false)
    (stays : step.ends = false) (unpolled : step.data? = none) (ledger : Ledger) (kept : Bool) :
    ∃ after, (step.effect ledger kept future).1 = some after ∧
      after.slot.isCancelled = false ∧
      after.slot.stored = if step.isWake then [] else future.slot.stored := by
  cases step with
  | poll data => cases unpolled
  | wake keeps =>
      refine ⟨_, rfl, (Slot.passes_wake active).active, ?_⟩
      exact Slot.stored_wakeTimes future.slot 1
  | complete =>
      simp only [effect, active, Bool.false_eq_true, ↓reduceIte]
      exact ⟨_, rfl, active, rfl⟩
  | cancel => cases stays
  | free => cases stays
  | spawn work => exact ⟨_, rfl, active, rfl⟩
  | elsewhere use => exact ⟨_, rfl, active, rfl⟩

/-- Between polls, a wake takes what is stored. -/
theorem stored_run_unpolled (found : driver.find? handle = some future)
    (issued : handle.raw.toNat < driver.futures.table.next)
    (active : future.slot.isCancelled = false) (stays : ∀ step ∈ steps, step.ends = false)
    (unpolled : ∀ step ∈ steps, step.data? = none) :
    stored handle (run handle driver steps) =
      if steps.any Step.isWake then [] else future.slot.stored := by
  induction steps generalizing driver future with
  | nil => exact stored_of_find? found
  | cons step rest ih =>
      obtain ⟨first, others⟩ := List.forall_mem_cons.mp stays
      obtain ⟨silent, quiet⟩ := List.forall_mem_cons.mp unpolled
      obtain ⟨after, left, still, slot⟩ := Step.stored_effect_unpolled active first silent
        driver.futures.ledger (driver.futures.wakers.contains handle)
      have performed := perform_leaves found issued step
      rw [left] at performed
      have known := Nat.lt_of_lt_of_le issued performed.next
      have remains := ih performed.find? known still others quiet
      change stored handle (run handle (perform handle step driver).2 rest) = _
      rw [remains, slot, List.any_cons]
      cases step.isWake <;> simp

/-- Whether a poll will wake is told by the work and by the waker that is kept. -/
theorem wakes_of_find? (found : driver.find? handle = some future) :
    wakes handle driver =
      future.progress.wakesWhenPolled (driver.futures.wakers.contains handle) := by
  unfold wakes
  rw [found]
  rfl

/-- Whether a poll will pause is told by the work. -/
theorem pauses_of_find? (found : driver.find? handle = some future) :
    pauses handle driver = (future.progress.pausesLeft != 0) := by
  unfold pauses
  rw [found]
  rfl

variable {work : Work} {before later : List Step}

/-- What is stored after a poll and the steps that come between it and the next. -/
theorem stored_run_latest (found : driver.find? handle = some future)
    (issued : handle.raw.toNat < driver.futures.table.next)
    (active : future.slot.isCancelled = false) (stays : ∀ step ∈ later, step.ends = false)
    (latest : ∀ step ∈ later, step.data? = none) (data : UInt64) :
    stored handle (run handle driver (.poll data :: later)) ≠ [] ↔
      later.any Step.isWake = false ∧ if future.progress.pausesLeft = 0 then
          wakes handle driver = 0 ∧ stored handle driver ≠ []
        else wakes handle driver = 0 ∧ future.slot ≠ .waked ∨
          wakes handle driver = 1 ∧ stored handle driver ≠ [] := by
  obtain ⟨between, polled, still, slot⟩ := Step.stored_effect_poll active data
    driver.futures.ledger (driver.futures.wakers.contains handle)
  have performed := perform_leaves found issued (.poll data)
  rw [polled] at performed
  have known := Nat.lt_of_lt_of_le issued performed.next
  rw [run_cons, stored_run_unpolled performed.find? known still stays latest,
    wakes_of_find? found, stored_of_find? found, ← slot]
  cases later.any Step.isWake with
  | true => exact iff_of_false (· rfl) nofun
  | false => exact (and_iff_right rfl).symm

/-- A poll was told that the result is ready exactly when the latest found the future finished. -/
theorem readied_run_latest (found : driver.find? handle = some ⟨.running work, .empty⟩)
    (issued : handle.raw.toNat < driver.futures.table.next) (fresh : driver.signals = [])
    (stays : ∀ step ∈ before ++ later, step.ends = false)
    (latest : ∀ step ∈ later, step.data? = none) (data : UInt64) :
    readied (run handle driver (before ++ .poll data :: later)).signals = [] ↔
      (before.filterMap Step.data?).length < work.pauses.length := by
  have each : ∀ step ∈ before ++ .poll data :: later, step.ends = false := by
    obtain ⟨first, last⟩ := List.forall_mem_append.mp stays
    exact List.forall_mem_append.mpr ⟨first, List.forall_mem_cons.mpr ⟨rfl, last⟩⟩
  obtain ⟨after, signals, ran, served⟩ := run_serves found issued rfl each
  have made : (before ++ .poll data :: later).filterMap Step.data? =
      before.filterMap Step.data? ++ [data] := by
    have none := List.filterMap_eq_nil_iff.mpr latest
    rw [List.filterMap_append, ← none]
    rfl
  have ready := served.passes.readied
  rw [made] at ready
  rw [ran.signals, fresh, List.nil_append, ready, List.drop_eq_nil_iff, List.length_append]
  exact Nat.succ_le_iff

/-- **When the latest poll strands a continuation**, from any host in which the future was just
spawned. -/
theorem stranded_iff_of_find? (found : driver.find? handle = some ⟨.running work, .empty⟩)
    (issued : handle.raw.toNat < driver.futures.table.next) (fresh : driver.signals = [])
    (stays : ∀ step ∈ before ++ later, step.ends = false)
    (latest : ∀ step ∈ later, step.data? = none) (data : UInt64) :
    Stranded handle driver before data later ↔
      stored handle (run handle driver before) ≠ [] ∧ later.any Step.isWake = false ∧
        wakes handle (run handle driver before) =
          (pauses handle (run handle driver before)).toNat := by
  obtain ⟨first, last⟩ := List.forall_mem_append.mp stays
  obtain ⟨future, signals, ran, served⟩ := run_serves found issued rfl first
  have left : future.progress.pausesLeft =
    work.pauses.length - (before.filterMap Step.data?).length := served.pausesLeft
  have ready : readied (run handle driver (before ++ .poll data :: later)).signals ≠ [] ↔
      future.progress.pausesLeft = 0 := by
    rw [ne_eq, readied_run_latest found issued fresh stays latest data, left]
    omega
  have known : handle.raw.toNat < (run handle driver before).futures.table.next :=
    Nat.lt_of_lt_of_le issued ran.next
  have remains := stored_run_latest ran.find? known served.passes.active last latest data
  unfold Stranded
  rw [ready, run_append, remains, pauses_of_find? ran.find?]
  generalize wakes handle (run handle driver before) = times
  cases woken : later.any Step.isWake with
  | true => exact iff_of_false (fun both => absurd both.2.1 nofun) fun both => absurd both.2.1 nofun
  | false =>
      -- A poll that finds the future finished stores nothing, one that finds it pending does.
      by_cases unpaused : future.progress.pausesLeft = 0
      · simp [unpaused, and_comm]
      · have woke : (times ≠ 0 ∨ false = true ∨ future.progress.pausesLeft = 0) ↔ times ≠ 0 := by
          simp [unpaused]
        rw [woke, if_neg unpaused, bne_iff_ne.mpr unpaused]
        constructor
        · rintro ⟨some, -, ⟨none, -⟩ | ⟨once, waits⟩⟩
          · exact absurd none some
          · exact ⟨waits, rfl, once⟩
        · rintro ⟨waits, -, once⟩
          exact ⟨once ▸ Nat.one_ne_zero, rfl, .inr ⟨once, waits⟩⟩

/-- **A poll is stranded exactly when an earlier one was still stored as the latest poll began**, no
wake came after it, and inside of it came none if it found the future finished, and a single one if
it found the future pending. -/
theorem stranded_iff {futures started : Futures} (orderly : futures.table.Orderly)
    (spawned : Futures.spawn work futures = (.ok handle, started))
    (stays : ∀ step ∈ before ++ later, step.ends = false)
    (latest : ∀ step ∈ later, step.data? = none) (data : UInt64) :
    Stranded handle ⟨started, []⟩ before data later ↔
      stored handle (run handle ⟨started, []⟩ before) ≠ [] ∧ later.any Step.isWake = false ∧
        wakes handle (run handle ⟨started, []⟩ before) =
          (pauses handle (run handle ⟨started, []⟩ before)).toNat := by
  obtain ⟨found, issued⟩ := find?_of_spawn orderly spawned []
  exact stranded_iff_of_find? found issued rfl stays latest data

/-- A wake after the latest poll saves it. -/
theorem not_stranded_of_wake :
    ¬ Stranded ⟨1⟩ ⟨idling [⟨true, 0⟩], []⟩ [.poll 1] 2 [.wake true] := by
  rw [stranded_iff (.named _) (spawn_idle _) (by decide) (by decide)]
  exact fun stranded => absurd stranded.2.1 nofun

/-- The second poll finds the future finished and leaves the first one where it is. -/
theorem first_poll_is_stranded : Stranded ⟨1⟩ ⟨idling [⟨false, 0⟩], []⟩ [.poll 1] 2 [] :=
  ⟨.inr (.inr (by decide)), by decide⟩

-- The one wake inside of the second poll goes to the first.
example : Stranded ⟨1⟩ ⟨idling [⟨false, 0⟩, ⟨true, 1⟩], []⟩ [.poll 1] 2 [] :=
  ⟨.inl (by decide), by decide⟩

end FutureDriver

end Boundary
