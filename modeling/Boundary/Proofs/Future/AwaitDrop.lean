import Boundary.Proofs.Future.ConcurrentAwaits

/-! # Leaving an await

An await answers for its future from its first step on (`Boundary.ConcurrentAwaits.Guards`), and
nothing that happens relieves it (`Boundary.ConcurrentAwaits.Guards.run`). So when it is dropped,
the future is gone.

**A future that was started is freed when its await is dropped after it was begun, and was
cancelled before unless its result was asked for**
(`Boundary.ConcurrentAwaits.dropped_await_frees_its_future`). An await that is dropped before it was
begun leaves the core as it is, and with it the future
(`Boundary.ConcurrentAwaits.dropped_await_leaves_the_core`).
-/

namespace Boundary

namespace Bridge

variable {ι : Type}

/-- The handle was issued for a future. -/
structure Started (bridge : Bridge ι) (index : ι) (future : Handle) : Prop where
  valid : future.isValid = true
  issued : future.raw.toNat < bridge.next index

/-- A future that was spawned has started. -/
theorem started_of_spawn [DecidableEq ι] {index : ι} {work : Work} {bridge after : Bridge ι}
    {future : Handle} (numbered : 1 ≤ bridge.next index)
    (spawned : @onPart _ _ _ (registry index) (Futures.spawn work) bridge = (.ok future, after)) :
    after.Started index future := by
  obtain ⟨table, inserted, -⟩ := inserted_of_spawn spawned
  exact ⟨Table.isValid_of_insert inserted numbered, issued_of_spawn spawned⟩

end Bridge

namespace ConcurrentAwaits

variable {ι ε : Type} {concurrent : ConcurrentAwaits ι ε} {place : Nat}
  {tracked later : TrackedAwait ι ε}
  {index : ι} {future : Handle}

/-- The await at a place was begun, and is tended. -/
def Guards (place : Nat) (index : ι) (future : Handle) (concurrent : ConcurrentAwaits ι ε) : Prop :=
  ∃ tracked, concurrent.awaits[place]? = some tracked ∧ tracked.index = index ∧
    tracked.future = future ∧ tracked.IsTended concurrent.bridge

theorem found_append (found : concurrent.awaits[place]? = some tracked)
    (later : TrackedAwait ι ε) : (concurrent.awaits ++ [later])[place]? = some tracked := by
  obtain ⟨inside, -⟩ := List.getElem?_eq_some_iff.mp found
  rw [List.getElem?_append_left inside, found]

theorem found_set (found : concurrent.awaits[place]? = some tracked)
    (later : TrackedAwait ι ε) : (concurrent.awaits.set place later)[place]? = some later := by
  obtain ⟨inside, -⟩ := List.getElem?_eq_some_iff.mp found
  exact List.getElem?_set_self inside

/-- **An await that answers for its future does so after a move.** -/
theorem Guards.move (guards : concurrent.Guards place index future) (sound : concurrent.Sound)
    {place? : Option Nat} {after : ConcurrentAwaits ι ε} (move : Move concurrent place? after) :
    after.Guards place index future := by
  obtain ⟨tracked, found, rfl, rfl, tended⟩ := guards
  cases move with
  | aside changes => exact ⟨tracked, found, rfl, rfl, tended.changes changes fun _ _ => id⟩
  | joined changes started =>
      exact ⟨tracked, found_append found _, rfl, rfl, tended.changes changes fun _ _ => id⟩
  | @acted other neighbour later bridge beside proceeds =>
      by_cases same : other = place
      · subst same
        cases beside.symm.trans found
        exact ⟨later, found_set found later, proceeds.index, proceeds.future,
          proceeds.tended tended⟩
      · refine ⟨tracked, (List.getElem?_set_ne same).trans found, rfl, rfl, ?_⟩
        exact tended.changes proceeds.fares.changes fun _ => sound.spares beside found same

/-- An await that a step is not about stays as it is. -/
theorem Move.found {place? : Option Nat} {after : ConcurrentAwaits ι ε}
    (move : Move concurrent place? after) (aside : place? ≠ some place)
    (found : concurrent.awaits[place]? = some tracked) :
    after.awaits[place]? = some tracked := by
  cases move with
  | aside => exact found
  | joined => exact found_append found _
  | acted => exact (List.getElem?_set_ne fun same => aside (congrArg some same)).trans found

variable [DecidableEq ι]

/-- An await that answers for its future does so after any run. -/
theorem Guards.run (guards : concurrent.Guards place index future) (sound : concurrent.Sound)
    (steps : List (Step ι ε)) : (run steps concurrent).Guards place index future := by
  induction steps generalizing concurrent with
  | nil => exact guards
  | cons step rest ih =>
      exact ih (guards.move sound (move_take sound.orderly step)) (sound.take step)

/-- An await of a future that was started is begun by its first step. -/
theorem guards_advance {declared : Read ε} (sound : concurrent.Sound)
    (found : concurrent.awaits[place]? = some (.new index future declared))
    (valid : future.isValid = true) (more : Nat) :
    (take (.advance place more) concurrent).Guards place index future := by
  change (concurrent.act place (advancing more)).Guards place index future
  rw [act_of_some found]
  have started : future.raw.toNat < concurrent.bridge.next index := (sound.stands found).started
  have begun := Await.tended_run_unpolled declared ⟨concurrent.bridge, []⟩ sound.orderly valid
    started rfl more
  exact ⟨_, found_set found _, rfl, rfl, begun⟩

/-- A step that does not take an await forward or drop it leaves it as it is. -/
theorem found_take (sound : concurrent.Sound)
    (found : concurrent.awaits[place]? = some tracked) {step : Step ι ε}
    (rests : ∀ more, step ≠ .advance place more) (kept : step ≠ .drop place) :
    (take step concurrent).awaits[place]? = some tracked := by
  refine (move_take sound.orderly step).found (fun about => ?_) found
  cases step with
  | advance other more =>
      cases about
      exact rests more rfl
  | drop other =>
      cases about
      exact kept rfl
  | start | join | meanwhile => cases about

/-- An await that has begun, and was not dropped, answers for its future. -/
theorem guards_run {declared : Read ε} (sound : concurrent.Sound)
    (found : concurrent.awaits[place]? = some (.new index future declared))
    (valid : future.isValid = true) {steps : List (Step ι ε)}
    (begun : ∃ more, .advance place more ∈ steps) (kept : .drop place ∉ steps) :
    (run steps concurrent).Guards place index future := by
  induction steps generalizing concurrent with
  | nil =>
      obtain ⟨more, member⟩ := begun
      cases member
  | cons step rest ih =>
      -- Until its first step the await stays as it was made, and from then on it is tended.
      have keeps := List.not_mem_of_not_mem_cons kept
      by_cases first : ∃ more, step = .advance place more
      · obtain ⟨more, rfl⟩ := first
        exact (guards_advance sound found valid more).run (sound.take _) rest
      · have rests : ∀ more, step ≠ .advance place more := fun more same => first ⟨more, same⟩
        obtain ⟨more, member⟩ := begun
        have later := (List.mem_cons.mp member).resolve_left (rests more).symm
        have stays := found_take sound found rests (List.ne_of_not_mem_cons kept).symm
        exact ih (sound.take step) stays ⟨more, later⟩ keeps

/-- Where an await that was begun is dropped, its future is gone. -/
theorem Guards.drop (guards : concurrent.Guards place index future) (sound : concurrent.Sound) :
    let final := take (.drop place) concurrent
    final.bridge.slot? index future = none ∧ ∃ tracked,
      final.awaits[place]? = some tracked ∧
      FutureCall.Concluded future tracked.calls := by
  obtain ⟨tracked, found, rfl, rfl, tended⟩ := guards
  have left : (tracked.reaching (dropping tracked
      ⟨concurrent.bridge, tracked.calls⟩)).IsTended _ :=
    (proper_dropping tracked concurrent.bridge sound.orderly).tended tended
  have dropped : take (.drop place) concurrent = _ := act_of_some found dropping
  rw [dropped]
  exact ⟨left.1.unknown, _, found_set found _, left.2⟩

/-- An await that is left alone stays as it is. -/
theorem found_run (sound : concurrent.Sound)
    (found : concurrent.awaits[place]? = some tracked) {steps : List (Step ι ε)}
    (rests : ∀ more, .advance place more ∉ steps) (kept : .drop place ∉ steps) :
    (run steps concurrent).awaits[place]? = some tracked := by
  induction steps generalizing concurrent with
  | nil => exact found
  | cons step rest ih =>
      have stays : (take step concurrent).awaits[place]? = some tracked :=
        found_take sound found (fun more => (List.ne_of_not_mem_cons (rests more)).symm)
          (List.ne_of_not_mem_cons kept).symm
      exact ih (sound.take step) stays (fun more => List.not_mem_of_not_mem_cons (rests more))
        (List.not_mem_of_not_mem_cons kept)

/-- A run of two parts is the one run behind the other. -/
theorem run_append (first second : List (Step ι ε)) (concurrent : ConcurrentAwaits ι ε) :
    run (first ++ second) concurrent = run second (run first concurrent) :=
  List.foldl_append

theorem sound_reached {names : ι → String} {channels : ι → Channel} {ledger : Ledger}
    {earlier : List (Step ι ε)}
    (reached : run earlier (initial names channels ledger) = concurrent) :
    concurrent.Sound :=
  reached ▸ (sound_initial names channels ledger).run earlier

/-- A run goes on from what its first part led to. -/
theorem run_opened {start : ConcurrentAwaits ι ε} {earlier rest : List (Step ι ε)}
    {opening : Step ι ε}
    (reached : run earlier start = concurrent) :
    run (earlier ++ opening :: rest) start = run rest (take opening concurrent) := by
  rw [run_append, reached]
  rfl

section

variable {names : ι → String} {channels : ι → Channel} {ledger : Ledger} {declared : Read ε}
  {earlier later : List (Step ι ε)} {opening : Step ι ε} {before : ConcurrentAwaits ι ε}
  (reached : run earlier (initial names channels ledger) = before)
  (opens : (take opening before).awaits[before.awaits.length]? =
    some (.new index future declared))

include reached opens

/-- **A future that was started is freed when an await of it is dropped after it was begun.** It
was cancelled before, unless its result was asked for. The await may have been made when the
future was started, or later. -/
theorem dropped_await_frees_its_future
    (started : (take opening before).bridge.Started index future)
    (begun : ∃ more, .advance before.awaits.length more ∈ later)
    (kept : .drop before.awaits.length ∉ later) :
    let final := run (earlier ++ opening :: (later ++ [.drop before.awaits.length]))
      (initial names channels ledger)
    final.bridge.slot? index future = none ∧ ∃ tracked,
      final.awaits[before.awaits.length]? = some tracked ∧
      FutureCall.Concluded future tracked.calls := by
  have sound := (sound_reached reached).take opening
  intro final
  have last : final = take (.drop _) (run later (take opening before)) :=
    (run_opened reached).trans (run_append later _ _)
  rw [last]
  exact (guards_run sound opens started.valid begun kept).drop (sound.run later)

/-- **An await that is dropped before it was begun leaves the core as it is.** -/
theorem dropped_await_leaves_the_core
    (rests : ∀ more, .advance before.awaits.length more ∉ later)
    (kept : .drop before.awaits.length ∉ later) :
    (run (earlier ++ opening :: (later ++ [.drop before.awaits.length]))
      (initial names channels ledger)).bridge =
    (run (earlier ++ opening :: later) (initial names channels ledger)).bridge := by
  have found := found_run ((sound_reached reached).take opening) opens rests kept
  rw [run_opened reached, run_opened reached, run_append]
  change (act _ dropping _).bridge = _
  rw [act_of_some found]
  rfl

end

/-- The await of a future that is not finished is begun and dropped. -/
theorem paused_await_frees_its_future :
    (paused [.advance 0 1, .drop 0]).bridge.slot? () ⟨1⟩ = none ∧ ∃ tracked,
      (paused [.advance 0 1, .drop 0]).awaits[0]? = some tracked ∧
      FutureCall.Concluded ⟨1⟩ tracked.calls := by
  have opens : (take starting oneRegistry).awaits[0]? = some (.new () ⟨1⟩ Read.undeclared) := rfl
  have spawned : @onPart _ _ _ (Bridge.registry ()) (Futures.spawn (FutureDriver.idle [⟨true, 0⟩]))
    oneRegistry.bridge = (.ok ⟨1⟩, (take starting oneRegistry).bridge) := rfl
  have started : (take starting oneRegistry).bridge.Started () ⟨1⟩ :=
    Bridge.started_of_spawn ((sound_initial _ _ _).numbered ()) spawned
  have kept : Step.drop 0 ∉ ([.advance 0 1] : List (Step Unit Empty)) := by
    rintro (_ | ⟨_, member⟩)
    cases member
  exact dropped_await_frees_its_future (rfl : run [] oneRegistry = oneRegistry) opens started
    ⟨1, List.mem_singleton.mpr rfl⟩ kept

/-- An await that is dropped before it was begun leaves its future where it is. -/
theorem unbegun_await_leaves_its_future :
    (paused [.drop 0]).bridge.slot? () ⟨1⟩ = some .empty ∧
      (paused [.drop 0]).awaits.map TrackedAwait.await = [.ended] ∧
      (paused [.drop 0]).awaits.map TrackedAwait.calls = [[]] :=
  ⟨rfl, rfl, rfl⟩

end ConcurrentAwaits

end Boundary
