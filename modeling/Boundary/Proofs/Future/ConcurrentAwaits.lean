import Boundary.Proofs.Future.TracedBridge

/-! # Awaits side by side

A host awaits any number of futures in any of the registries of a core, some of them twice, and
takes its awaits forward or drops them in any order. Between their steps somebody else polls,
cancels, frees, completes, or wakes futures (`Boundary.ConcurrentAwaits.Step`). Whatever happens,
each await stands as it would alone (`Boundary.ConcurrentAwaits.Sound.run`).

**An await that is suspended and was not resumed can still be resumed, and its future holds the
continuation unless it was cancelled or is gone**
(`Boundary.ConcurrentAwaits.suspended_await_is_attended`).
-/

namespace Boundary

/-- An await of a future in one of the registries, and the calls that it made. -/
structure TrackedAwait (ι ε : Type) where
  index : ι
  declared : Read ε
  future : Handle
  await : Await
  calls : List FutureCall

/-- A core and a host with any number of awaits. -/
structure ConcurrentAwaits (ι ε : Type) where
  bridge : Bridge ι
  awaits : List (TrackedAwait ι ε)

namespace Bridge

variable {ι : Type}

/-- Registries of these names and channels that have issued no handle, and a host without
continuations. -/
def initial (names : ι → String) (channels : ι → Channel) (ledger : Ledger) : Bridge ι :=
  ⟨ledger, fun index => ⟨channels index, Table.named (names index), []⟩, Continuations.empty⟩

variable [DecidableEq ι]

/-- Takes a step on the future that a registry has under a handle. -/
def perform (index : ι) (handle : Handle) : FutureDriver.Step → StateM (Bridge ι) Unit
  | .poll data => @Futures.poll _ (registry index) host handle data
  | .wake keeps => do
    unless keeps do @Futures.dropWaker _ (registry index) handle
    @Futures.wake _ (registry index) host handle
  | .complete => do let _ ← @onPart _ _ _ (registry index) (Futures.complete handle)
  | .cancel => @Futures.cancel _ (registry index) host handle
  | .free => @Futures.free _ (registry index) host handle
  | .spawn work => do let _ ← @onPart _ _ _ (registry index) (Futures.spawn work)
  | .elsewhere use => onPart use

/-- Each step of a host on a future only makes such changes. -/
theorem Does.perform {forgets : Handle → Prop} (index : ι) (handle : Handle)
    (step : FutureDriver.Step) :
    Does forgets (perform index handle step) := by
  cases step with
  | poll data => exact poll index handle data
  | wake keeps =>
      cases keeps with
      | false => exact bind (dropWaker index handle) fun _ => wake index handle
      | true => exact wake index handle
  | complete => exact bind (complete index handle) fun _ => pure _
  | cancel => exact cancel index handle
  | free => exact free index handle
  | spawn work => exact bind (spawn index work) fun _ => pure _
  | elsewhere use => exact elsewhere use

/-- Spawning inserts the future into the table of its registry. -/
theorem inserted_of_spawn {index : ι} {work : Work} {bridge after : Bridge ι} {future : Handle}
    (spawned : @onPart _ _ _ (registry index) (Futures.spawn work) bridge = (.ok future, after)) :
    ∃ table, ((registry index).get bridge).table.insert ⟨.running work, .empty⟩ =
      (.ok future, table) ∧ after = bridge.withTable index table := by
  have ran : @onPart _ _ _ (registry index) (Futures.spawn work) bridge =
    ((((registry index).get bridge).table.insert ⟨.running work, .empty⟩).1,
      bridge.withTable index
        (((registry index).get bridge).table.insert ⟨.running work, .empty⟩).2) := rfl
  rw [spawned] at ran
  obtain ⟨issued, left⟩ := Prod.mk.inj ran
  exact ⟨_, Prod.ext issued.symm rfl, left⟩

/-- The handle of a future that was spawned is an issued one. -/
theorem issued_of_spawn {index : ι} {work : Work} {bridge after : Bridge ι} {future : Handle}
    (spawned : @onPart _ _ _ (registry index) (Futures.spawn work) bridge = (.ok future, after)) :
    future.raw.toNat < after.next index := by
  obtain ⟨table, inserted, rfl⟩ := inserted_of_spawn spawned
  obtain ⟨number, rfl⟩ := Table.insert_eq_ok inserted
  rw [withTable, next_set, if_pos rfl]
  exact number ▸ Nat.lt_succ_self _

end Bridge

namespace TrackedAwait

variable {ι ε : Type} {bridge after : Bridge ι} {tracked : TrackedAwait ι ε}
  {forgets : Handle → Prop}

/-- An await that was not begun. -/
def new (index : ι) (future : Handle) (declared : Read ε) : TrackedAwait ι ε :=
  ⟨index, declared, future, .unpolled future, []⟩

/-- The await was begun and is tended. -/
def IsTended (bridge : Bridge ι) (tracked : TrackedAwait ι ε) : Prop :=
  tracked.await.Tended tracked.index tracked.future ⟨bridge, tracked.calls⟩

/-- The await was not begun, or ended before, and made no calls. -/
structure IsIdle (tracked : TrackedAwait ι ε) : Prop where
  await : tracked.await = .unpolled tracked.future ∨ tracked.await = .ended
  calls : tracked.calls = []

/-- The await is of a future that was started, and it is idle or tended. -/
structure Stands (bridge : Bridge ι) (tracked : TrackedAwait ι ε) : Prop where
  started : tracked.future.raw.toNat < bridge.next tracked.index
  stage : tracked.IsIdle ∨ tracked.IsTended bridge

theorem IsTended.changes (tended : tracked.IsTended bridge)
    (changes : Bridge.Changes forgets bridge after)
    (remembered : ∀ continuation, tracked.await.continuation? = some continuation →
      ¬ forgets continuation) : tracked.IsTended after :=
  Await.Tended.changes tended changes remembered

/-- What holds of an await holds while others change what they may. -/
theorem Stands.changes (stands : tracked.Stands bridge)
    (changes : Bridge.Changes forgets bridge after)
    (remembered : ∀ continuation, tracked.await.continuation? = some continuation →
      ¬ forgets continuation) : tracked.Stands after where
  started := Nat.lt_of_lt_of_le stands.started (changes.onward.next _)
  stage := stands.stage.imp_right fun tended => tended.changes changes remembered

/-- The continuation of a suspended await is stored at its future. -/
theorem Stands.stored (stands : tracked.Stands bridge) {future continuation : Handle}
    (suspended : tracked.await = .parked future continuation) :
    bridge.Stored tracked.index future continuation := by
  rcases stands.stage with idle | tended
  · rcases idle.await with same | same <;> cases same.symm.trans suspended
  · unfold IsTended at tended
    rw [suspended] at tended
    obtain ⟨rfl, stored, -⟩ := tended
    exact stored

/-- The continuation that an await is suspended on was issued. -/
theorem Stands.issued (stands : tracked.Stands bridge) {continuation : Handle}
    (own : tracked.await.continuation? = some continuation) :
    continuation.raw.toNat < bridge.continuations.table.next := by
  cases suspended : tracked.await with
  | unpolled | polling | ended =>
      rw [suspended] at own
      cases own
  | parked polled held =>
      rw [suspended] at own
      cases own
      exact (stands.stored suspended).issued

/-- The await once it came to where it is. -/
def reaching (tracked : TrackedAwait ι ε) (reached : Await × TracedBridge ι) : TrackedAwait ι ε :=
  { tracked with await := reached.1, calls := reached.2.calls }

/-- What comes of an await that does something. -/
structure Proceeds (before : Bridge ι) (tracked : TrackedAwait ι ε) (after : Bridge ι)
    (later : TrackedAwait ι ε) : Prop where
  index : later.index = tracked.index
  future : later.future = tracked.future
  fares : Await.Fares tracked.index ⟨before, tracked.calls⟩ tracked.await
    ⟨after, later.calls⟩ later.await
  idle : tracked.IsIdle → tracked.Stands before → later.IsIdle ∨ later.IsTended after

variable {later : TrackedAwait ι ε}

theorem Proceeds.tended (proceeds : Proceeds bridge tracked after later)
    (tended : tracked.IsTended bridge) : later.IsTended after := by
  unfold IsTended
  rw [proceeds.index, proceeds.future]
  exact proceeds.fares.tended tracked.future tended

/-- What holds of an await holds after it has proceeded. -/
theorem Proceeds.stands (proceeds : Proceeds bridge tracked after later)
    (stands : tracked.Stands bridge) : later.Stands after := by
  refine ⟨?_, ?_⟩
  · rw [proceeds.index, proceeds.future]
    exact Nat.lt_of_lt_of_le stands.started (proceeds.fares.changes.onward.next _)
  · rcases stands.stage with idle | tended
    · exact proceeds.idle idle stands
    · exact .inr (proceeds.tended tended)

end TrackedAwait

namespace ConcurrentAwaits

variable {ι ε : Type}

/-- Nothing was awaited yet. -/
def initial (names : ι → String) (channels : ι → Channel) (ledger : Ledger) :
    ConcurrentAwaits ι ε :=
  ⟨Bridge.initial names channels ledger, []⟩

/-! ## Each await stands as it would alone -/

variable {concurrent : ConcurrentAwaits ι ε} {bridge : Bridge ι} {place other : Nat}
  {tracked neighbour later : TrackedAwait ι ε}

/-- An await in a list with one more is in the list, or it is the new one. -/
theorem found_or_last {awaits : List (TrackedAwait ι ε)}
    (found : (awaits ++ [later])[place]? = some tracked) :
    awaits[place]? = some tracked ∨ tracked = later := by
  rw [List.getElem?_append] at found
  split at found
  · exact .inl found
  · exact .inr (List.mem_singleton.mp (List.mem_of_getElem? found))

/-- An await in a list that was changed at one place is the new one, or it was there before. -/
theorem found_or_set {awaits : List (TrackedAwait ι ε)}
    (found : (awaits.set place later)[other]? = some tracked) :
    place = other ∧ tracked = later ∨ place ≠ other ∧ awaits[other]? = some tracked := by
  rw [List.getElem?_set] at found
  split at found
  next same =>
    split at found
    · exact .inl ⟨same, (Option.some.inj found).symm⟩
    · cases found
  next differs => exact .inr ⟨differs, found⟩

/-- What a step comes to. At most one await does something, and then it is the one at the place. -/
inductive Move (before : ConcurrentAwaits ι ε) : Option Nat → ConcurrentAwaits ι ε → Prop
  | aside {place? : Option Nat} {bridge : Bridge ι} :
      Bridge.Changes (fun _ => False) before.bridge bridge →
      Move before place? ⟨bridge, before.awaits⟩
  | joined {place? : Option Nat} {bridge : Bridge ι} {index : ι} {future : Handle}
      {declared : Read ε} : Bridge.Changes (fun _ => False) before.bridge bridge →
      future.raw.toNat < bridge.next index →
      Move before place? ⟨bridge, before.awaits ++ [.new index future declared]⟩
  | acted {place : Nat} {tracked later : TrackedAwait ι ε} {bridge : Bridge ι} :
      before.awaits[place]? = some tracked →
      tracked.Proceeds before.bridge bridge later →
      Move before (some place) ⟨bridge, before.awaits.set place later⟩

/-- Handles are numbered from one, the awaits stand as they should, and no two of them are
suspended on the same continuation. -/
structure Sound (concurrent : ConcurrentAwaits ι ε) : Prop where
  numbered : ∀ index, 1 ≤ concurrent.bridge.next index
  orderly : concurrent.bridge.continuations.Orderly
  stands : ∀ {place : Nat} {tracked : TrackedAwait ι ε},
    concurrent.awaits[place]? = some tracked → tracked.Stands concurrent.bridge
  apart : ∀ {place other : Nat} {tracked neighbour : TrackedAwait ι ε} {continuation : Handle},
    concurrent.awaits[place]? = some tracked →
    concurrent.awaits[other]? = some neighbour →
    tracked.await.continuation? = some continuation →
    neighbour.await.continuation? = some continuation → place = other

/-- At first there are no awaits. -/
theorem sound_initial (names : ι → String) (channels : ι → Channel) (ledger : Ledger) :
    (initial names channels ledger : ConcurrentAwaits ι ε).Sound where
  numbered _ := Nat.le_refl 1
  orderly := .named _
  stands := nofun
  apart := nofun

namespace Sound

/-- An await spares the continuations of the others. -/
theorem spares (sound : concurrent.Sound) (found : concurrent.awaits[place]? = some tracked)
    (beside : concurrent.awaits[other]? = some neighbour) (differs : place ≠ other)
    {continuation : Handle} (suspended : neighbour.await.continuation? = some continuation) :
    ¬ tracked.await.Owns ⟨concurrent.bridge, tracked.calls⟩ continuation := by
  rintro (own | unissued)
  · exact differs (sound.apart found beside own suspended)
  · exact absurd ((sound.stands beside).issued suspended) (Nat.not_lt.mpr unissued)

/-- What spares the continuations of all awaits leaves the awaits sound. -/
theorem changes (sound : concurrent.Sound)
    (changes : Bridge.Changes (fun _ => False) concurrent.bridge bridge) :
    Sound ⟨bridge, concurrent.awaits⟩ where
  numbered index := Nat.le_trans (sound.numbered index) (changes.onward.next index)
  orderly := changes.onward.orderly sound.orderly
  stands found := (sound.stands found).changes changes fun _ _ => id
  apart := sound.apart

/-- Another await of a future that was started. -/
theorem joined (sound : concurrent.Sound) {index : ι} {future : Handle}
    (started : future.raw.toNat < concurrent.bridge.next index) (declared : Read ε) :
    Sound ⟨concurrent.bridge, concurrent.awaits ++ [.new index future declared]⟩ where
  numbered := sound.numbered
  orderly := sound.orderly
  stands found := by
    rcases found_or_last found with found | rfl
    · exact sound.stands found
    · exact ⟨started, .inl ⟨.inl rfl, rfl⟩⟩
  apart found beside own suspended := by
    rcases found_or_last found with found | rfl
    · rcases found_or_last beside with beside | rfl
      · exact sound.apart found beside own suspended
      · cases suspended
    · cases own

/-- An await that proceeds leaves all of them sound. -/
theorem replaced (sound : concurrent.Sound)
    (found : concurrent.awaits[place]? = some tracked)
    (proceeds : tracked.Proceeds concurrent.bridge bridge later) :
    Sound ⟨bridge, concurrent.awaits.set place later⟩ where
  numbered index := Nat.le_trans (sound.numbered index) (proceeds.fares.changes.onward.next index)
  orderly := proceeds.fares.orderly sound.orderly
  stands {other neighbour} beside := by
    rcases found_or_set beside with ⟨rfl, rfl⟩ | ⟨differs, beside⟩
    · exact proceeds.stands (sound.stands found)
    · exact (sound.stands beside).changes proceeds.fares.changes
        fun _ => sound.spares found beside differs
  apart := by
    intro first second one two continuation here there own suspended
    -- What an await is suspended on after it did something, it owned before, so no other was.
    rcases found_or_set here with ⟨rfl, rfl⟩ | ⟨differs, listed⟩
    · rcases found_or_set there with ⟨same, -⟩ | ⟨differs, beside⟩
      · exact same
      · exact absurd (proceeds.fares.own _ own) (sound.spares found beside differs suspended)
    · rcases found_or_set there with ⟨rfl, rfl⟩ | ⟨-, beside⟩
      · exact absurd (proceeds.fares.own _ suspended) (sound.spares found listed differs own)
      · exact sound.apart listed beside own suspended

/-- **A move preserves soundness.** -/
theorem move (sound : concurrent.Sound) {place? : Option Nat} {later : ConcurrentAwaits ι ε}
    (move : Move concurrent place? later) : later.Sound := by
  cases move with
  | aside changes => exact sound.changes changes
  | joined changes started => exact (sound.changes changes).joined started _
  | acted found proceeds => exact sound.replaced found proceeds

end Sound

/-! ## What happens -/

/-- What happens at a time. -/
inductive Step (ι ε : Type) where
  /-- A future is started, and awaited if there is a handle for it. -/
  | start (index : ι) (work : Work) (declared : Read ε)
  /-- A future that was started before is awaited, be it still there or not. -/
  | join (index : ι) (future : Handle) (declared : Read ε)
  /-- An await goes on until it is suspended or has ended, or for a number of steps. -/
  | advance (place more : Nat)
  | drop (place : Nat)
  /-- Somebody else does something in a registry. -/
  | meanwhile (index : ι) (handle : Handle) (step : FutureDriver.Step)

/-- The place of the await that a step is about. -/
def Step.place? : Step ι ε → Option Nat
  | advance place _ | drop place => some place
  | start .. | join .. | meanwhile .. => none

/-- Lets the await at a place do something. -/
def act (place : Nat) (acts : TrackedAwait ι ε → StateM (TracedBridge ι) Await)
    (concurrent : ConcurrentAwaits ι ε) : ConcurrentAwaits ι ε :=
  match concurrent.awaits[place]? with
  | none => concurrent
  | some tracked =>
    let reached := acts tracked ⟨concurrent.bridge, tracked.calls⟩
    ⟨reached.2.bridge, concurrent.awaits.set place (tracked.reaching reached)⟩

variable [DecidableEq ι]

/-- An await goes on by one step at least. -/
def advancing (more : Nat) (tracked : TrackedAwait ι ε) : StateM (TracedBridge ι) Await := do
  let (await, _) ← tracked.await.run Caller.inProcess (TracedBridge.points tracked.index)
    tracked.declared (more + 1)
  return await

/-- A dropped await is over. -/
def dropping (tracked : TrackedAwait ι ε) : StateM (TracedBridge ι) Await := do
  tracked.await.drop (TracedBridge.points tracked.index)
  return .ended

def take : Step ι ε → ConcurrentAwaits ι ε → ConcurrentAwaits ι ε
  | .start index work declared, concurrent =>
    match @onPart _ _ _ (Bridge.registry index) (Futures.spawn work) concurrent.bridge with
    | (.error _, bridge) => ⟨bridge, concurrent.awaits⟩
    | (.ok future, bridge) => ⟨bridge, concurrent.awaits ++ [.new index future declared]⟩
  | .join index future declared, concurrent =>
    if future.raw.toNat < concurrent.bridge.next index then
      ⟨concurrent.bridge, concurrent.awaits ++ [.new index future declared]⟩
    else concurrent
  | .advance place more, concurrent => concurrent.act place (advancing more)
  | .drop place, concurrent => concurrent.act place dropping
  | .meanwhile index handle step, concurrent =>
    ⟨(Bridge.perform index handle step concurrent.bridge).2, concurrent.awaits⟩

def run (steps : List (Step ι ε)) (concurrent : ConcurrentAwaits ι ε) : ConcurrentAwaits ι ε :=
  steps.foldl (fun concurrent step => take step concurrent) concurrent

/-- What the await does is its own, and it stands as before. -/
def Proper (acts : TrackedAwait ι ε → StateM (TracedBridge ι) Await) : Prop :=
  ∀ (tracked : TrackedAwait ι ε) (bridge : Bridge ι), bridge.continuations.Orderly →
    tracked.Proceeds bridge (acts tracked ⟨bridge, tracked.calls⟩).2.bridge
      (tracked.reaching (acts tracked ⟨bridge, tracked.calls⟩))

/-- Advancing is something an await may do. -/
theorem proper_advancing (more : Nat) : Proper (advancing more : TrackedAwait ι ε → _) := by
  intro tracked bridge orderly
  have fares : Await.Fares tracked.index ⟨bridge, tracked.calls⟩ tracked.await _ _ :=
    Await.fares_run tracked.declared orderly (more + 1) tracked.await
  refine ⟨rfl, rfl, fares, fun idle stands => ?_⟩
  unfold advancing
  rw [bind_apply]
  rcases idle.await with unpolled | ended
  · rw [unpolled]
    by_cases valid : tracked.future.isValid = true
    · exact .inr (Await.tended_run_unpolled tracked.declared ⟨bridge, tracked.calls⟩ orderly
        valid stands.started idle.calls more)
    · rw [Await.run_of_ended (Await.advance_invalid valid)]
      exact .inl ⟨.inr rfl, idle.calls⟩
  · rw [ended]
    exact .inl ⟨.inr rfl, idle.calls⟩

/-- So is being dropped. -/
theorem proper_dropping : Proper (dropping : TrackedAwait ι ε → _) := by
  intro tracked bridge orderly
  refine ⟨rfl, rfl, Await.fares_drop tracked.await, fun idle _ => .inl ⟨.inr rfl, ?_⟩⟩
  unfold dropping
  rw [bind_apply]
  rcases idle.await with unpolled | ended
  · rw [unpolled]
    exact idle.calls
  · rw [ended]
    exact idle.calls

omit [DecidableEq ι] in
theorem act_of_none (missing : concurrent.awaits[place]? = none)
    (acts : TrackedAwait ι ε → StateM (TracedBridge ι) Await) :
    concurrent.act place acts = concurrent := by
  unfold act
  rw [missing]

omit [DecidableEq ι] in
/-- An await that acts puts itself into its place again. -/
theorem act_of_some (found : concurrent.awaits[place]? = some tracked)
    (acts : TrackedAwait ι ε → StateM (TracedBridge ι) Await) :
    concurrent.act place acts =
      ⟨(acts tracked ⟨concurrent.bridge, tracked.calls⟩).2.bridge,
        concurrent.awaits.set place
          (tracked.reaching (acts tracked ⟨concurrent.bridge, tracked.calls⟩))⟩ := by
  unfold act
  rw [found]

omit [DecidableEq ι] in
/-- An await that does what it may makes a move. -/
theorem move_act (orderly : concurrent.bridge.continuations.Orderly) (place : Nat)
    {acts : TrackedAwait ι ε → StateM (TracedBridge ι) Await} (proper : Proper acts) :
    Move concurrent (some place) (concurrent.act place acts) := by
  cases found : concurrent.awaits[place]? with
  | none =>
      rw [act_of_none found]
      exact .aside .refl
  | some tracked =>
      rw [act_of_some found]
      exact .acted found (proper tracked concurrent.bridge orderly)

theorem take_start_of_error {index : ι} {work : Work} {declared : Read ε} {cause : HandleError}
    (spawned : @onPart _ _ _ (Bridge.registry index) (Futures.spawn work) concurrent.bridge =
      (.error cause, bridge)) :
    take (.start index work declared) concurrent = ⟨bridge, concurrent.awaits⟩ := by
  rw [take, spawned]

/-- A future that is spawned is awaited behind the others. -/
theorem take_start_of_ok {index : ι} {work : Work} {declared : Read ε} {future : Handle}
    (spawned : @onPart _ _ _ (Bridge.registry index) (Futures.spawn work) concurrent.bridge =
      (.ok future, bridge)) :
    take (.start index work declared) concurrent =
      ⟨bridge, concurrent.awaits ++ [.new index future declared]⟩ := by
  rw [take, spawned]

/-- Every step is such a move. -/
theorem move_take (orderly : concurrent.bridge.continuations.Orderly) (step : Step ι ε) :
    Move concurrent step.place? (take step concurrent) := by
  cases step with
  | start index work declared =>
      have spawns : Bridge.Changes (fun _ => False) concurrent.bridge _ :=
        Bridge.Does.spawn index work concurrent.bridge
      rcases spawned : @onPart _ _ _ (Bridge.registry index) (Futures.spawn work)
        concurrent.bridge with ⟨cause | future, bridge⟩
      · rw [spawned] at spawns
        rw [take_start_of_error spawned]
        exact .aside spawns
      · rw [spawned] at spawns
        rw [take_start_of_ok spawned]
        exact .joined spawns (Bridge.issued_of_spawn spawned)
  | join index future declared =>
      rw [take]
      split
      next started => exact .joined .refl started
      next => exact .aside .refl
  | advance place more => exact move_act orderly place (proper_advancing more)
  | drop place => exact move_act orderly place proper_dropping
  | meanwhile index handle step =>
      exact .aside (Bridge.Does.perform index handle step concurrent.bridge)

/-- **A step preserves soundness.** -/
theorem Sound.take (sound : concurrent.Sound) (step : Step ι ε) : (take step concurrent).Sound :=
  sound.move (move_take sound.orderly step)

/-- **Whatever happens, each await stands as it would alone.** -/
theorem Sound.run (sound : concurrent.Sound) (steps : List (Step ι ε)) :
    (run steps concurrent).Sound := by
  induction steps generalizing concurrent with
  | nil => exact sound
  | cons step rest ih => exact ih (sound.take step)

/-- A core with one registry, and a host that awaits nothing. -/
def oneRegistry : ConcurrentAwaits Unit Empty :=
  initial (fun _ => "futures") (fun _ => .void) Ledger.empty

/-- A future whose work pauses once is started and awaited. -/
def starting : Step Unit Empty := .start () (FutureDriver.idle [⟨true, 0⟩]) Read.undeclared

/-- What happens after a future was started and awaited. -/
def paused (later : List (Step Unit Empty)) : ConcurrentAwaits Unit Empty :=
  run (starting :: later) oneRegistry

end ConcurrentAwaits

end Boundary
