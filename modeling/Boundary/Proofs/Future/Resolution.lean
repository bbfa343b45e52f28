import Boundary.Proofs.Future.AwaitPoll
import Boundary.Proofs.Future.Driver

/-! # An await resolves as a call does

A host awaits a future of a core in the same process. If the waker is used after each pause of the
work in which it did not wake itself, and the await is polled again, then the await resolves, and
the host is answered as by a plain call of a body that ends as the work does
(`Boundary.AwaitSession.await_resolves_as_call`).
-/

namespace Boundary

/-- What happens to a session with an await. -/
inductive AwaitAction where
  /-- The host polls the await. -/
  | poll
  /-- The waker is used, if the work kept it. -/
  | wake
  /-- Memory is handed out or given back elsewhere. -/
  | elsewhere (use : StateM Ledger Unit)

namespace AwaitAction

variable {ε : Type} (declared : Read ε)

/-- What a session comes to. -/
def perform (session : AwaitSession) : AwaitAction → AwaitSession
  | poll => (AwaitSession.step declared .poll session).2
  | wake => (AwaitSession.step declared .wake session).2
  | elsewhere use => (onPart use session).2

/-- What a session comes to when one thing happens after the other. -/
def run (session : AwaitSession) (actions : List AwaitAction) : AwaitSession :=
  actions.foldl (perform declared) session

/-- A run of two parts is the one run behind the other. -/
theorem run_append (session : AwaitSession) (actions more : List AwaitAction) :
    run declared session (actions ++ more) = run declared (run declared session actions) more :=
  List.foldl_append

/-- What the host is answered when it polls the await. -/
def answer (session : AwaitSession) : Reply ε := (AwaitSession.step declared .poll session).1

/-- The await is polled, and then a number of times the waker is used and it is polled again. -/
def wakesAndPolls : (times : Nat) → List AwaitAction
  | 0 => [poll]
  | times + 1 => poll :: wake :: wakesAndPolls times

theorem wakesAndPolls_of_ne {action : AwaitAction} {actions : List AwaitAction} {times : Nat}
    (within : (wakesAndPolls times).Sublist (action :: actions)) (differs : action ≠ poll) :
    (wakesAndPolls times).Sublist actions := by
  cases times <;> exact within.of_cons_of_ne differs.symm

theorem wake_wakesAndPolls_of_ne {action : AwaitAction} {actions : List AwaitAction} {times : Nat}
    (within : (wake :: wakesAndPolls times).Sublist (action :: actions)) (differs : action ≠ wake) :
    (wake :: wakesAndPolls times).Sublist actions :=
  within.of_cons_of_ne differs.symm

end AwaitAction

namespace AwaitedFuture

variable {base : AwaitSession} {work : Work} {left : List Pause} {made : Nat}
  {awaited : AwaitedFuture}
  {ε : Type} {declared : Read ε}

/-- A wake reaches the future if a waker was kept. -/
theorem perform_wake {session : AwaitSession} {future : Handle}
    (started : session.started = some future) :
    AwaitAction.perform declared session .wake =
      if session.futures.wakers.contains future then
        (Futures.wake AwaitSession.host future session).2
      else session := by
  have asked : AwaitSession.step declared .wake session =
    (if session.futures.wakers.contains (session.started.getD .null) then do
        Futures.wake AwaitSession.host (session.started.getD .null)
        return .flag true
      else return .flag false : StateM AwaitSession (Reply ε)) session := rfl
  change (AwaitSession.step declared .wake session).2 = _
  rw [asked, started, Option.getD_some]
  cases session.futures.wakers.contains future <;> rfl

theorem Suspended.elsewhere (suspended : Suspended base work left made awaited) (ledger : Ledger) :
    Suspended base work left made { awaited with ledger := ledger } :=
  ⟨⟨suspended.progress, suspended.count, suspended.keeps, suspended.log⟩, suspended.await,
    suspended.slot, suspended.continuations, suspended.waker⟩

/-- An await that is poised may have been woken. -/
theorem Poised.withSlot (poised : Poised base work left awaited) (woken : Bool) :
    Poised base work left { awaited with slot := .noted woken } := by
  cases poised with
  | unpolled underway await _ _ continuations =>
      exact .unpolled ⟨underway.progress, underway.count, underway.keeps, underway.log⟩ await
        woken rfl continuations
  | resumed underway await _ _ continuations =>
      exact .resumed ⟨underway.progress, underway.count, underway.keeps, underway.log⟩ await
        woken rfl continuations

/-- An await stays poised whatever others do with the ledger. -/
theorem Poised.elsewhere (poised : Poised base work left awaited) (ledger : Ledger) :
    Poised base work left { awaited with ledger := ledger } := by
  cases poised with
  | unpolled underway await woken idle continuations =>
      exact .unpolled ⟨underway.progress, underway.count, underway.keeps, underway.log⟩ await
        woken idle continuations
  | resumed underway await woken idle continuations =>
      exact .resumed ⟨underway.progress, underway.count, underway.keeps, underway.log⟩ await
        woken idle continuations

theorem Poised.idle (poised : Poised base work left awaited) :
    ∃ woken, awaited.slot = .noted woken := by
  cases poised with
  | unpolled _ _ woken idle => exact ⟨woken, idle⟩
  | resumed _ _ woken idle => exact ⟨woken, idle⟩

variable (prepared : base.Prepared work.pauses.length)

include prepared

/-! ### An await that is suspended -/

/-- A poll of an await that is suspended changes nothing. -/
theorem Suspended.advance (declared : Read ε)
    (suspended : Suspended base work left made awaited) :
    AwaitSession.advance declared (awaited.session base base.upcoming) =
      (.pending, awaited.session base base.upcoming) := by
  have few : made ≤ work.pauses.length :=
    Nat.le_trans (Nat.le_succ made) (Nat.le.intro suspended.count)
  have fuel : (awaited.session base base.upcoming).fuel = 2 * left.length + 7 + 1 :=
    fuel_session prepared suspended.progress
  have status := Promises.status_pledged (prepared.continuations.later made)
    (prepared.room_later few) ()
  have waiting : Await.statusIn (awaited.session base base.upcoming) (base.continuation made) =
      .waiting := by
    rw [show Await.statusIn (awaited.session base base.upcoming) (base.continuation made) =
      awaited.continuations.status (base.continuation made) from rfl, suspended.continuations]
    exact status
  have ran : Await.run Caller.inProcess AwaitSession.points declared
      (awaited.session base base.upcoming).fuel awaited.await (awaited.session base base.upcoming) =
      ((awaited.await, none), awaited.session base base.upcoming) := by
    rw [fuel, suspended.await]
    exact Await.run_of_suspended (Await.advance_waiting waiting)
  have going : awaited.await ≠ .ended := suspended.await ▸ nofun
  exact advance_of_run going ran

/-- The waker lets an await that is suspended go on. -/
theorem Suspended.wake (declared : Read ε)
    (suspended : Suspended base work left made awaited) :
    ∃ after, Poised base work left after ∧
      AwaitAction.perform declared (awaited.session base base.upcoming) .wake =
        after.session base base.upcoming := by
  have few : made ≤ work.pauses.length :=
    Nat.le_trans (Nat.le_succ made) (Nat.le.intro suspended.count)
  let resumed : AwaitedFuture := { awaited with slot := .empty }
  have heard := hearing_pledged prepared few
    (show resumed.continuations = _ from suspended.continuations) .wake
  refine ⟨{ resumed with
    continuations := (base.continuations.later made).fulfilled
      (base.continuation made) PollCode.wake.number },
    .resumed ⟨suspended.progress, suspended.count, suspended.keeps, suspended.log⟩
      suspended.await false rfl rfl, ?_⟩
  have started : (awaited.session base base.upcoming).started = some base.upcoming := rfl
  rw [perform_wake started,
    if_pos (show (awaited.session base base.upcoming).futures.wakers.contains _ = true
      from suspended.waker)]
  unfold Futures.wake
  rw [decide_session prepared.fresh, suspended.slot]
  exact congrArg (fun awaited : AwaitedFuture => awaited.session base base.upcoming) heard

/-! ### An await that goes on -/

/-- The waker leaves an await that goes on as it is. -/
theorem Poised.wake (declared : Read ε) (poised : Poised base work left awaited) :
    ∃ after, Poised base work left after ∧
      AwaitAction.perform declared (awaited.session base base.upcoming) .wake =
        after.session base base.upcoming := by
  obtain ⟨woken, idle⟩ := poised.idle
  have started : (awaited.session base base.upcoming).started = some base.upcoming := rfl
  rw [perform_wake started]
  split
  · refine ⟨{ awaited with slot := .noted true }, poised.withSlot true, ?_⟩
    rw [wake_session prepared.fresh woken idle]
  · exact ⟨awaited, poised, rfl⟩

/-! ### An await that has resolved -/

/-- Whatever happens then, the await stays resolved, and a poll is told that it has ended. -/
theorem Resolved.perform (declared : Read ε) (resolved : Resolved base work awaited)
    (action : AwaitAction) :
    (∃ after, Resolved base work after ∧
      AwaitAction.perform declared (awaited.freed base base.upcoming) action =
        after.freed base base.upcoming) ∧
      AwaitAction.answer declared (awaited.freed base base.upcoming) = .gone := by
  have gone : AwaitSession.advance declared (awaited.freed base base.upcoming) =
      (.gone, awaited.freed base base.upcoming) := by
    unfold AwaitSession.advance
    rw [bind_apply, get_apply]
    exact congrFun (if_pos resolved.await) _
  refine ⟨?_, congrArg Prod.fst gone⟩
  cases action with
  | poll => exact ⟨awaited, resolved, congrArg Prod.snd gone⟩
  | elsewhere use =>
      exact ⟨{ awaited with ledger := (use awaited.ledger).2 },
        ⟨resolved.await, resolved.continuations, resolved.log⟩, rfl⟩
  | wake =>
      refine ⟨awaited, resolved, ?_⟩
      have started : (awaited.freed base base.upcoming).started = some base.upcoming := rfl
      have unknown : (base.futures.table.later 1).find? base.upcoming = none := prepared.fresh
      have ignored :
          Futures.wake AwaitSession.host base.upcoming (awaited.freed base base.upcoming) =
          ((), awaited.freed base base.upcoming) := by
        unfold Futures.wake Futures.decide
        rw [bind_apply, show (Futures.current : StateM AwaitSession Futures)
          (awaited.freed base base.upcoming) =
            ((awaited.freed base base.upcoming).futures, awaited.freed base base.upcoming) from rfl]
        dsimp only
        rw [show (awaited.freed base base.upcoming).futures.table.find? base.upcoming = none
          from unknown]
        rfl
      rw [perform_wake started, ignored]
      split <;> rfl

/-- An await that is resolved stays so, whatever happens. -/
theorem Resolved.run (declared : Read ε) (resolved : Resolved base work awaited)
    (actions : List AwaitAction) :
    ∃ after, Resolved base work after ∧
      AwaitAction.run declared (awaited.freed base base.upcoming) actions =
        after.freed base base.upcoming := by
  induction actions generalizing awaited with
  | nil => exact ⟨awaited, resolved, rfl⟩
  | cons action rest ih =>
      obtain ⟨⟨between, still, performed⟩, _⟩ := resolved.perform prepared declared action
      obtain ⟨after, last, ran⟩ := ih still
      refine ⟨after, last, ?_⟩
      rw [← ran, ← performed]
      rfl

end AwaitedFuture

/-! ## What happens one after the other -/

namespace AwaitSession

variable {base session : AwaitSession} {work : Work} {left : List Pause} {awaited : AwaitedFuture}
  {actions early late : List AwaitAction} {ε : Type} {declared : Read ε}

/-- The plain call of a body that ends as the work does. -/
def plainCall (base : AwaitSession) (work : Work) (declared : Read ε) (ledger : Ledger) :
    Outcome (CallError ε) Passed × Ledger :=
  ((Caller.inProcess : Caller Ledger).call declared
    (Envelope.outputOrError base.futures.channel work.ending)).observe ledger

/-- The await is pending until it is polled once more, and resolves then as the plain call. -/
structure Resolves (declared : Read ε) (base : AwaitSession) (work : Work)
    (session : AwaitSession) (early : List AwaitAction) : Prop where
  pending : ∀ before after, early = before ++ .poll :: after →
    AwaitAction.answer declared (AwaitAction.run declared session before) = .pending
  answered : AwaitAction.answer declared (AwaitAction.run declared session early) =
    Reply.ofCall .passed
      (plainCall base work declared (AwaitAction.run declared session early).futures.ledger).1
  closed : ∃ awaited, AwaitedFuture.Resolved base work awaited ∧
    awaited.ledger =
      (plainCall base work declared (AwaitAction.run declared session early).futures.ledger).2 ∧
    AwaitAction.run declared session (early ++ [.poll]) = awaited.freed base base.upcoming

/-- An action that leaves the await pending comes before those that resolve it. -/
theorem Resolves.cons {action : AwaitAction}
    (resolves : Resolves declared base work (AwaitAction.perform declared session action) early)
    (pending : action = .poll → AwaitAction.answer declared session = .pending) :
    Resolves declared base work session (action :: early) where
  pending before after split := by
    cases before with
    | nil =>
        cases split
        exact pending rfl
    | cons first rest =>
        cases split
        exact resolves.pending rest after rfl
  answered := resolves.answered
  closed := resolves.closed

/-- What happens first leaves the rest to resolve the await. -/
theorem resolves_cons {action : AwaitAction}
    (resolves : ∃ early late, actions = early ++ .poll :: late ∧
      Resolves declared base work (AwaitAction.perform declared session action) early)
    (pending : action = .poll → AwaitAction.answer declared session = .pending) :
    ∃ early late, action :: actions = early ++ .poll :: late ∧
      Resolves declared base work session early := by
  obtain ⟨early, late, rfl, resolves⟩ := resolves
  exact ⟨action :: early, late, rfl, resolves.cons pending⟩

/-- Whether the await goes on or is suspended, it resolves if the waker is used and it is polled
again as often as the work still pauses in silence. -/
theorem resolves_of_wakesAndPolls (declared : Read ε)
    (prepared : base.Prepared work.pauses.length) {times : Nat}
    (bound : silences left ≤ times) :
    (AwaitedFuture.Poised base work left awaited →
      (AwaitAction.wakesAndPolls times).Sublist actions →
      ∃ early late, actions = early ++ .poll :: late ∧
        Resolves declared base work (awaited.session base base.upcoming) early) ∧
    ∀ made, AwaitedFuture.Suspended base work left made awaited →
      (.wake :: AwaitAction.wakesAndPolls times).Sublist actions →
      ∃ early late, actions = early ++ .poll :: late ∧
        Resolves declared base work (awaited.session base base.upcoming) early := by
  induction actions generalizing times left awaited with
  | nil =>
      refine ⟨fun _ within => ?_, fun _ _ within => ?_⟩
      · cases times <;> cases within
      · cases within
  | cons action rest ih =>
      refine ⟨fun poised within => ?_, fun made suspended within => ?_⟩
      · cases action with
        | poll =>
            rcases poised.advance prepared with
              ⟨fewer, made, after, suspended, less, polled⟩ | ⟨after, resolved, kept, polled⟩
            · obtain ⟨times, rfl⟩ : ∃ earlier, times = earlier + 1 := ⟨times - 1, by omega⟩
              have onwards := (ih (by omega)).2 made suspended (List.cons_sublist_cons.mp within)
              have reached :
                  AwaitAction.perform declared (awaited.session base base.upcoming) .poll =
                after.session base base.upcoming := congrArg Prod.snd polled
              rw [← reached] at onwards
              exact resolves_cons onwards fun _ => congrArg Prod.fst polled
            · refine ⟨[], rest, rfl, ?_, congrArg Prod.fst polled, after, resolved, kept,
                congrArg Prod.snd polled⟩
              intro before after split
              cases before <;> cases split
        | wake =>
            obtain ⟨after, still, woken⟩ := poised.wake prepared declared
            have onwards := (ih bound).1 still (AwaitAction.wakesAndPolls_of_ne within nofun)
            rw [← woken] at onwards
            exact resolves_cons onwards nofun
        | elsewhere use =>
            have onwards := (ih bound).1 (poised.elsewhere (use awaited.ledger).2)
              (AwaitAction.wakesAndPolls_of_ne within nofun)
            exact resolves_cons onwards nofun
      · cases action with
        | poll =>
            have polled := suspended.advance prepared declared
            have onwards := (ih bound).2 made suspended
              (AwaitAction.wake_wakesAndPolls_of_ne within nofun)
            have reached : AwaitAction.perform declared (awaited.session base base.upcoming) .poll =
              awaited.session base base.upcoming := congrArg Prod.snd polled
            rw [← reached] at onwards
            exact resolves_cons onwards fun _ => congrArg Prod.fst polled
        | wake =>
            obtain ⟨after, poised, woken⟩ := suspended.wake prepared declared
            have onwards := (ih bound).1 poised (List.cons_sublist_cons.mp within)
            rw [← woken] at onwards
            exact resolves_cons onwards nofun
        | elsewhere use =>
            have onwards := (ih bound).2 made (suspended.elsewhere (use awaited.ledger).2)
              (AwaitAction.wake_wakesAndPolls_of_ne within nofun)
            exact resolves_cons onwards nofun

/-- The session has what the base has, and the log tells how the future was awaited: it was polled
once more than it paused, and then its result was fetched and it was freed. -/
structure Settled (base : AwaitSession) (work : Work) (session : AwaitSession) : Prop where
  futures : session.futures.table.entries = base.futures.table.entries
  continuations : session.continuations.table.entries = base.continuations.table.entries
  kept : session.continuations.kept = base.continuations.kept
  log : session.log = base.log ++ pollings work.label (work.pauses.length + 1) ++
    [AwaitEvent.dropped work.label] ++ [AwaitEvent.called "complete"] ++ [AwaitEvent.called "free"]

/-- An await that is resolved leaves nothing behind. -/
theorem settled_freed (resolved : AwaitedFuture.Resolved base work awaited) :
    Settled base work (awaited.freed base base.upcoming) := by
  obtain ⟨count, continuations⟩ := resolved.continuations
  refine ⟨rfl, ?_, ?_, resolved.log⟩
  · change awaited.continuations.table.entries = _
    rw [continuations]
    rfl
  · change awaited.continuations.kept = _
    rw [continuations]
    rfl

/-- How an await resolves along the events of its log. -/
structure Resolution (declared : Read ε) (base : AwaitSession) (work : Work)
    (early late : List AwaitAction) : Prop where
  /-- Until it is polled for the last time, it is pending. -/
  pending : ∀ before after, early = before ++ .poll :: after →
    AwaitAction.answer declared (AwaitAction.run declared (spawn work base).2 before) = .pending
  /-- Then it resolves as the plain call would that was made instead of that poll. -/
  answered :
    let asked := AwaitAction.run declared (spawn work base).2 early
    let call := plainCall base work declared asked.futures.ledger
    AwaitAction.answer declared asked = Reply.ofCall .passed call.1 ∧
      (AwaitAction.perform declared asked .poll).futures.ledger = call.2
  /-- From then on it is gone. -/
  gone : ∀ before after, late = before ++ .poll :: after →
    AwaitAction.answer declared
      (AwaitAction.run declared (spawn work base).2 (early ++ .poll :: before)) = .gone
  settled : ∀ before after, late = before ++ after →
    Settled base work (AwaitAction.run declared (spawn work base).2 (early ++ .poll :: before))

/-- A future that is spawned is awaited by nobody yet. -/
theorem spawn_eq (prepared : base.Prepared work.pauses.length) :
    (spawn work base).2 = AwaitedFuture.session base base.upcoming
      ⟨base.futures.ledger, .running work, .empty, base.futures.wakers, base.continuations,
        .unpolled base.upcoming, base.log⟩ := by
  have inserted := Table.insert_of_room prepared.room (⟨.running work, .empty⟩ : CoreFuture)
  have issued : (onPart (Futures.spawn work) : StateM AwaitSession (Except HandleError Handle))
      base = (.ok base.upcoming, { base with
        futures := { base.futures with
          table := base.futures.table.holding base.upcoming ⟨.running work, .empty⟩ } }) := by
    rw [onPart_apply]
    unfold Futures.spawn
    rw [show (Part.get base : Futures).table = base.futures.table from rfl, inserted]
    rfl
  unfold spawn
  rw [bind_apply, issued]
  rfl

/-- **An await resolves as a call does.** A future is started whose work pauses a number of times
and ends in any way. Whenever the work pauses without waking itself, the waker is used afterwards
and the await is polled again. Then the await resolves, as the plain call does of a body that ends
as the work does; the work was run once more than it paused; and the registry and the continuations
are left as they were. -/
theorem await_resolves_as_call (declared : Read ε)
    (prepared : base.Prepared work.pauses.length)
    (keeps : ∀ pause ∈ work.pauses, pause.isSilent = true → pause.keepsWaker = true)
    (timely : (AwaitAction.wakesAndPolls (silences work.pauses)).Sublist actions) :
    ∃ early late, actions = early ++ .poll :: late ∧ Resolution declared base work early late := by
  have poised : AwaitedFuture.Poised base work work.pauses
      ⟨base.futures.ledger, .running work, .empty, base.futures.wakers, base.continuations,
        .unpolled base.upcoming, base.log⟩ :=
    .unpolled ⟨rfl, Nat.zero_add _, keeps, (List.append_nil _).symm⟩ rfl false rfl rfl
  obtain ⟨early, late, rfl, resolves⟩ :=
    (resolves_of_wakesAndPolls declared prepared (Nat.le_refl _)).1 poised timely
  rw [← spawn_eq prepared] at resolves
  obtain ⟨awaited, resolved, ledger, closed⟩ := resolves.closed
  have onwards (before : List AwaitAction) : ∃ after, AwaitedFuture.Resolved base work after ∧
      AwaitAction.run declared (spawn work base).2 (early ++ .poll :: before) =
        after.freed base base.upcoming := by
    obtain ⟨after, last, ran⟩ := resolved.run prepared declared before
    refine ⟨after, last, ?_⟩
    rw [← ran, ← closed, ← AwaitAction.run_append, List.append_assoc]
    rfl
  refine ⟨early, late, rfl, resolves.pending, ⟨resolves.answered, ?_⟩, ?_, ?_⟩
  · have last :
        AwaitAction.perform declared (AwaitAction.run declared (spawn work base).2 early) .poll =
        awaited.freed base base.upcoming :=
          (AwaitAction.run_append declared _ early [.poll]).symm.trans closed
    rw [last]
    exact ledger
  · intro before _ _
    obtain ⟨after, last, ran⟩ := onwards before
    rw [ran]
    exact (last.perform prepared declared .poll).2
  · intro before _ _
    obtain ⟨after, last, ran⟩ := onwards before
    rw [ran]
    exact settled_freed last

/-- A session that was just started has room. -/
theorem prepared_start (registry : String) (channel : Channel) (future : Handle) {pauses : Nat}
    (few : pauses < Handle.greatest) :
    (start registry channel .faithful future).Prepared pauses :=
  ⟨rfl, .named _, Nat.one_pos, Nat.le_trans (Nat.succ_le_succ (Nat.zero_le _)) few, .named _,
    Nat.add_comm pauses 1 ▸ few⟩

/-- Work that pauses twice, woken and polled twice. -/
theorem idle_await_resolves_as_call : ∃ early late,
    [AwaitAction.wake, AwaitAction.poll, AwaitAction.wake, AwaitAction.poll] =
      early ++ .poll :: late ∧
      Resolution Utf8.read (start "futures" .void .faithful .null)
        (FutureDriver.idle [⟨true, 0⟩, ⟨false, 1⟩]) early late :=
  await_resolves_as_call Utf8.read (prepared_start _ _ _ (by decide)) (by decide)
    (.cons _ (.cons_cons _ (.cons_cons _ (.cons_cons _ .slnil))))

end AwaitSession

end Boundary
