import Boundary.Proofs.Future.AwaitedFuture

/-! # One poll of an await

A session attends to one future of its own core. An await that goes on when it is polled
(`Boundary.AwaitedFuture.Poised`) runs the work of the future until this pauses without having been
woken, and is suspended (`Boundary.AwaitedFuture.Suspended`), or until the work ends, and resolves
as the plain call does that ends so (`Boundary.AwaitedFuture.Resolved`).
-/

namespace Boundary

/-- The work does not wake itself when it pauses. -/
def Pause.isSilent (pause : Pause) : Bool := pause.wakes == 0

/-- How often work pauses without waking itself. -/
def silences (pauses : List Pause) : Nat := pauses.countP Pause.isSilent

/-- What is logged of a number of polls of the same work. -/
def pollings (label : String) (count : Nat) : List AwaitEvent :=
  (List.replicate count [AwaitEvent.called "poll", AwaitEvent.polled label]).flatten

/-- The log of one poll more. -/
theorem pollings_succ (label : String) (count : Nat) :
    pollings label (count + 1) =
      pollings label count ++ [AwaitEvent.called "poll"] ++ [AwaitEvent.polled label] := by
  unfold pollings
  rw [List.replicate_succ', List.flatten_append, List.append_assoc]
  rfl

namespace AwaitSession

/-- A session that a future can be started in, with handles for the continuations of its polls. -/
structure Prepared (base : AwaitSession) (pauses : Nat) : Prop where
  faithful : base.conduct = .faithful
  futures : base.futures.table.Orderly
  first : 0 < base.futures.table.next
  room : base.futures.table.next ≤ Handle.greatest
  continuations : base.continuations.Orderly
  spare : base.continuations.table.next + pauses ≤ Handle.greatest

variable {base : AwaitSession} {pauses : Nat}

/-- The handle of the future that is started next. -/
def upcoming (base : AwaitSession) : Handle := base.futures.table.upcoming

/-- The handle of the continuation that is made after others. -/
def continuation (base : AwaitSession) (made : Nat) : Handle :=
  (base.continuations.later made).table.upcoming

namespace Prepared

theorem fresh (prepared : base.Prepared pauses) :
    base.futures.table.find? base.upcoming = none :=
  prepared.futures.find?_upcoming prepared.room

/-- The next handle is one that can be awaited. -/
theorem isValid_upcoming (prepared : base.Prepared pauses) : base.upcoming.isValid = true := by
  have number : base.upcoming.raw.toNat = base.futures.table.next :=
    Table.toNat_upcoming prepared.room
  unfold Handle.isValid
  rw [number]
  exact Bool.and_eq_true_iff.mpr ⟨decide_eq_true prepared.first, decide_eq_true prepared.room⟩

theorem room_later (prepared : base.Prepared pauses) {made : Nat} (few : made ≤ pauses) :
    (base.continuations.later made).table.next ≤ Handle.greatest :=
  Nat.le_trans (Nat.add_le_add_left few _) prepared.spare

end Prepared

end AwaitSession

/-! ## A single poll of the await -/

namespace AwaitedFuture

/-- The work of the one future was polled a number of times and still pauses as given. -/
structure Underway (base : AwaitSession) (work : Work) (left : List Pause) (made : Nat)
    (awaited : AwaitedFuture) : Prop where
  progress : awaited.progress = .running { work with pauses := left }
  count : made + left.length = work.pauses.length
  keeps : ∀ pause ∈ left, pause.isSilent = true → pause.keepsWaker = true
  log : awaited.log = base.log ++ pollings work.label made

/-- The await is suspended, and its continuation is open and remembered. -/
structure Suspended (base : AwaitSession) (work : Work) (left : List Pause) (made : Nat)
    (awaited : AwaitedFuture) : Prop extends Underway base work left (made + 1) awaited where
  await : awaited.await = .parked base.upcoming (base.continuation made)
  slot : awaited.slot = .waiting (base.continuation made).raw
  continuations : awaited.continuations =
    (base.continuations.later made).pledged (base.continuation made) ()
  waker : awaited.wakers.contains base.upcoming = true

/-- The await goes on when it is polled: it was not polled yet, or its continuation was kept. -/
inductive Poised (base : AwaitSession) (work : Work) (left : List Pause) : AwaitedFuture → Prop
  | unpolled {awaited : AwaitedFuture} (underway : Underway base work left 0 awaited)
      (await : awaited.await = .unpolled base.upcoming)
      (woken : Bool) (idle : awaited.slot = .noted woken)
      (continuations : awaited.continuations = base.continuations) : Poised base work left awaited
  | resumed {awaited : AwaitedFuture} {made : Nat}
      (underway : Underway base work left (made + 1) awaited)
      (await : awaited.await = .parked base.upcoming (base.continuation made))
      (woken : Bool) (idle : awaited.slot = .noted woken)
      (continuations : awaited.continuations = (base.continuations.later made).fulfilled
        (base.continuation made) PollCode.wake.number) : Poised base work left awaited

/-- The await has resolved. -/
structure Resolved (base : AwaitSession) (work : Work) (awaited : AwaitedFuture) : Prop where
  await : awaited.await = .ended
  continuations : ∃ count, awaited.continuations = base.continuations.later count
  log : awaited.log = base.log ++ pollings work.label (work.pauses.length + 1) ++
    [AwaitEvent.dropped work.label] ++ [AwaitEvent.called "complete"] ++ [AwaitEvent.called "free"]

variable {base : AwaitSession} {work : Work} {left rest : List Pause} {made fuel : Nat}
  {awaited : AwaitedFuture} {ε : Type} {declared : Read ε}
  (prepared : base.Prepared work.pauses.length)

include prepared

/-- An await makes its next continuation. -/
theorem make_session (few : made ≤ work.pauses.length)
    (continuations : awaited.continuations = base.continuations.later made) :
    (onPart (Promises.make () : StateM Continuations _) : StateM AwaitSession _)
        (awaited.session base base.upcoming) =
      (.ok (base.continuation made), { awaited with
        continuations := (base.continuations.later made).pledged
          (base.continuation made) () }.session base base.upcoming) := by
  have made := Promises.make_of_room (prepared.room_later few) ()
  rw [onPart_apply,
    show Part.get (awaited.session base base.upcoming) = awaited.continuations from rfl,
    continuations, made]
  rfl

/-- A poll by the await is logged, and reaches the registry. -/
theorem poll_session (data : UInt64) :
    AwaitSession.points.poll base.upcoming data (awaited.session base base.upcoming) =
      Futures.poll AwaitSession.host base.upcoming data ({ awaited with
        log := awaited.log ++ [AwaitEvent.called "poll"] }.session base base.upcoming) := by
  let asked : AwaitedFuture := { awaited with log := awaited.log ++ [AwaitEvent.called "poll"] }
  have faithful : (asked.session base base.upcoming).conduct = .faithful := prepared.faithful
  change AwaitSession.poll base.upcoming data (awaited.session base base.upcoming) = _
  unfold AwaitSession.poll
  rw [bind_apply, bind_apply, get_apply, record_session]
  dsimp only
  rw [faithful]

/-- The continuation of the latest poll is resumed. -/
theorem hearing_pledged (few : made ≤ work.pauses.length)
    (continuations : awaited.continuations =
      (base.continuations.later made).pledged (base.continuation made) ()) (code : PollCode) :
    awaited.hearing (some ⟨(base.continuation made).raw, code⟩) =
      { awaited with
        continuations := (base.continuations.later made).fulfilled
          (base.continuation made) code.number } := by
  have kept := Promises.keep_pledged (prepared.continuations.later made)
    (prepared.room_later few) () code.number
  unfold hearing Continuations.resume
  rw [continuations]
  exact congrArg (fun kept => { awaited with continuations := kept.2 }) kept

/-- The await finds the code that its continuation was resumed with. -/
theorem statusIn_fulfilled (few : made ≤ work.pauses.length) {code : PollCode}
    (continuations : awaited.continuations = (base.continuations.later made).fulfilled
      (base.continuation made) code.number) :
    Await.statusIn (awaited.session base base.upcoming) (base.continuation made) =
      .kept code.number := by
  have kept := Promises.status_fulfilled (prepared.continuations.later made)
    (prepared.room_later few) code.number
  change awaited.continuations.status (base.continuation made) = _
  rw [continuations]
  exact kept

/-- What is left when the continuation of the latest poll is forgotten. -/
theorem forgetting_fulfilled (few : made ≤ work.pauses.length) {code : PollCode}
    (continuations : awaited.continuations = (base.continuations.later made).fulfilled
      (base.continuation made) code.number) :
    Await.forgetting (base.continuation made) (awaited.session base base.upcoming) =
      { awaited with
        continuations := base.continuations.later (made + 1) }.session base base.upcoming := by
  have forgotten := Promises.forget_fulfilled (prepared.continuations.later made)
    (prepared.room_later few) code.number
  have started : Await.forgetting (base.continuation made) (awaited.session base base.upcoming) =
    { awaited with
      continuations := (Promises.forget (base.continuation made)
        awaited.continuations).2 }.session base base.upcoming := rfl
  rw [started, continuations]
  exact congrArg (fun left =>
    { awaited with continuations := left.2 }.session base base.upcoming) forgotten

/-- An await that was woken polls again. -/
theorem advance_resumed (few : made ≤ work.pauses.length)
    (continuations : awaited.continuations = (base.continuations.later made).fulfilled
      (base.continuation made) PollCode.wake.number) :
    Await.advance Caller.inProcess AwaitSession.points declared
        (.parked base.upcoming (base.continuation made)) (awaited.session base base.upcoming) =
      (.next (.polling base.upcoming), { awaited with
        continuations := base.continuations.later (made + 1) }.session base base.upcoming) := by
  rw [Await.advance_wake (statusIn_fulfilled prepared few continuations),
    forgetting_fulfilled prepared few continuations]

/-- The future after a poll of work that paused, before the continuation is left. -/
def paused (base : AwaitSession) (work : Work) (pause : Pause) (rest : List Pause) (made : Nat)
    (awaited : AwaitedFuture) : AwaitedFuture :=
  { awaited with
    progress := .running { work with pauses := rest }
    wakers := if pause.keepsWaker then base.upcoming :: awaited.wakers.filter (· != base.upcoming)
      else awaited.wakers
    continuations := (base.continuations.later made).pledged (base.continuation made) ()
    log := base.log ++ pollings work.label (made + 1) }

/-- The await makes a continuation and polls work that pauses. -/
theorem advance_paused {pause : Pause} (underway : Underway base work (pause :: rest) made awaited)
    (continuations : awaited.continuations = base.continuations.later made) (woken : Bool)
    (idle : awaited.slot = .noted woken) :
    let stored := (Slot.noted (woken || decide (0 < pause.wakes))).store
      (base.continuation made).raw
    Await.advance Caller.inProcess AwaitSession.points declared (.polling base.upcoming)
        (awaited.session base base.upcoming) =
      (.next (.parked base.upcoming (base.continuation made)),
        ({ awaited.paused base work pause rest made with slot := stored.2 }.hearing
          stored.1).session base base.upcoming) := by
  intro stored
  have few : made ≤ work.pauses.length := Nat.le.intro underway.count
  let asked : AwaitedFuture := { awaited with
    continuations := (base.continuations.later made).pledged (base.continuation made) ()
    log := awaited.log ++ [AwaitEvent.called "poll"] }
  have polled := poll_paused_session prepared.fresh woken (show asked.slot = _ from idle)
    (base.continuation made).raw (show asked.progress = _ from underway.progress)
  have logged : base.log ++ pollings work.label (made + 1) =
      asked.log ++ [AwaitEvent.polled work.label] := by
    rw [pollings_succ, ← List.append_assoc, ← List.append_assoc, ← underway.log]
  rw [Await.advance_polling_of_ok (make_session prepared few continuations),
    poll_session prepared, polled]
  unfold paused
  rw [logged]

/-- Work that pauses and was woken is polled again at once. -/
theorem run_woken (declared : Read ε) {pause : Pause}
    (underway : Underway base work (pause :: rest) made awaited)
    (continuations : awaited.continuations = base.continuations.later made) (woken : Bool)
    (idle : awaited.slot = .noted woken) (noise : (woken || decide (0 < pause.wakes)) = true) :
    ∃ after, Underway base work rest (made + 1) after ∧ after.slot = .noted false ∧
      after.ledger = awaited.ledger ∧ after.await = awaited.await ∧
      after.continuations = base.continuations.later (made + 1) ∧
      ∀ fuel, Await.run Caller.inProcess AwaitSession.points declared (fuel + 2)
          (.polling base.upcoming) (awaited.session base base.upcoming) =
        Await.run Caller.inProcess AwaitSession.points declared fuel (.polling base.upcoming)
          (after.session base base.upcoming) := by
  have few : made ≤ work.pauses.length := Nat.le.intro underway.count
  let resumed : AwaitedFuture := { awaited.paused base work pause rest made with
    slot := .empty
    continuations := (base.continuations.later made).fulfilled
      (base.continuation made) PollCode.wake.number }
  have advanced : Await.advance Caller.inProcess AwaitSession.points declared
      (.polling base.upcoming) (awaited.session base base.upcoming) =
      (.next (.parked base.upcoming (base.continuation made)),
        resumed.session base base.upcoming) := by
    rw [advance_paused prepared underway continuations woken idle, noise]
    have heard := hearing_pledged prepared few
      (show { awaited.paused base work pause rest made with slot := .empty }.continuations = _
        from rfl) .wake
    exact congrArg (fun awaited : AwaitedFuture => (_, awaited.session base base.upcoming)) heard
  refine ⟨{ resumed with continuations := base.continuations.later (made + 1) },
    ⟨rfl, ?_, ?_, rfl⟩, rfl, rfl, rfl, rfl, ?_⟩
  · have count := underway.count
    rw [List.length_cons] at count
    omega
  · exact fun other member => underway.keeps other (List.mem_cons_of_mem pause member)
  · intro fuel
    rw [Await.run_of_next advanced, Await.run_of_next (advance_resumed prepared few rfl)]

/-- Work that pauses and was not woken suspends the await. -/
theorem run_silent {pause : Pause} (underway : Underway base work (pause :: rest) made awaited)
    (continuations : awaited.continuations = base.continuations.later made)
    (idle : awaited.slot = .noted false) (silent : pause.isSilent = true) :
    ∃ after, Suspended base work rest made after ∧
      Await.run Caller.inProcess AwaitSession.points declared (fuel + 2) (.polling base.upcoming)
          (awaited.session base base.upcoming) =
        ((after.await, none),
          { after with await := awaited.await }.session base base.upcoming) := by
  have few : made ≤ work.pauses.length := Nat.le.intro underway.count
  have quiet : decide (0 < pause.wakes) = false :=
    decide_eq_false (Nat.not_lt.mpr (Nat.le_of_eq (beq_iff_eq.mp silent)))
  have kept : pause.keepsWaker = true := underway.keeps pause List.mem_cons_self silent
  let stored : AwaitedFuture := { awaited.paused base work pause rest made with
    slot := .waiting (base.continuation made).raw }
  have advanced : Await.advance Caller.inProcess AwaitSession.points declared
      (.polling base.upcoming) (awaited.session base base.upcoming) =
      (.next (.parked base.upcoming (base.continuation made)),
        stored.session base base.upcoming) := by
    rw [advance_paused prepared underway continuations false idle, quiet]
    rfl
  have waiting : Await.statusIn (stored.session base base.upcoming) (base.continuation made) =
      .waiting :=
    Promises.status_pledged (prepared.continuations.later made) (prepared.room_later few) ()
  refine ⟨{ stored with await := .parked base.upcoming (base.continuation made) },
    ⟨⟨rfl, ?_, ?_, rfl⟩, rfl, rfl, rfl, ?_⟩, ?_⟩
  · have count := underway.count
    rw [List.length_cons] at count
    omega
  · exact fun other member => underway.keeps other (List.mem_cons_of_mem pause member)
  · change (if pause.keepsWaker then _ else _ : List Handle).contains base.upcoming = true
    rw [if_pos kept, List.contains_cons, beq_self_eq_true, Bool.true_or]
  · rw [Await.run_of_next advanced, Await.run_of_suspended (Await.advance_waiting waiting)]
    rfl

/-- The future after a poll of work that ended, before the continuation is left. -/
def finished (base : AwaitSession) (work : Work) (made : Nat) (again : Bool)
    (wakers : List Handle) (awaited : AwaitedFuture) : AwaitedFuture :=
  { awaited with
    ledger := (work.ending.observe awaited.ledger).2
    progress := .ofOutcome (work.ending.observe awaited.ledger).1
    slot := .noted again
    wakers := wakers
    continuations := (base.continuations.later made).fulfilled
      (base.continuation made) PollCode.ready.number
    log := base.log ++ pollings work.label (made + 1) ++ [AwaitEvent.dropped work.label] }

/-- The await makes a continuation and polls work that ends. -/
theorem advance_finished (declared : Read ε) (underway : Underway base work [] made awaited)
    (continuations : awaited.continuations = base.continuations.later made) (woken : Bool)
    (idle : awaited.slot = .noted woken) :
    ∃ again wakers, Await.advance Caller.inProcess AwaitSession.points declared
        (.polling base.upcoming) (awaited.session base base.upcoming) =
      (.next (.parked base.upcoming (base.continuation made)),
        (awaited.finished base work made again wakers).session base base.upcoming) := by
  have few : made ≤ work.pauses.length := Nat.le.intro underway.count
  let asked : AwaitedFuture := { awaited with
    continuations := (base.continuations.later made).pledged (base.continuation made) ()
    log := awaited.log ++ [AwaitEvent.called "poll"] }
  obtain ⟨again, wakers, polled⟩ :=
    poll_ended_session prepared.fresh woken (show asked.slot = _ from idle)
      (base.continuation made).raw (show asked.progress = _ from underway.progress)
  have logged : base.log ++ pollings work.label (made + 1) =
      asked.log ++ [AwaitEvent.polled work.label] := by
    rw [pollings_succ, ← List.append_assoc, ← List.append_assoc, ← underway.log]
  refine ⟨again, wakers, ?_⟩
  rw [Await.advance_polling_of_ok (make_session prepared few continuations),
    poll_session prepared, polled, hearing_pledged prepared few rfl]
  unfold finished
  rw [logged]

/-- Work that ends resolves the await. -/
theorem run_ended (underway : Underway base work [] made awaited)
    (continuations : awaited.continuations = base.continuations.later made) (woken : Bool)
    (idle : awaited.slot = .noted woken) :
    let call := ((Caller.inProcess : Caller Ledger).call declared
      (Envelope.outputOrError base.futures.channel work.ending)).observe awaited.ledger
    ∃ after, Resolved base work after ∧ after.ledger = call.2 ∧
      Await.run Caller.inProcess AwaitSession.points declared (fuel + 2) (.polling base.upcoming)
          (awaited.session base base.upcoming) =
        ((.ended, some call.1),
          { after with await := awaited.await }.freed base base.upcoming) := by
  intro call
  have few : made ≤ work.pauses.length := Nat.le.intro underway.count
  obtain ⟨again, wakers, advanced⟩ :=
    advance_finished prepared declared underway continuations woken idle
  let ended : AwaitedFuture := awaited.finished base work made again wakers
  have ready := statusIn_fulfilled prepared few (show ended.continuations = _ from rfl)
  let left : AwaitedFuture := { ended with continuations := base.continuations.later (made + 1) }
  let gone : AwaitedFuture := { left with
    ledger := call.2
    progress := .consumed
    log := left.log ++ [AwaitEvent.called "complete"] ++ [AwaitEvent.called "free"] }
  have fetched := fetch_session prepared.fresh again (show left.slot = _ from rfl)
    (show left.progress = _ from rfl)
    (Envelope.observe_call_ended declared base.futures.channel work.ending awaited.ledger)
  have closes : Await.advance Caller.inProcess AwaitSession.points declared
      (.parked base.upcoming (base.continuation made)) (ended.session base base.upcoming) =
      (.ended call.1, gone.freed base base.upcoming) := by
    rw [Await.advance_ready ready, forgetting_fulfilled prepared few rfl]
    exact fetched
  have count : made = work.pauses.length := underway.count
  refine ⟨{ gone with await := .ended }, ⟨rfl, ⟨made + 1, rfl⟩, ?_⟩, rfl, ?_⟩
  · rw [← count]
    rfl
  · rw [Await.run_of_next advanced, Await.run_of_ended closes]
    rfl

/-- From a poll on, the await is suspended by a pause of the work that is silent, or resolves as the
plain call does. -/
theorem run_polling (enough : 2 * left.length + 2 ≤ fuel)
    (underway : Underway base work left made awaited)
    (continuations : awaited.continuations = base.continuations.later made) (woken : Bool)
    (idle : awaited.slot = .noted woken) :
    let call := ((Caller.inProcess : Caller Ledger).call declared
      (Envelope.outputOrError base.futures.channel work.ending)).observe awaited.ledger
    let ran := Await.run Caller.inProcess AwaitSession.points declared fuel
      (.polling base.upcoming) (awaited.session base base.upcoming)
    (∃ rest made after, Suspended base work rest made after ∧ silences rest < silences left ∧
      ran = ((after.await, none),
        { after with await := awaited.await }.session base base.upcoming)) ∨
    ∃ after, Resolved base work after ∧ after.ledger = call.2 ∧
      ran = ((.ended, some call.1),
        { after with await := awaited.await }.freed base base.upcoming) := by
  dsimp only
  obtain ⟨spare, rfl⟩ : ∃ spare, fuel = spare + 2 := ⟨fuel - 2, by omega⟩
  induction left generalizing made spare awaited woken with
  | nil => exact .inr (run_ended prepared underway continuations woken idle)
  | cons pause rest ih =>
      rw [List.length_cons] at enough
      cases noise : woken || decide (0 < pause.wakes) with
      | true =>
          obtain ⟨next, goesOn, empty, ledger, await, later, ran⟩ :=
            run_woken prepared declared underway continuations woken idle noise
          obtain ⟨less, rfl⟩ : ∃ less, spare = less + 2 := ⟨spare - 2, by omega⟩
          rw [ran, ← ledger, ← await]
          rcases ih goesOn later false empty less (by omega) with
            ⟨last, times, after, suspended, fewer, stopped⟩ | resolved
          · refine .inl ⟨last, times, after, suspended, ?_, stopped⟩
            exact Nat.lt_of_lt_of_le fewer (List.sublist_cons_self pause rest).countP_le
          · exact .inr resolved
      | false =>
          obtain ⟨rfl, still⟩ := Bool.or_eq_false_iff.mp noise
          have silent : pause.isSilent = true := by
            have none := of_decide_eq_false still
            exact beq_iff_eq.mpr (Nat.eq_zero_of_not_pos none)
          obtain ⟨after, suspended, ran⟩ :=
            run_silent prepared underway continuations idle silent
          refine .inl ⟨rest, made, after, suspended, ?_, ran⟩
          unfold silences
          rw [List.countP_cons_of_pos silent]
          exact Nat.lt_succ_self _

/-- There is fuel for as many polls as the work has pauses left. -/
theorem fuel_session (progress : awaited.progress = .running { work with pauses := left }) :
    (awaited.session base base.upcoming).fuel = 2 * left.length + 8 := by
  have found : (awaited.session base base.upcoming).futures.table.find? base.upcoming =
    some ⟨awaited.progress, awaited.slot⟩ := find?_session prepared.fresh
  rw [progress] at found
  have bound : (awaited.session base base.upcoming).started.bind
      (awaited.session base base.upcoming).futures.table.find? =
        some ⟨.running { work with pauses := left }, awaited.slot⟩ := found
  unfold AwaitSession.fuel
  rw [bound]

omit prepared in
theorem Poised.progress (poised : Poised base work left awaited) :
    awaited.progress = .running { work with pauses := left } := by
  cases poised with
  | unpolled underway => exact underway.progress
  | resumed underway => exact underway.progress

/-- The first step of an await that goes on leads to the next poll. -/
theorem Poised.begins (declared : Read ε) (poised : Poised base work left awaited) (fuel : Nat) :
    ∃ made woken start, Underway base work left made start ∧ start.slot = .noted woken ∧
      start.continuations = base.continuations.later made ∧ start.ledger = awaited.ledger ∧
      start.await = awaited.await ∧ awaited.await ≠ .ended ∧
      Await.run Caller.inProcess AwaitSession.points declared (fuel + 1) awaited.await
          (awaited.session base base.upcoming) =
        Await.run Caller.inProcess AwaitSession.points declared fuel (.polling base.upcoming)
          (start.session base base.upcoming) := by
  cases poised with
  | unpolled underway await woken idle continuations =>
      refine ⟨0, woken, awaited, underway, idle, continuations, rfl, rfl, await ▸ nofun, ?_⟩
      rw [await, Await.run_of_next (Await.advance_unpolled prepared.isValid_upcoming)]
  | @resumed made underway await woken idle continuations =>
      have few : made ≤ work.pauses.length :=
        Nat.le_trans (Nat.le_succ made) (Nat.le.intro underway.count)
      refine ⟨made + 1, woken, { awaited with
        continuations := base.continuations.later (made + 1) },
        ⟨underway.progress, underway.count, underway.keeps, underway.log⟩,
        idle, rfl, rfl, rfl, await ▸ nofun, ?_⟩
      rw [await, Await.run_of_next (advance_resumed prepared few continuations), await]

omit prepared in
/-- Advancing an await takes what its run leads to. -/
theorem advance_of_run {session after : AwaitSession} {await : Await}
    {outcome : Option (Outcome (CallError ε) Passed)} (going : session.await ≠ .ended)
    (ran : session.await.run Caller.inProcess AwaitSession.points declared session.fuel session =
      ((await, outcome), after)) :
    AwaitSession.advance declared session =
      (outcome.elim .pending (Reply.ofCall .passed), { after with await := await }) := by
  unfold AwaitSession.advance
  rw [bind_apply, get_apply]
  dsimp only
  rw [if_neg going, bind_apply, ran]
  cases outcome <;> rfl

/-- **One poll of an await that goes on** suspends it with fewer silent pauses to come, or resolves
it as the plain call does. -/
theorem Poised.advance (poised : Poised base work left awaited) :
    let call := ((Caller.inProcess : Caller Ledger).call declared
      (Envelope.outputOrError base.futures.channel work.ending)).observe awaited.ledger
    let polled := AwaitSession.advance declared (awaited.session base base.upcoming)
    (∃ rest made after, Suspended base work rest made after ∧ silences rest < silences left ∧
      polled = (.pending, after.session base base.upcoming)) ∨
    ∃ after, Resolved base work after ∧ after.ledger = call.2 ∧
      polled = (Reply.ofCall .passed call.1, after.freed base base.upcoming) := by
  intro call polled
  obtain ⟨made, woken, start, underway, idle, continuations, ledger, await, going, begins⟩ :=
    poised.begins prepared declared (2 * left.length + 7)
  have fuel : (awaited.session base base.upcoming).fuel = 2 * left.length + 7 + 1 :=
    fuel_session prepared poised.progress
  have enough : 2 * left.length + 2 ≤ 2 * left.length + 7 := Nat.add_le_add_left (by decide) _
  rw [← fuel] at begins
  rcases run_polling prepared enough underway continuations woken idle with
    ⟨rest, times, after, suspended, fewer, ran⟩ | ⟨after, resolved, kept, ran⟩
  · refine .inl ⟨rest, times, after, suspended, fewer, ?_⟩
    exact advance_of_run going (begins.trans ran)
  · rw [ledger] at kept ran
    refine .inr ⟨after, resolved, kept, ?_⟩
    have advanced := advance_of_run going (begins.trans ran)
    rw [← resolved.await] at advanced
    exact advanced

end AwaitedFuture

end Boundary
