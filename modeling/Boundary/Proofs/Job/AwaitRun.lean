import Boundary.Proofs.Job.Delivery

/-! # The buffers that an await is given

An await may be polled, dropped and delivered to in any order. A result that it does not accept is
released at once, and so are both buffers of a result that tells of an error. A result that it has
accepted and not read yet is nobody's once the await is dropped: its buffers stay on record for
good.

**Once an await has ended, a buffer that was delivered and that the awaiter did not receive is
outstanding just if it is left over from the result that the await had accepted: because nobody read
the result, because reading the declared error panicked, or because the status of a call that went
well came with memory without contents** (`Boundary.JobAwaitRun.run_accounted`).
-/

namespace Boundary

/-- An await, and what lies between it and those who deliver results to it. -/
structure JobAwaitRun (ε : Type) where
  exchange : DeliveryState
  await : JobAwait Unit
  /-- What the await resolved with, and the records at that time. -/
  answer : Option (Outcome (CallError ε) Passed × Ledger)

namespace JobAwaitRun

variable {ε : Type} {declared : Read ε} {exchange : DeliveryState} {waiter : Handle}
  {answer : Option (Outcome (CallError ε) Passed × Ledger)}

/-- What can happen to an await, with what others do while the job is started or given up. -/
inductive Event where
  | poll (atStart atEnd : List DeliveryState.OthersAction)
  | drop (atEnd : List DeliveryState.OthersAction)
  | action (action : DeliveryState.OthersAction)

/-- A job that is started and given up while others go on. -/
def link (atStart atEnd : List DeliveryState.OthersAction) : JobLink DeliveryState Unit where
  start data := modify fun exchange =>
    { exchange with waiter := some ⟨data⟩ }.performAll atStart
  giveUp _ := modify fun exchange => exchange.performAll atEnd

/-- The allocations that whoever awaits receives. -/
def obtained : Option (Outcome (CallError ε) Passed × Ledger) → List Address
  | some (.ok value, _) => value.allocations
  | _ => []

/-- What is known after a poll. -/
def note (answer : Option (Outcome (CallError ε) Passed × Ledger)) :
    (JobAwait Unit × Option (Outcome (CallError ε) Passed)) × DeliveryState → JobAwaitRun ε
  | ((await, none), exchange) => ⟨exchange, await, answer⟩
  | ((await, some outcome), exchange) =>
    let answer := some (outcome, exchange.ledger)
    ⟨{ exchange with received := obtained answer }, await, answer⟩

/-- The await after an event. -/
def take (declared : Read ε) (awaitRun : JobAwaitRun ε) : Event → JobAwaitRun ε
  | .poll atStart atEnd =>
    note awaitRun.answer
      (JobAwait.poll Caller.inProcess (link atStart atEnd) declared awaitRun.await
        awaitRun.exchange)
  | .drop atEnd =>
    ⟨(JobAwait.drop (link [] atEnd) awaitRun.await awaitRun.exchange).2, .ended, awaitRun.answer⟩
  | .action action => { awaitRun with exchange := awaitRun.exchange.perform action }

def run (declared : Read ε) (awaitRun : JobAwaitRun ε) (events : List Event) : JobAwaitRun ε :=
  events.foldl (take declared) awaitRun

/-- An await that has not started. -/
def start (ledger : Ledger) (waiters : Waiters) (channel : Channel) : JobAwaitRun ε :=
  ⟨⟨ledger, waiters, none, [], []⟩, .unstarted channel, none⟩

/-! ## What an await leaves behind -/

/-- What is left of the result that an await accepted, once the await has ended. -/
def leftover (answer : Option (Outcome (CallError ε) Passed × Ledger)) (result : JobResult) :
    List Address :=
  match answer with
  | none | some (.error (.panic _), _) => result.allocations
  | some (.ok _, _) => result.status.errorBuffer.allocations
  | some (.error (.error _), _) => []

/-- What is left of a result is a part of it. -/
theorem leftover_subset (answer : Option (Outcome (CallError ε) Passed × Ledger))
    (result : JobResult) : leftover answer result ⊆ result.allocations := by
  rcases answer with _ | ⟨(_ | _) | _, _⟩
  · exact List.Subset.refl _
  · exact List.nil_subset _
  · exact List.Subset.refl _
  · exact List.subset_append_right _ _

/-- What an answer tells about the result that it was made from. -/
inductive Explains (declared : Read ε) (accepted : List JobResult) :
    Option (Outcome (CallError ε) Passed × Ledger) → Prop where
  | dropped : Explains declared accepted none
  | failed {cause : CallError ε} {ledger : Ledger} :
      Explains declared accepted (some (.error (.error cause), ledger))
  /-- The call went well. The value is what it was when it was delivered. -/
  | passed {result : JobResult} {ledger : Ledger} : result ∈ accepted →
      result.status.meaning? = some .success → result.status.errorBuffer.length = 0 →
      result.value.Owned ledger → Explains declared accepted (some (.ok result.value, ledger))
  /-- Reading the declared error panicked. -/
  | unwound {result : JobResult} {payload : PanicPayload} {data : Bytes} {ledger : Ledger} :
      result ∈ accepted → result.status.meaning? = some .error →
      declared.liftExact data = .error (.panic payload) →
      Explains declared accepted (some (.error (.panic payload), ledger))

/-- How things are after the end of an await. -/
structure Rests (declared : Read ε) (exchange : DeliveryState)
    (answer : Option (Outcome (CallError ε) Passed × Ledger)) : Prop where
  closed : exchange.Closed
  single : exchange.accepted.length ≤ 1
  received : exchange.received = obtained answer
  explained : Explains declared exchange.accepted answer
  left : ∀ result ∈ exchange.accepted, ∀ address ∈ leftover answer result,
    address ∉ exchange.received ∧ (exchange.ledger.find? address).isSome = true
  gone : ∀ result ∈ exchange.accepted, ∀ address ∈ result.allocations,
    address ∉ exchange.received → address ∉ leftover answer result →
      exchange.ledger.find? address = none

/-- An await that has ended rests while others go on. -/
theorem Rests.idles {after : DeliveryState} (rests : Rests declared exchange answer)
    (idles : exchange.Idles after) : Rests declared after answer where
  closed := idles.closed
  single := idles.accepted ▸ rests.single
  received := idles.received.trans rests.received
  explained := idles.accepted ▸ rests.explained
  left := by
    rw [idles.accepted, idles.received]
    intro result accepted address left
    obtain ⟨unreceived, present⟩ := rests.left result accepted address left
    have given := DeliveryState.mem_handed_of_accepted accepted (leftover_subset answer result left)
    exact ⟨unreceived, idles.kept address given unreceived ▸ present⟩
  gone := by
    rw [idles.accepted, idles.received]
    intro result accepted address own unreceived unleft
    have given := DeliveryState.mem_handed_of_accepted accepted own
    exact (idles.kept address given unreceived).trans
      (rests.gone result accepted address own unreceived unleft)

/-- An await that is dropped leaves what it accepted. -/
theorem rests_of_owned (closed : exchange.Closed) (single : exchange.accepted.length ≤ 1)
    (unreceived : exchange.received = [])
    (owned : ∀ result ∈ exchange.accepted, result.Owned exchange.ledger) :
    Rests declared exchange none where
  closed := closed
  single := single
  received := unreceived
  explained := .dropped
  left result accepted _ left :=
    ⟨unreceived ▸ List.not_mem_nil, (owned result accepted).isSome_find? left⟩
  gone _ _ _ own _ unleft := absurd own unleft

/-- An await that leaves without a result rests. -/
theorem rests_leave (awaits : exchange.Awaits waiter) (atEnd : List DeliveryState.OthersAction) :
    Rests declared (exchange.leave waiter atEnd) none := by
  have idles := awaits.idles_leave atEnd
  refine rests_of_owned idles.closed ?_ (idles.received.trans awaits.received) ?_
  · rw [idles.accepted, awaits.accepted]
    exact Option.length_toList_le
  · rw [idles.accepted]
    exact awaits.owned_leave atEnd

/-- An await that never accepted anything leaves nothing. -/
theorem rests_of_nothing (closed : exchange.Closed) (nothing : exchange.accepted = [])
    (cause : CallError ε) (ledger : Ledger) :
    Rests declared { exchange with received := [] }
      (some (.error (.error cause), ledger)) where
  closed := closed
  single := Nat.le_trans (Nat.le_of_eq (congrArg List.length nothing)) (Nat.zero_le 1)
  received := rfl
  explained := .failed
  left _ accepted := absurd (nothing ▸ accepted) List.not_mem_nil
  gone _ accepted := absurd (nothing ▸ accepted) List.not_mem_nil

/-- An await that reads its result leaves what reading did not use up. -/
theorem rests_of_read {result : JobResult} {outcome : Outcome (CallError ε) Passed}
    {after : DeliveryState} (closed : exchange.Closed) (sound : exchange.Sound)
    (accepted : exchange.accepted = [result]) (owned : result.Owned exchange.ledger)
    (reads : JobAwait.Reads declared result exchange (outcome, after)) :
    let answer := some (outcome, after.ledger)
    let awaitRun : DeliveryState := { after with received := obtained answer }
    Rests declared awaitRun answer ∧ awaitRun.Sound ∧ exchange.Onward awaitRun := by
  have mine : result ∈ exchange.accepted := accepted ▸ List.mem_singleton_self result
  have onlyMine {property : JobResult → Prop} (holds : property result) :
      ∀ other ∈ exchange.accepted, property other :=
    accepted ▸ List.forall_mem_singleton.mpr holds
  have single : exchange.accepted.length ≤ 1 := accepted ▸ Nat.le_refl 1
  have steady : exchange.Onward exchange := .refl exchange
  cases reads with
  | passed well nothing =>
      have apart := List.nodup_append.mp (sound.nodup_of_accepted mine)
      refine ⟨⟨closed, single, rfl, .passed mine well nothing owned.value, ?_, ?_⟩,
        ⟨sound.distinct, sound.refused⟩, ⟨steady.delivered, steady.gone⟩⟩
      · refine onlyMine fun address left => ⟨fun passed => ?_, owned.status.isSome_find? left⟩
        exact apart.2.2 address passed address left rfl
      · refine onlyMine fun address own unreceived unleft => ?_
        rcases List.mem_append.mp own with passed | explains
        · exact absurd passed unreceived
        · exact absurd explains unleft
  | @failed cause ledger shed =>
      have gone (address : Address) (absent : exchange.ledger.find? address = none) :
          ledger.find? address = none := by
        rw [shed address, ite_eq_left_iff]
        exact fun _ => absent
      refine ⟨⟨closed, single, rfl, .failed, fun _ _ => List.forall_mem_nil _, ?_⟩,
        ⟨sound.distinct, ?_⟩, ⟨steady.delivered, fun address _ => gone address⟩⟩
      · exact onlyMine fun address own _ _ => shed.find?_of_mem own
      · exact fun delivery listed refused address own =>
          gone address (sound.refused delivery listed refused address own)
  | @unwound payload data failed read =>
      refine ⟨⟨closed, single, rfl, .unwound mine failed read, ?_, ?_⟩,
        ⟨sound.distinct, sound.refused⟩, ⟨steady.delivered, steady.gone⟩⟩
      · exact onlyMine fun address left => ⟨List.not_mem_nil, owned.isSome_find? left⟩
      · exact onlyMine fun address own _ unleft => absurd own unleft

/-! ## From event to event -/

/-- How far an await has come. -/
inductive Stands (declared : Read ε) : JobAwaitRun ε → Prop where
  | unstarted {ledger : Ledger} {waiters : Waiters} {channel : Channel} : waiters.Orderly →
      Stands declared (start ledger waiters channel)
  | waiting {exchange : DeliveryState} {waiter : Handle} : exchange.Sound → exchange.Awaits waiter →
      Stands declared ⟨exchange, .waiting waiter (), none⟩
  | ended {exchange : DeliveryState} {answer : Option (Outcome (CallError ε) Passed × Ledger)} :
      exchange.Sound → Rests declared exchange answer → Stands declared ⟨exchange, .ended, answer⟩

/-- What was delivered before and after, and how far the await has come. -/
def Leads (declared : Read ε) (exchange : DeliveryState) (awaitRun : JobAwaitRun ε) : Prop :=
  awaitRun.Stands declared ∧ exchange.Onward awaitRun.exchange

/-- Looking for the result ends the await, unless the promise is still open. -/
theorem look_eq (exchange : DeliveryState) (waiter : Handle)
    (atStart atEnd : List DeliveryState.OthersAction) :
    JobAwait.look Caller.inProcess (link atStart atEnd) declared waiter () exchange =
      match exchange.waiters.status waiter with
      | .waiting => ((.waiting waiter (), none), exchange)
      | .broken =>
        ((.ended, some (.error (.error
          (.internal (.protocol "foreign future dropped its completion"))))),
          exchange.leave waiter atEnd)
      | .kept result =>
        let read := (JobAwait.resolve Caller.inProcess declared result).observe
          (exchange.leave waiter atEnd)
        ((.ended, some read.1), read.2) := by
  unfold JobAwait.look
  rw [bind_apply, get_apply]
  change (match exchange.waiters.status waiter with | .waiting => _ | .broken => _ | .kept _ => _ :
    StateM DeliveryState _) exchange = _
  cases exchange.waiters.status waiter <;> rfl

/-- Looking for the result leads on, whether it is there or not. -/
theorem leads_look (sound : exchange.Sound) (awaits : exchange.Awaits waiter)
    (atStart atEnd : List DeliveryState.OthersAction) :
    Leads declared exchange (note none
      (JobAwait.look Caller.inProcess (link atStart atEnd) declared waiter () exchange)) := by
  let left := exchange.leave waiter atEnd
  have idles : exchange.Idles left := awaits.idles_leave atEnd
  have soundLeft : left.Sound := sound.leave waiter atEnd
  have onward : exchange.Onward left := exchange.onward_leave waiter atEnd
  have accepted : left.accepted = (exchange.waiters.value? waiter).toList :=
    idles.accepted.trans awaits.accepted
  have status := Promises.status_eq exchange.waiters waiter
  rcases kept : exchange.waiters.value? waiter with _ | result
  · rw [kept] at accepted status
    cases known : exchange.waiters.isOpen waiter with
    | true =>
        rw [known] at status
        rw [look_eq, status]
        exact ⟨.waiting sound awaits, .refl exchange⟩
    | false =>
        rw [known] at status
        rw [look_eq, status]
        refine ⟨.ended ⟨soundLeft.distinct, soundLeft.refused⟩ ?_, onward.delivered, onward.gone⟩
        exact rests_of_nothing idles.closed accepted _ _
  · rw [kept] at accepted status
    have mine : result ∈ left.accepted := accepted ▸ List.mem_singleton_self result
    have owned : result.Owned left.ledger :=
      awaits.owned_leave atEnd result (idles.accepted ▸ mine)
    have reads : JobAwait.Reads declared result left
        ((JobAwait.resolve Caller.inProcess declared result).observe left) :=
      JobAwait.reads_resolve owned (soundLeft.nodup_of_accepted mine)
    obtain ⟨rests, soundRead, onwardRead⟩ :=
      rests_of_read idles.closed soundLeft accepted owned reads
    rw [look_eq, status]
    exact ⟨.ended soundRead rests, onward.trans onwardRead⟩

section

variable {channel : Channel} {pledged : Waiters} (atStart atEnd : List DeliveryState.OthersAction)

/-- Making a promise changes the promises only. -/
theorem make_exchange {issued : Except HandleError Handle}
    (made : Promises.make channel exchange.waiters = (issued, pledged)) :
    (onPart (Promises.make channel : StateM Waiters _) : StateM DeliveryState _) exchange =
      (issued, { exchange with waiters := pledged }) := by
  have same : Promises.make channel (Part.get exchange) = (issued, pledged) := made
  rw [onPart_apply, same]
  rfl

/-- An await that cannot make a promise ends at once. -/
theorem poll_of_error {cause : HandleError}
    (made : Promises.make channel exchange.waiters = (.error cause, pledged)) :
    JobAwait.poll Caller.inProcess (link atStart atEnd) declared (.unstarted channel) exchange =
      ((.ended, some (.error (.error (.internal (.handle cause))))),
        { exchange with waiters := pledged }) := by
  unfold JobAwait.poll
  dsimp only
  rw [bind_apply, make_exchange made]
  rfl

/-- The first poll makes the promise and starts the job. -/
theorem poll_of_ok (made : Promises.make channel exchange.waiters = (.ok waiter, pledged)) :
    JobAwait.poll Caller.inProcess (link atStart atEnd) declared (.unstarted channel) exchange =
      JobAwait.look Caller.inProcess (link atStart atEnd) declared waiter ()
        ({ exchange with waiters := pledged, waiter := some waiter }.performAll atStart) := by
  unfold JobAwait.poll
  dsimp only
  rw [bind_apply, make_exchange made]
  rfl

end

variable {ledger : Ledger} {waiters : Waiters} {channel : Channel}

/-- The first poll leads on, whether the job starts or not. -/
theorem leads_start (orderly : waiters.Orderly) (atStart atEnd : List DeliveryState.OthersAction) :
    let awaitRun : JobAwaitRun ε := start ledger waiters channel
    Leads declared awaitRun.exchange (awaitRun.take declared (.poll atStart atEnd)) := by
  intro awaitRun
  have begun (after : DeliveryState) : awaitRun.exchange.Onward after :=
    ⟨List.nil_prefix, List.forall_mem_nil _⟩
  refine ⟨?_, begun _⟩
  change Stands declared (note none (JobAwait.poll Caller.inProcess (link atStart atEnd) declared
    (.unstarted channel) ⟨ledger, waiters, none, [], []⟩))
  rcases made : Promises.make channel waiters with ⟨cause | waiter, pledged⟩
  · rw [poll_of_error atStart atEnd made]
    refine .ended ⟨List.nodup_nil, List.forall_mem_nil _⟩ ?_
    exact rests_of_nothing (DeliveryState.closed_of_none rfl) rfl _ _
  · obtain ⟨_, _, fresh⟩ := Promises.make_eq_ok orderly made
    let pledging : DeliveryState := ⟨ledger, pledged, some waiter, [], []⟩
    have sound : pledging.Sound := ⟨List.nodup_nil, List.forall_mem_nil _⟩
    have awaits : pledging.Awaits waiter := by
      refine ⟨rfl, rfl, ?_, ?_, List.forall_mem_nil _⟩
      · change [] = (pledged.value? waiter).toList
        rw [fresh]
        rfl
      · change ∀ result ∈ pledged.value? waiter, _
        rw [fresh]
        exact nofun
    rw [poll_of_ok atStart atEnd made]
    exact (leads_look (DeliveryState.preserved_performAll DeliveryState.Step.sound atStart sound)
      (DeliveryState.preserved_performAll DeliveryState.Step.awaits atStart awaits) atStart atEnd).1

/-- Nothing is delivered before the await starts. -/
theorem stands_perform_start (orderly : waiters.Orderly) (action : DeliveryState.OthersAction) :
    let awaitRun : JobAwaitRun ε := start ledger waiters channel
    Stands declared { awaitRun with exchange := awaitRun.exchange.perform action } := by
  cases action with
  | deliver channel result => exact .unstarted orderly
  | elsewhere use =>
      intro awaitRun
      dsimp only [DeliveryState.perform]
      split
      next apart => exact .unstarted (apart.orderly orderly)
      next => exact .unstarted orderly

/-- **A step leads on.** -/
theorem Stands.take {awaitRun : JobAwaitRun ε} (stands : awaitRun.Stands declared) (event : Event) :
    Leads declared awaitRun.exchange (awaitRun.take declared event) := by
  cases stands with
  | unstarted orderly =>
      cases event with
      | poll atStart atEnd => exact leads_start orderly atStart atEnd
      | drop atEnd =>
          refine ⟨.ended ⟨List.nodup_nil, List.forall_mem_nil _⟩ ?_, .refl _⟩
          exact rests_of_owned (DeliveryState.closed_of_none rfl) (Nat.zero_le 1) rfl
            (List.forall_mem_nil _)
      | action action =>
          exact ⟨stands_perform_start orderly action, (DeliveryState.step_perform _ action).onward⟩
  | @waiting exchange waiter sound awaits =>
      cases event with
      | poll atStart atEnd => exact leads_look sound awaits atStart atEnd
      | drop atEnd =>
          exact ⟨.ended (sound.leave waiter atEnd) (rests_leave awaits atEnd),
            exchange.onward_leave waiter atEnd⟩
      | action action =>
          have step := exchange.step_perform action
          exact ⟨.waiting (step.sound sound) (step.awaits awaits), step.onward⟩
  | @ended exchange answer sound rests =>
      cases event with
      | poll atStart atEnd => exact ⟨.ended sound rests, .refl exchange⟩
      | drop atEnd => exact ⟨.ended sound rests, .refl exchange⟩
      | action action =>
          have step := exchange.step_perform action
          exact ⟨.ended (step.sound sound) (rests.idles (step.idles rests.closed)), step.onward⟩

/-- **So does any number of steps.** -/
theorem Stands.run {awaitRun : JobAwaitRun ε} (stands : awaitRun.Stands declared)
    (events : List Event) :
    Leads declared awaitRun.exchange (awaitRun.run declared events) := by
  induction events generalizing awaitRun with
  | nil => exact ⟨stands, .refl _⟩
  | cons event rest ih =>
      obtain ⟨next, sooner⟩ := stands.take event
      obtain ⟨last, later⟩ := ih next
      exact ⟨last, sooner.trans later⟩

/-! ## What becomes of the buffers -/

/-- What can be said of the buffers that were delivered to an await. -/
structure Accounted (declared : Read ε) (awaitRun : JobAwaitRun ε) : Prop where
  /-- No allocation was given away twice. -/
  distinct : awaitRun.exchange.handed.Nodup
  /-- One result at most reaches the await. -/
  single : awaitRun.exchange.accepted.length ≤ 1
  /-- Every other one was released. -/
  refused : ∀ delivery ∈ awaitRun.exchange.delivered, delivery.accepted = false →
    ∀ address ∈ delivery.result.allocations, awaitRun.exchange.ledger.find? address = none
  /-- Until the await ends, the result that reached it stays what it was. -/
  unread : awaitRun.await ≠ .ended →
    ∀ result ∈ awaitRun.exchange.accepted, result.Owned awaitRun.exchange.ledger
  received : awaitRun.exchange.received = obtained awaitRun.answer
  explained : Explains declared awaitRun.exchange.accepted awaitRun.answer
  /-- What is outstanding when the await has ended. -/
  outstanding : awaitRun.await = .ended → ∀ address ∈ awaitRun.exchange.handed,
    address ∉ awaitRun.exchange.received →
      ((awaitRun.exchange.ledger.find? address).isSome = true ↔
        ∃ result ∈ awaitRun.exchange.accepted, address ∈ leftover awaitRun.answer result)
  /-- Nothing is outstanding if nothing is left over. -/
  complete : awaitRun.await = .ended →
    ((∀ address ∈ awaitRun.exchange.handed, address ∉ awaitRun.exchange.received →
        awaitRun.exchange.ledger.find? address = none) ↔
      ∀ result ∈ awaitRun.exchange.accepted, leftover awaitRun.answer result = [])

/-- What was handed over and not received is outstanding if it is left over. -/
theorem Rests.outstanding_iff (rests : Rests declared exchange answer) (sound : exchange.Sound)
    {address : Address} (given : address ∈ exchange.handed)
    (unreceived : address ∉ exchange.received) :
    (exchange.ledger.find? address).isSome = true ↔
      ∃ result ∈ exchange.accepted, address ∈ leftover answer result := by
  constructor
  · intro present
    obtain ⟨delivery, listed, own⟩ := List.mem_flatMap.mp given
    cases kept : delivery.accepted with
    | false =>
        have released := sound.refused delivery listed kept address own
        exact absurd released (Option.isSome_iff_ne_none.mp present)
    | true =>
        have accepted : delivery.result ∈ exchange.accepted :=
          List.mem_map.mpr ⟨delivery, List.mem_filter.mpr ⟨listed, kept⟩, rfl⟩
        refine ⟨delivery.result, accepted, ?_⟩
        by_contra unleft
        exact Option.isSome_iff_ne_none.mp present
          (rests.gone delivery.result accepted address own unreceived unleft)
  · rintro ⟨result, accepted, left⟩
    exact (rests.left result accepted address left).2

/-- Nothing is outstanding if nothing is left over. -/
theorem Rests.complete_iff (rests : Rests declared exchange answer) (sound : exchange.Sound) :
    (∀ address ∈ exchange.handed, address ∉ exchange.received →
        exchange.ledger.find? address = none) ↔
      ∀ result ∈ exchange.accepted, leftover answer result = [] := by
  constructor
  · intro released result accepted
    refine List.eq_nil_iff_forall_not_mem.mpr fun address left => ?_
    obtain ⟨unreceived, present⟩ := rests.left result accepted address left
    have given := DeliveryState.mem_handed_of_accepted accepted (leftover_subset answer result left)
    exact Option.isSome_iff_ne_none.mp present (released address given unreceived)
  · intro nothing address given unreceived
    by_contra present
    obtain ⟨result, accepted, left⟩ :=
      (rests.outstanding_iff sound given unreceived).mp (Option.isSome_iff_ne_none.mpr present)
    rw [nothing result accepted] at left
    exact List.not_mem_nil left

/-- An await accounts for what it was handed, at any time. -/
theorem Stands.accounts {awaitRun : JobAwaitRun ε} (stands : awaitRun.Stands declared) :
    Accounted declared awaitRun := by
  cases stands with
  | unstarted orderly =>
      exact ⟨List.nodup_nil, Nat.zero_le 1, List.forall_mem_nil _, fun _ => List.forall_mem_nil _,
        rfl, .dropped, nofun, nofun⟩
  | waiting sound awaits =>
      refine ⟨sound.distinct, ?_, sound.refused, fun _ => awaits.owned, awaits.received, .dropped,
        nofun, nofun⟩
      rw [awaits.accepted]
      exact Option.length_toList_le
  | ended sound rests =>
      exact ⟨sound.distinct, rests.single, sound.refused, fun going => absurd rfl going,
        rests.received, rests.explained, fun _ _ => rests.outstanding_iff sound,
        fun _ => rests.complete_iff sound⟩

/-- What stays as it is, whatever happens later. -/
structure Lasts (awaitRun later : JobAwaitRun ε) : Prop where
  onward : awaitRun.exchange.Onward later.exchange
  /-- An await ends once, and nothing reaches it afterwards. -/
  ended : awaitRun.await = .ended → later.await = .ended ∧ later.answer = awaitRun.answer ∧
    later.exchange.accepted = awaitRun.exchange.accepted

/-- An await that has ended keeps its answer. -/
theorem Stands.ended_run {awaitRun : JobAwaitRun ε} (stands : awaitRun.Stands declared)
    (ended : awaitRun.await = .ended) (events : List Event) :
    (awaitRun.run declared events).await = .ended ∧
      (awaitRun.run declared events).answer = awaitRun.answer ∧
      (awaitRun.run declared events).exchange.accepted = awaitRun.exchange.accepted := by
  induction events generalizing awaitRun with
  | nil => exact ⟨ended, rfl, rfl⟩
  | cons event rest ih =>
      have next := (stands.take event).1
      cases stands with
      | unstarted orderly => cases ended
      | waiting sound awaits => cases ended
      | @ended exchange answer sound rests =>
          cases event with
          | poll atStart atEnd => exact ih next rfl
          | drop atEnd => exact ih next rfl
          | action action =>
              have idles := (exchange.step_perform action).idles rests.closed
              obtain ⟨still, answered, accepted⟩ := ih next rfl
              exact ⟨still, answered, accepted.trans idles.accepted⟩

/-- **What becomes of every buffer that is delivered to an await**, in whatever order the await is
polled, dropped and delivered to. -/
theorem run_accounted (orderly : waiters.Orderly) (declared : Read ε) (ledger : Ledger)
    (channel : Channel) (events more : List Event) :
    let awaitRun := (start ledger waiters channel).run declared events
    Accounted declared awaitRun ∧ awaitRun.Lasts (awaitRun.run declared more) := by
  intro awaitRun
  have stands : awaitRun.Stands declared := ((Stands.unstarted orderly).run events).1
  exact ⟨stands.accounts, (stands.run more).2, fun ended => stands.ended_run ended more⟩

/-- A result that comes while the job is given up is released; the one that came while it was
started is received. -/
theorem late_result_accounted :
    let ledger : Ledger := ⟨[(1, ⟨3, .zeroed 3⟩), (2, ⟨3, .zeroed 3⟩)], [], 3⟩
    let deliver (address : Address) : DeliveryState.OthersAction :=
      .deliver .buffer ⟨.buffer ⟨3, 3, some address⟩, ⟨0, .empty⟩⟩
    let awaitRun := (start ledger Waiters.empty .buffer).run Utf8.read
      [.poll [deliver 1] [deliver 2]]
    Waiters.empty.Orderly ∧ awaitRun.await = .ended ∧ awaitRun.exchange.handed = [1, 2] ∧
      awaitRun.exchange.received = [1] ∧ awaitRun.exchange.ledger.find? 2 = none ∧
      Accounted Utf8.read awaitRun := by
  intro ledger deliver awaitRun
  have orderly : Waiters.empty.Orderly := .named _
  have both := run_accounted orderly Utf8.read ledger .buffer [.poll [deliver 1] [deliver 2]] []
  exact ⟨orderly, rfl, rfl, rfl, rfl, both.1⟩

/-- A result that was accepted but not read is outstanding after the await was dropped. -/
theorem dropped_result_is_outstanding :
    let ledger : Ledger := ⟨[(1, ⟨3, .zeroed 3⟩)], [], 2⟩
    let deliver : DeliveryState.OthersAction :=
      .deliver .buffer ⟨.buffer ⟨3, 3, some 1⟩, ⟨0, .empty⟩⟩
    let awaitRun := (start ledger Waiters.empty .buffer).run Utf8.read
      [.poll [] [], .action deliver, .drop []]
    awaitRun.await = .ended ∧ awaitRun.exchange.received = [] ∧
      awaitRun.exchange.ledger.isLive 1 3 ∧
      ¬ ∀ address ∈ awaitRun.exchange.handed, address ∉ awaitRun.exchange.received →
        awaitRun.exchange.ledger.find? address = none := by
  intro ledger deliver awaitRun
  refine ⟨rfl, rfl, rfl, fun released => ?_⟩
  exact absurd (released 1 (List.mem_singleton_self 1) List.not_mem_nil) (Option.some_ne_none _)

end JobAwaitRun

end Boundary
