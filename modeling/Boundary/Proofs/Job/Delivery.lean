import Boundary.Proofs.Handle.Promise
import Boundary.Proofs.Job.Disposal

/-! # Between an await and its callback

Once an await has started, its callback may be called with its data by anybody, at any time, any
number of times and through any channel. A result that finds the promise of the await open is
accepted and kept for it; every other one is refused, and its buffers are released at once
(`Boundary.DeliveryState.Step`). So the await owns the result that was accepted, if there is one
(`Boundary.DeliveryState.Awaits`), and once its promise is closed nothing more reaches it
(`Boundary.DeliveryState.Idles`).
-/

namespace Boundary

namespace Promises

variable {κ α : Type} {promises : Promises κ α} {handle : Handle}

instance (promises : Promises κ α) : Decidable promises.Orderly :=
  decidable_of_iff
    ((∀ entry ∈ promises.table.entries, entry.1.raw.toNat < promises.table.next) ∧
      ∀ entry ∈ promises.kept, entry.1.raw.toNat < promises.table.next)
    ⟨fun both => ⟨⟨both.1⟩, both.2⟩, fun orderly => ⟨orderly.table.issued, orderly.kept⟩⟩

theorem isOpen_of_label? {label : κ} (known : promises.label? handle = some label) :
    promises.isOpen handle = true := congrArg Option.isSome known

theorem isOpen_breakOff (promises : Promises κ α) (handle : Handle) :
    (breakOff handle promises).2.isOpen handle = false := by
  change ((promises.table.erase handle).find? handle).isSome = false
  rw [Table.find?_erase, if_pos rfl]
  rfl

end Promises

namespace JobAwait

variable {σ : Type} [Part σ Ledger] [Part σ Waiters] {state : σ} {channel expected : Channel}
  {data : UInt64} {result : JobResult}

/-- A result that nobody waits for is discarded. -/
theorem deliver_of_none (unknown : (Part.get state : Waiters).label? ⟨data⟩ = none) :
    deliver channel data result state = onPart result.discard state := by
  unfold deliver
  rw [bind_apply, get_apply, unknown]

/-- A result that comes through the channel of the promise keeps it. -/
theorem deliver_of_eq (known : (Part.get state : Waiters).label? ⟨data⟩ = some channel) :
    deliver channel data result state =
      onPart (Promises.keep ⟨data⟩ result : StateM Waiters _) state := by
  unfold deliver
  rw [bind_apply, get_apply, known]
  exact congrFun (if_pos rfl) state

/-- A result that comes through another channel breaks the promise. -/
theorem deliver_of_ne (known : (Part.get state : Waiters).label? ⟨data⟩ = some expected)
    (different : expected ≠ channel) :
    deliver channel data result state =
      onPart result.discard
        (onPart (Promises.breakOff ⟨data⟩ : StateM Waiters _) state).2 := by
  unfold deliver
  rw [bind_apply, get_apply, known]
  exact congrFun (if_neg different) state

end JobAwait

/-- A result that was delivered, and whether the promise of the await was kept with it. -/
structure Delivery where
  result : JobResult
  accepted : Bool

/-- What lies between an await and those who deliver results to it. -/
structure DeliveryState where
  ledger : Ledger
  waiters : Waiters
  /-- The promise of the await, once it has started. -/
  waiter : Option Handle
  delivered : List Delivery
  /-- The allocations that the await passed on to whoever awaits. -/
  received : List Address

namespace DeliveryState

instance : Part DeliveryState Ledger where
  get exchange := exchange.ledger
  set ledger exchange := { exchange with ledger := ledger }
  get_set _ _ := rfl
  set_get _ := rfl
  set_set _ _ _ := rfl

instance : Part DeliveryState Waiters where
  get exchange := exchange.waiters
  set waiters exchange := { exchange with waiters := waiters }
  get_set _ _ := rfl
  set_get _ := rfl
  set_set _ _ _ := rfl

variable {exchange before after : DeliveryState} {result : JobResult} {waiter : Handle}

/-- The allocations of the results that were delivered. -/
def handed (exchange : DeliveryState) : List Address :=
  exchange.delivered.flatMap fun delivery => delivery.result.allocations

/-- The results that the promise of the await was kept with. -/
def accepted (exchange : DeliveryState) : List JobResult :=
  (exchange.delivered.filter Delivery.accepted).map Delivery.result

theorem mem_handed {delivery : Delivery} (delivered : delivery ∈ exchange.delivered)
    {address : Address} (own : address ∈ delivery.result.allocations) :
    address ∈ exchange.handed :=
  List.mem_flatMap.mpr ⟨delivery, delivered, own⟩

theorem mem_handed_of_accepted (accepted : result ∈ exchange.accepted) {address : Address}
    (own : address ∈ result.allocations) : address ∈ exchange.handed := by
  obtain ⟨delivery, listed, rfl⟩ := List.mem_map.mp accepted
  exact mem_handed (List.mem_filter.mp listed).1 own

/-- What another delivery does to the list of the allocations. -/
theorem handed_of_delivered {delivery : Delivery}
    (delivered : after.delivered = before.delivered ++ [delivery]) :
    after.handed = before.handed ++ delivery.result.allocations := by
  unfold handed
  rw [delivered, List.flatMap_append, List.flatMap_singleton]

/-- One delivery more is accepted or not. -/
theorem accepted_of_delivered {delivery : Delivery}
    (delivered : after.delivered = before.delivered ++ [delivery]) :
    after.accepted =
      before.accepted ++ if delivery.accepted then [delivery.result] else [] := by
  unfold accepted
  rw [delivered, List.filter_append, List.map_append, List.filter_singleton]
  cases delivery.accepted <;> rfl

/-! ## What others do -/

/-- Whoever delivers a result owns its buffers, and gives each of them away once. -/
structure MayDeliver (exchange : DeliveryState) (result : JobResult) : Prop where
  owned : result.Owned exchange.ledger
  distinct : (exchange.handed ++ result.allocations).Nodup

instance (exchange : DeliveryState) (result : JobResult) : Decidable (exchange.MayDeliver result) :=
  decidable_of_iff
    (result.Owned exchange.ledger ∧ (exchange.handed ++ result.allocations).Nodup)
    ⟨fun both => ⟨both.1, both.2⟩, fun may => ⟨may.owned, may.distinct⟩⟩

/-- What was given away is left alone, except by whoever received it, and so is the promise of the
await. -/
structure Apart (exchange : DeliveryState) (ledger : Ledger) (waiters : Waiters) : Prop where
  kept : ∀ address ∈ exchange.handed, address ∉ exchange.received →
    ledger.find? address = exchange.ledger.find? address
  /-- No address is handed out again. -/
  gone : ∀ address ∈ exchange.handed, exchange.ledger.find? address = none →
    ledger.find? address = none
  promise : ∀ waiter ∈ exchange.waiter,
    waiters.label? waiter = exchange.waiters.label? waiter ∧
      waiters.value? waiter = exchange.waiters.value? waiter
  orderly : exchange.waiters.Orderly → waiters.Orderly

instance (exchange : DeliveryState) (ledger : Ledger) (waiters : Waiters) :
    Decidable (exchange.Apart ledger waiters) :=
  decidable_of_iff
    ((∀ address ∈ exchange.handed, address ∉ exchange.received →
        ledger.find? address = exchange.ledger.find? address) ∧
      (∀ address ∈ exchange.handed, exchange.ledger.find? address = none →
        ledger.find? address = none) ∧
      (∀ waiter ∈ exchange.waiter,
        waiters.label? waiter = exchange.waiters.label? waiter ∧
          waiters.value? waiter = exchange.waiters.value? waiter) ∧
      (exchange.waiters.Orderly → waiters.Orderly))
    ⟨fun all => ⟨all.1, all.2.1, all.2.2.1, all.2.2.2⟩,
      fun apart => ⟨apart.kept, apart.gone, apart.promise, apart.orderly⟩⟩

/-- What others do at some time. -/
inductive OthersAction where
  /-- Calls the callback of the await with its data. -/
  | deliver (channel : Channel) (result : JobResult)
  /-- Uses the memory and the promises for something else. -/
  | elsewhere (use : Ledger → Waiters → Ledger × Waiters)

/-- Nobody has the data before the await starts. -/
def perform (exchange : DeliveryState) : OthersAction → DeliveryState
  | .deliver channel result =>
    match exchange.waiter with
    | none => exchange
    | some waiter =>
      if exchange.MayDeliver result then
        let accepted := decide (exchange.waiters.label? waiter = some channel)
        (JobAwait.deliver channel waiter.raw result
          { exchange with delivered := exchange.delivered ++ [⟨result, accepted⟩] }).2
      else exchange
  | .elsewhere use =>
    let (ledger, waiters) := use exchange.ledger exchange.waiters
    if exchange.Apart ledger waiters then { exchange with ledger := ledger, waiters := waiters }
    else exchange

/-- What several actions lead to, one after the other. -/
def performAll (exchange : DeliveryState) (actions : List OthersAction) : DeliveryState :=
  actions.foldl perform exchange

/-- What an action can come to. -/
inductive Step (before : DeliveryState) : DeliveryState → Prop where
  | elsewhere {ledger : Ledger} {waiters : Waiters} : before.Apart ledger waiters →
      Step before { before with ledger := ledger, waiters := waiters }
  | accepted {waiter : Handle} {result : JobResult} : before.waiter = some waiter →
      before.MayDeliver result → before.waiters.isOpen waiter = true →
      Step before { before with
        waiters := (Promises.keep waiter result before.waiters).2
        delivered := before.delivered ++ [⟨result, true⟩] }
  /-- A result that comes through another channel breaks the promise; one that comes when the
  promise is not open any more changes nothing about it. -/
  | refused {waiter : Handle} {result : JobResult} {ledger : Ledger} {waiters : Waiters} :
      before.waiter = some waiter → before.MayDeliver result →
      before.ledger.Sheds ledger result.allocations →
      waiters.value? waiter = before.waiters.value? waiter → waiters.isOpen waiter = false →
      Step before { before with
        ledger := ledger
        waiters := waiters
        delivered := before.delivered ++ [⟨result, false⟩] }

theorem Step.refl (exchange : DeliveryState) : exchange.Step exchange :=
  .elsewhere ⟨fun _ _ _ => rfl, fun _ _ gone => gone, fun _ _ => ⟨rfl, rfl⟩, id⟩

/-- Delivering a result is a step. -/
theorem step_deliver (own : exchange.waiter = some waiter) (may : exchange.MayDeliver result)
    (channel : Channel) :
    let accepted := decide (exchange.waiters.label? waiter = some channel)
    exchange.Step (JobAwait.deliver channel waiter.raw result
      { exchange with delivered := exchange.delivered ++ [⟨result, accepted⟩] }).2 := by
  have released := JobResult.sheds_discard may.owned (List.nodup_append.mp may.distinct).2.1
  intro accepted
  rcases known : exchange.waiters.label? waiter with _ | expected
  · have unaccepted : accepted = false := decide_eq_false (by rw [known]; exact nofun)
    have closed : exchange.waiters.isOpen waiter = false := congrArg Option.isSome known
    rw [unaccepted, JobAwait.deliver_of_none known]
    exact .refused own may released rfl closed
  · by_cases same : expected = channel
    · have kept : accepted = true := decide_eq_true (by rw [known, same])
      rw [kept, JobAwait.deliver_of_eq (same ▸ known)]
      exact .accepted own may (Promises.isOpen_of_label? known)
    · have unaccepted : accepted = false :=
        decide_eq_false (by rw [known]; exact fun equal => same (Option.some.inj equal))
      rw [unaccepted, JobAwait.deliver_of_ne known same]
      exact .refused own may released rfl (Promises.isOpen_breakOff exchange.waiters waiter)

/-- **Whatever others do is a step.** -/
theorem step_perform (exchange : DeliveryState) (action : OthersAction) :
    exchange.Step (exchange.perform action) := by
  cases action with
  | deliver channel result =>
      unfold perform
      rcases own : exchange.waiter with _ | waiter
      · exact .refl exchange
      · dsimp only
        split
        next may => exact own ▸ step_deliver own may channel
        next => exact .refl exchange
  | elsewhere use =>
      unfold perform
      dsimp only
      split
      next apart => exact .elsewhere apart
      next => exact .refl exchange

/-- What a step preserves holds after any number of actions. -/
theorem preserved_performAll {property : DeliveryState → Prop}
    (preserved : ∀ {before after}, before.Step after → property before → property after)
    (actions : List OthersAction) (holds : property exchange) :
      property (exchange.performAll actions) := by
  induction actions generalizing exchange with
  | nil => exact holds
  | cons action rest ih => exact ih (preserved (step_perform exchange action) holds)

/-! ## What holds at any time -/

/-- Nothing was given away twice, and nothing is left of what was refused. -/
structure Sound (exchange : DeliveryState) : Prop where
  distinct : exchange.handed.Nodup
  refused : ∀ delivery ∈ exchange.delivered, delivery.accepted = false →
    ∀ address ∈ delivery.result.allocations, exchange.ledger.find? address = none

theorem Sound.nodup_of_accepted (sound : exchange.Sound) (accepted : result ∈ exchange.accepted) :
    result.allocations.Nodup := by
  obtain ⟨delivery, listed, rfl⟩ := List.mem_map.mp accepted
  exact (List.nodup_flatMap.mp sound.distinct).1 delivery (List.mem_filter.mp listed).1

/-- What was given away stays so, and what was released does not come back. -/
structure Onward (before after : DeliveryState) : Prop where
  delivered : before.delivered <+: after.delivered
  gone : ∀ address ∈ before.handed, before.ledger.find? address = none →
    after.ledger.find? address = none

theorem Onward.handed (onward : before.Onward after) {address : Address}
    (given : address ∈ before.handed) : address ∈ after.handed := by
  obtain ⟨delivery, listed, own⟩ := List.mem_flatMap.mp given
  exact mem_handed (onward.delivered.subset listed) own

theorem Onward.refl (exchange : DeliveryState) : exchange.Onward exchange :=
  ⟨List.prefix_refl _, fun _ _ gone => gone⟩

theorem Onward.trans {between : DeliveryState} (first : before.Onward between)
    (second : between.Onward after) : before.Onward after :=
  ⟨first.delivered.trans second.delivered,
    fun address given gone =>
      second.gone address (first.handed given) (first.gone address given gone)⟩

/-- A step undoes no delivery, and brings no buffer back. -/
theorem Step.onward (step : before.Step after) : before.Onward after := by
  cases step with
  | elsewhere apart => exact ⟨List.prefix_refl _, apart.gone⟩
  | accepted own may isOpen => exact ⟨List.prefix_append _ _, fun _ _ gone => gone⟩
  | refused own may released value closed =>
      refine ⟨List.prefix_append _ _, fun address _ gone => ?_⟩
      rw [released address, gone, ite_self]

/-- **A step preserves soundness.** -/
theorem Step.sound (step : before.Step after) (sound : before.Sound) : after.Sound := by
  cases step with
  | elsewhere apart =>
      refine ⟨sound.distinct, fun delivery listed refused address own => ?_⟩
      have released := sound.refused delivery listed refused address own
      exact apart.gone address (mem_handed listed own) released
  | accepted own may isOpen =>
      refine ⟨?_, List.forall_mem_append.mpr ⟨sound.refused, List.forall_mem_singleton.mpr nofun⟩⟩
      rw [handed_of_delivered rfl]
      exact may.distinct
  | refused own may released value closed =>
      refine ⟨?_, List.forall_mem_append.mpr ⟨?_, List.forall_mem_singleton.mpr ?_⟩⟩
      · rw [handed_of_delivered rfl]
        exact may.distinct
      · intro delivery listed refused address own
        rw [released address, sound.refused delivery listed refused address own, ite_self]
      · intro _ address own
        exact released.find?_of_mem own

/-! ## As long as the await waits -/

/-- The await owns what its promise was kept with, and nothing else. -/
structure Awaits (exchange : DeliveryState) (waiter : Handle) : Prop where
  own : exchange.waiter = some waiter
  received : exchange.received = []
  accepted : exchange.accepted = (exchange.waiters.value? waiter).toList
  closed : ∀ result ∈ exchange.waiters.value? waiter, exchange.waiters.isOpen waiter = false
  owned : ∀ result ∈ exchange.accepted, result.Owned exchange.ledger

namespace Awaits

variable {ledger : Ledger} {waiters : Waiters}

/-- The await goes on waiting while other parts of the ledger and other promises change. -/
theorem elsewhere (awaits : exchange.Awaits waiter) (apart : exchange.Apart ledger waiters) :
    Awaits { exchange with ledger := ledger, waiters := waiters } waiter where
  own := awaits.own
  received := awaits.received
  accepted :=
    awaits.accepted.trans (congrArg Option.toList (apart.promise waiter awaits.own).2.symm)
  closed := by
    intro result kept
    obtain ⟨label, value⟩ := apart.promise waiter awaits.own
    exact (congrArg Option.isSome label).trans (awaits.closed result (value ▸ kept))
  owned := by
    intro result accepted
    refine (awaits.owned result accepted).congr fun address own => ?_
    refine apart.kept address (mem_handed_of_accepted accepted own) ?_
    rw [awaits.received]
    exact List.not_mem_nil

/-- An open promise was not kept before. -/
theorem accept (awaits : exchange.Awaits waiter) (may : exchange.MayDeliver result)
    (opened : exchange.waiters.isOpen waiter = true) :
    Awaits { exchange with
      waiters := (Promises.keep waiter result exchange.waiters).2
      delivered := exchange.delivered ++ [⟨result, true⟩] } waiter where
  own := awaits.own
  received := awaits.received
  accepted := by
    have unkept : exchange.waiters.value? waiter = none :=
      Option.eq_none_iff_forall_not_mem.mpr fun result kept =>
        Bool.false_ne_true ((awaits.closed result kept).symm.trans opened)
    rw [accepted_of_delivered rfl, awaits.accepted, Promises.value?_keep,
      if_pos (And.intro rfl opened), unkept]
    rfl
  closed := by
    intro result kept
    rw [Promises.isOpen_keep, if_pos rfl]
  owned := by
    rw [accepted_of_delivered rfl]
    exact List.forall_mem_append.mpr ⟨awaits.owned, List.forall_mem_singleton.mpr may.owned⟩

/-- What is released belongs to the result that is refused. -/
theorem refuse (awaits : exchange.Awaits waiter) (may : exchange.MayDeliver result)
    (released : exchange.ledger.Sheds ledger result.allocations)
    (value : waiters.value? waiter = exchange.waiters.value? waiter)
    (closed : waiters.isOpen waiter = false) :
    Awaits { exchange with
      ledger := ledger
      waiters := waiters
      delivered := exchange.delivered ++ [⟨result, false⟩] } waiter where
  own := awaits.own
  received := awaits.received
  accepted := by
    rw [accepted_of_delivered rfl, awaits.accepted, value]
    exact List.append_nil _
  closed := fun _ _ => closed
  owned := by
    rw [accepted_of_delivered rfl, if_neg Bool.false_ne_true, List.append_nil]
    intro result accepted
    refine (awaits.owned result accepted).congr fun address mine => ?_
    refine released.find?_of_not_mem fun theirs => ?_
    exact (List.nodup_append.mp may.distinct).2.2 address
      (mem_handed_of_accepted accepted mine) address theirs rfl

end Awaits

/-- A step leaves the await waiting, or keeps its promise. -/
theorem Step.awaits (step : before.Step after) (awaits : before.Awaits waiter) :
    after.Awaits waiter := by
  cases step with
  | elsewhere apart => exact awaits.elsewhere apart
  | accepted own may opened =>
      cases own.symm.trans awaits.own
      exact awaits.accept may opened
  | refused own may released value closed =>
      cases own.symm.trans awaits.own
      exact awaits.refuse may released value closed

/-! ## After the promise was closed -/

/-- The promise of the await cannot be kept any more. -/
def Closed (exchange : DeliveryState) : Prop :=
  ∀ waiter ∈ exchange.waiter, exchange.waiters.isOpen waiter = false

/-- An await that has not started has no promise that could be kept. -/
theorem closed_of_none (unstarted : exchange.waiter = none) : exchange.Closed := by
  intro waiter own
  cases unstarted.symm.trans own

/-- What was given away is left as it is, except by whoever received it. -/
structure Idles (before after : DeliveryState) : Prop where
  closed : after.Closed
  accepted : after.accepted = before.accepted
  received : after.received = before.received
  delivered : before.delivered <+: after.delivered
  kept : ∀ address ∈ before.handed, address ∉ before.received →
    after.ledger.find? address = before.ledger.find? address

theorem Idles.refl (closed : exchange.Closed) : exchange.Idles exchange :=
  ⟨closed, rfl, rfl, List.prefix_refl _, fun _ _ _ => rfl⟩

/-- Once the promise is closed, a step hands nothing over any more. -/
theorem Step.idles (step : before.Step after) (closed : before.Closed) : before.Idles after := by
  cases step with
  | elsewhere apart =>
      refine ⟨fun waiter own => ?_, rfl, rfl, List.prefix_refl _, apart.kept⟩
      exact (congrArg Option.isSome (apart.promise waiter own).1).trans (closed waiter own)
  | accepted own may isOpen =>
      exact absurd ((closed _ own).symm.trans isOpen) Bool.false_ne_true
  | @refused waiter result ledger waiters own may released value shut =>
      refine ⟨fun other same => ?_, ?_, rfl, List.prefix_append _ _, fun address given _ => ?_⟩
      · cases own.symm.trans same
        exact shut
      · rw [accepted_of_delivered rfl]
        exact List.append_nil _
      · refine released.find?_of_not_mem fun theirs => ?_
        exact (List.nodup_append.mp may.distinct).2.2 address given address theirs rfl

/-- Once the promise is closed, no number of actions hands anything over. -/
theorem idles_performAll (closed : exchange.Closed) (actions : List OthersAction) :
    exchange.Idles (exchange.performAll actions) := by
  refine preserved_performAll (fun step idles => ?_) actions (.refl closed)
  have next := step.idles idles.closed
  refine ⟨next.closed, next.accepted.trans idles.accepted, next.received.trans idles.received,
    idles.delivered.trans next.delivered, fun address given unreceived => ?_⟩
  obtain ⟨delivery, listed, own⟩ := List.mem_flatMap.mp given
  have still := next.kept address (mem_handed (idles.delivered.subset listed) own)
    (idles.received ▸ unreceived)
  exact still.trans (idles.kept address given unreceived)

/-- Loses interest in the promise, while others go on. -/
def leave (exchange : DeliveryState) (waiter : Handle) (actions : List OthersAction) :
    DeliveryState :=
  { exchange with waiters := (Promises.forget waiter exchange.waiters).2 }.performAll actions

theorem Sound.leave (sound : exchange.Sound) (waiter : Handle) (actions : List OthersAction) :
    (exchange.leave waiter actions).Sound :=
  preserved_performAll Step.sound actions ⟨sound.distinct, sound.refused⟩

theorem onward_leave (exchange : DeliveryState) (waiter : Handle) (actions : List OthersAction) :
    exchange.Onward (exchange.leave waiter actions) :=
  preserved_performAll (fun step onward => onward.trans step.onward) actions
    ⟨List.prefix_refl _, fun _ _ gone => gone⟩

/-- Once the await has left its promise, nothing is handed over any more. -/
theorem Awaits.idles_leave (awaits : exchange.Awaits waiter) (actions : List OthersAction) :
    exchange.Idles (exchange.leave waiter actions) := by
  let left := { exchange with waiters := (Promises.forget waiter exchange.waiters).2 }
  have shut : left.Closed := by
    intro other same
    cases awaits.own.symm.trans same
    change (Promises.forget waiter exchange.waiters).2.isOpen waiter = false
    rw [Promises.isOpen_forget, if_pos rfl]
  obtain ⟨closed, accepted, received, delivered, kept⟩ := idles_performAll shut actions
  exact ⟨closed, accepted, received, delivered, kept⟩

/-- The await still owns the result when the others are done. -/
theorem Awaits.owned_leave (awaits : exchange.Awaits waiter) (actions : List OthersAction) :
    ∀ result ∈ exchange.accepted, result.Owned (exchange.leave waiter actions).ledger := by
  intro result accepted
  refine (awaits.owned result accepted).congr fun address own => ?_
  refine (awaits.idles_leave actions).kept address (mem_handed_of_accepted accepted own) ?_
  rw [awaits.received]
  exact List.not_mem_nil

end DeliveryState

end Boundary
