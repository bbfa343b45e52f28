import Boundary.Proofs.Call.InProcess
import Boundary.Proofs.Call.Passage
import Boundary.Proofs.Future.AwaitRun
import Boundary.Proofs.Future.StoredContinuation

/-! # An await among others

Several awaits share the continuations of a host and the registries of a core. Each of them
runs on both (`Boundary.TracedBridge`), and forgets no continuation but its own and those that it
makes on the way (`Boundary.Await.Owns`). So what it does to the others is made of changes
that displace no continuation of theirs, and an await whose continuation is stored when it
is suspended has it stored whenever it is suspended again; when it ends, its future is gone,
and was cancelled before or its result was asked for (`Boundary.Await.Fares`).
-/

namespace Boundary

/-- What an await works on: core and host, and the calls that it made of entry points for
futures. -/
structure TracedBridge (ι : Type) where
  bridge : Bridge ι
  calls : List FutureCall

namespace TracedBridge

variable {ι α : Type}

instance : Part (TracedBridge ι) (Bridge ι) where
  get traced := traced.bridge
  set bridge traced := { traced with bridge := bridge }
  get_set _ _ := rfl
  set_get _ := rfl
  set_set _ _ _ := rfl

instance : Part (TracedBridge ι) Ledger :=
  Part.within (inferInstance : Part (TracedBridge ι) (Bridge ι))
    (inferInstance : Part (Bridge ι) Ledger)

instance : Part (TracedBridge ι) Continuations :=
  Part.within (inferInstance : Part (TracedBridge ι) (Bridge ι))
    (inferInstance : Part (Bridge ι) Continuations)

/-- An entry point for futures is called. -/
def call (made : FutureCall) (entry : StateM (Bridge ι) α) : StateM (TracedBridge ι) α := do
  modify fun traced => { traced with calls := traced.calls ++ [made] }
  onPart entry

/-- The traced bridge with other continuations. -/
def withContinuations (continuations : Continuations) (traced : TracedBridge ι) : TracedBridge ι :=
  ⟨{ traced.bridge with continuations := continuations }, traced.calls⟩

variable [DecidableEq ι]

/-- The entry points for the futures of a registry. -/
def points (index : ι) : FutureEntryPoints (TracedBridge ι) Passed where
  poll future data := call (.poll future data)
    (@Futures.poll _ (Bridge.registry index) Bridge.host future data)
  complete future := call (.complete future)
    (@onPart _ _ _ (Bridge.registry index) (Futures.complete future))
  cancel future := call (.cancel future)
    (@Futures.cancel _ (Bridge.registry index) Bridge.host future)
  free future := call (.free future)
    (@Futures.free _ (Bridge.registry index) Bridge.host future)

end TracedBridge

/-- A caller in the same process gives buffers back on the ledger alone. -/
theorem Caller.freeKeeps_inProcess {σ : Type} [Part σ Ledger] {holds : σ → Prop}
    (memory : ∀ (ledger : Ledger) state, holds state → holds (Part.set ledger state)) :
    (inProcess : Caller σ).FreeKeeps holds := by
  intro buffer state held
  have freed : (inProcess : Caller σ).free buffer = onPart _ :=
    (onPart_enveloped () buffer.free).symm
  rw [freed]
  exact memory _ state held

/-! ## Calls -/

namespace FutureCall

/-- The future was polled, and that was all. -/
def OnlyPolls (future : Handle) (calls : List FutureCall) : Prop :=
  ∀ call ∈ calls, ∃ data, call = .poll future data

/-- The future was polled, then its result was asked for or it was cancelled, and last it was
freed. -/
def Concluded (future : Handle) (calls : List FutureCall) : Prop :=
  ∃ polls, OnlyPolls future polls ∧
    (calls = polls ++ [.complete future, .free future] ∨
      calls = polls ++ [.cancel future, .free future])

variable {future : Handle} {calls : List FutureCall}

theorem onlyPolls_nil : OnlyPolls future [] := fun _ member => nomatch member

/-- One poll more leaves only polls. -/
theorem OnlyPolls.append_poll (polls : OnlyPolls future calls) (data : UInt64) :
    OnlyPolls future (calls ++ [.poll future data]) := by
  intro call member
  rcases List.mem_append.mp member with earlier | last
  · exact polls call earlier
  · exact ⟨data, List.mem_singleton.mp last⟩

end FutureCall

/-! ## Awaits -/

namespace Await

/-- The continuation that an await is suspended on. -/
def continuation? : Await → Option Handle
  | parked _ continuation => some continuation
  | unpolled _ | polling _ | ended => none

variable {ι : Type} {before between after traced : TracedBridge ι} {index : ι} {future : Handle}
  {await reached last : Await}

/-- The continuation that an await is suspended on is its own, and every one that is not made
yet may become so. -/
def Owns (await : Await) (traced : TracedBridge ι) (continuation : Handle) : Prop :=
  await.continuation? = some continuation ∨
    traced.bridge.continuations.table.next ≤ continuation.raw.toNat

/-- How an await stands that was begun: it called for nothing but polls until it ended, while it
is suspended its continuation is stored, and when it has ended its future is gone. -/
def Tended (index : ι) (future : Handle) (traced : TracedBridge ι) : Await → Prop
  | unpolled _ => False
  | polling polled => polled = future ∧ future.raw.toNat < traced.bridge.next index ∧
      FutureCall.OnlyPolls future traced.calls
  | parked polled continuation => polled = future ∧
      traced.bridge.Stored index future continuation ∧ FutureCall.OnlyPolls future traced.calls
  | ended => traced.bridge.Gone index future ∧ FutureCall.Concluded future traced.calls

/-- What comes of steps of an await. -/
structure Fares (index : ι) (before : TracedBridge ι) (await : Await) (after : TracedBridge ι)
    (reached : Await) : Prop where
  changes : Bridge.Changes (await.Owns before) before.bridge after.bridge
  own : ∀ continuation, reached.continuation? = some continuation → await.Owns before continuation
  tended : ∀ future, await.Tended index future before → reached.Tended index future after

/-- Nothing that spares the continuation of an await changes how it stands. -/
theorem Tended.changes {forgets : Handle → Prop} {bridge : Bridge ι}
    (tended : await.Tended index future traced)
    (changes : Bridge.Changes forgets traced.bridge bridge)
    (spared : ∀ continuation, await.continuation? = some continuation → ¬ forgets continuation) :
    await.Tended index future ⟨bridge, traced.calls⟩ := by
  cases await with
  | unpolled => exact tended
  | polling polled =>
      obtain ⟨same, started, polls⟩ := tended
      exact ⟨same, Nat.lt_of_lt_of_le started (changes.onward.next index), polls⟩
  | parked polled continuation =>
      obtain ⟨same, stored, polls⟩ := tended
      exact ⟨same, stored.changes changes (spared continuation rfl), polls⟩
  | ended =>
      obtain ⟨gone, concluded⟩ := tended
      exact ⟨gone.changes changes, concluded⟩

namespace Fares

theorem refl (traced : TracedBridge ι) (await : Await) : Fares index traced await traced await :=
  ⟨.refl, fun _ => .inl, fun _ => id⟩

/-- What an await comes to own on the way, it may own from the start. -/
theorem owns_of_owns (first : Fares index before await between reached) {continuation : Handle}
    (owns : reached.Owns between continuation) : await.Owns before continuation :=
  owns.elim (first.own continuation) fun unissued =>
    .inr (Nat.le_trans first.changes.onward.continuations unissued)

theorem trans (first : Fares index before await between reached)
    (second : Fares index between reached after last) : Fares index before await after last where
  changes := first.changes.trans (second.changes.mono fun _ => first.owns_of_owns)
  own continuation holds := first.owns_of_owns (second.own continuation holds)
  tended future := second.tended future ∘ first.tended future

end Fares

variable [DecidableEq ι] {forgets : Handle → Prop}

theorem changes_giveUp (index : ι) (future : Handle) (traced : TracedBridge ι) :
    Bridge.Changes forgets traced.bridge
      (giveUp (TracedBridge.points index) future traced).2.bridge :=
  (Bridge.Does.cancel index future traced.bridge).trans (Bridge.Does.free index future _)

/-- A future that an await gives up is cancelled and gone. -/
theorem tended_giveUp (started : future.raw.toNat < traced.bridge.next index)
    (polls : FutureCall.OnlyPolls future traced.calls) :
    ended.Tended index future (giveUp (TracedBridge.points index) future traced).2 := by
  have cancelled : Bridge.Changes (fun _ => False) traced.bridge _ :=
    Bridge.Does.cancel index future traced.bridge
  refine ⟨Bridge.gone_of_free (Nat.lt_of_lt_of_le started (cancelled.onward.next index)),
    traced.calls, polls, .inr ?_⟩
  exact List.append_assoc traced.calls [.cancel future] [.free future]

variable {ε : Type} (declared : Read ε)

/-- What there is before the future is freed whose result is fetched. -/
theorem fetched (index : ι) (future : Handle) (traced : TracedBridge ι) :
    let called :=
      ((Caller.inProcess.call declared ((TracedBridge.points index).complete future)).observe
      traced).2
    Bridge.Changes forgets traced.bridge called.bridge ∧
      called.calls = traced.calls ++ [.complete future] := by
  intro called
  have freeing : (Caller.inProcess : Caller (TracedBridge ι)).FreeKeeps fun state =>
      Bridge.Changes forgets traced.bridge state.bridge ∧
        state.calls = traced.calls ++ [.complete future] :=
    Caller.freeKeeps_inProcess fun ledger state ⟨changes, calls⟩ =>
      ⟨changes.trans (Bridge.Does.elsewhere (modify fun _ => ledger) state.bridge), calls⟩
  exact Caller.call_keeps freeing declared ⟨Bridge.Does.complete index future traced.bridge, rfl⟩

theorem changes_fetch (index : ι) (future : Handle) (traced : TracedBridge ι) :
    Bridge.Changes forgets traced.bridge
      (fetch Caller.inProcess (TracedBridge.points index) declared future traced).2.bridge :=
  (fetched declared index future traced).1.trans (Bridge.Does.free index future _)

/-- A future whose result is fetched is gone. -/
theorem tended_fetch (started : future.raw.toNat < traced.bridge.next index)
    (polls : FutureCall.OnlyPolls future traced.calls) :
    ended.Tended index future
      (fetch Caller.inProcess (TracedBridge.points index) declared future traced).2 := by
  obtain ⟨changes, calls⟩ :
    Bridge.Changes (fun _ => False) traced.bridge _ ∧ _ := fetched declared index future traced
  refine ⟨Bridge.gone_of_free (Nat.lt_of_lt_of_le started (changes.onward.next index)),
    traced.calls, polls, .inl ?_⟩
  exact (congrArg (· ++ [FutureCall.free future]) calls).trans
    (List.append_assoc traced.calls [.complete future] [.free future])

/-! ### One step -/

/-- The step of an await is such a step. -/
def Steps (index : ι) (declared : Read ε) (traced : TracedBridge ι) (await : Await) : Prop :=
  Fares index traced await
    (advance Caller.inProcess (TracedBridge.points index) declared await traced).2
    ((advance Caller.inProcess (TracedBridge.points index) declared await traced).1.reached await)

/-- An await that polls stores the continuation that it makes, and changes no other. -/
theorem polling_steps (orderly : traced.bridge.continuations.Orderly) (polled : Handle) :
    Steps index declared traced (polling polled) := by
  have ran : (onPart (Promises.make () : StateM Continuations (Except HandleError Handle)) :
      StateM (TracedBridge ι) (Except HandleError Handle)) traced =
    ((Promises.make () traced.bridge.continuations).1,
      traced.withContinuations (Promises.make () traced.bridge.continuations).2) := rfl
  have opened : Bridge.Changes ((polling polled).Owns traced) traced.bridge
      (traced.withContinuations (Promises.make () traced.bridge.continuations).2).bridge :=
    .single (.made rfl rfl)
  unfold Steps
  rcases made : Promises.make () traced.bridge.continuations with ⟨cause | continuation, after⟩
  · rw [made] at ran opened
    rw [advance_polling_of_error ran]
    refine ⟨opened.trans (changes_giveUp index polled (traced.withContinuations after)), nofun, ?_⟩
    rintro future ⟨rfl, started, polls⟩
    exact tended_giveUp started polls
  · obtain ⟨number, isOpen, _⟩ := Promises.make_eq_ok orderly made
    have next := Promises.next_make traced.bridge.continuations ()
    rw [made] at ran opened next
    rw [advance_polling_of_ok ran]
    have poll : Bridge.Changes ((polling polled).Owns traced) _ _ :=
      Bridge.Does.poll index polled continuation.raw (traced.withContinuations after).bridge
    refine ⟨opened.trans poll, fun other same => ?_, ?_⟩
    · -- Its handle was not issued before, so no other await is suspended on it.
      cases Option.some.inj same
      exact .inr (Nat.le_of_eq number.symm)
    · rintro future ⟨rfl, started, polls⟩
      refine ⟨rfl, Bridge.stored_of_poll ⟨started, ?_, .inl isOpen⟩, polls.append_poll _⟩
      exact number ▸ next ▸ Nat.lt_succ_self _

omit [DecidableEq ι] in
/-- A suspended await may forget its continuation. -/
theorem parked_forgets (polled continuation : Handle) (traced : TracedBridge ι) :
    Bridge.Changes ((parked polled continuation).Owns traced) traced.bridge
      (forgetting continuation traced).bridge :=
  .single (.forgot (.inl rfl) rfl rfl)

/-- An await that looks at its continuation changes no other future. -/
theorem parked_steps (polled continuation : Handle) :
    Steps index declared traced (parked polled continuation) := by
  have forgets := parked_forgets polled continuation traced
  have started {future : Handle} (stored : traced.bridge.Stored index future continuation) :
      future.raw.toNat < (forgetting continuation traced).bridge.next index :=
    Nat.lt_of_lt_of_le stored.started (forgets.onward.next index)
  unfold Steps
  rcases status : statusIn traced continuation with _ | code | _
  case waiting =>
    rw [advance_waiting status]
    exact .refl traced _
  case broken =>
    rw [advance_broken status]
    refine ⟨changes_giveUp index polled traced, nofun, ?_⟩
    rintro future ⟨rfl, stored, polls⟩
    exact tended_giveUp stored.started polls
  case kept =>
    rcases known : PollCode.ofNumber? code with _ | _ | _
    case none =>
      rw [advance_unknown status known]
      refine ⟨forgets.trans (changes_giveUp index polled _), nofun, ?_⟩
      rintro future ⟨rfl, stored, polls⟩
      exact tended_giveUp (started stored) polls
    case some.ready =>
      cases PollCode.number_of_ofNumber? known
      rw [advance_ready status]
      refine ⟨forgets.trans (changes_fetch declared index polled _), nofun, ?_⟩
      rintro future ⟨rfl, stored, polls⟩
      exact tended_fetch declared (started stored) polls
    case some.wake =>
      cases PollCode.number_of_ofNumber? known
      rw [advance_wake status]
      refine ⟨forgets, nofun, ?_⟩
      rintro future ⟨rfl, stored, polls⟩
      exact ⟨rfl, started stored, polls⟩

/-- **An await fares well in each of its steps.** -/
theorem steps (orderly : traced.bridge.continuations.Orderly) (await : Await) :
    Steps index declared traced await := by
  cases await with
  | polling polled => exact polling_steps declared orderly polled
  | parked polled continuation => exact parked_steps declared polled continuation
  | ended => exact .refl traced .ended
  | unpolled polled =>
      unfold Steps
      by_cases valid : polled.isValid = true
      · rw [advance_unpolled valid]
        exact ⟨.refl, nofun, fun _ => False.elim⟩
      · rw [advance_invalid valid]
        exact ⟨.refl, nofun, fun _ => False.elim⟩

omit [DecidableEq ι] in
theorem Fares.orderly (fares : Fares index before await after reached)
    (orderly : before.bridge.continuations.Orderly) : after.bridge.continuations.Orderly :=
  fares.changes.onward.orderly orderly

/-- An await fares well in a run. -/
theorem fares_run (orderly : traced.bridge.continuations.Orderly) (fuel : Nat) (await : Await) :
    Fares index traced await
      (run Caller.inProcess (TracedBridge.points index) declared fuel await traced).2
      (run Caller.inProcess (TracedBridge.points index) declared fuel await traced).1.1 := by
  induction fuel generalizing traced await with
  | zero => exact .refl traced await
  | succ fuel ih =>
      have first : Steps index declared traced await := steps declared orderly await
      unfold Steps at first
      rcases step : advance Caller.inProcess (TracedBridge.points index) declared await traced with
        ⟨next | _ | outcome, between⟩
      · rw [step] at first
        rw [run_of_next step]
        exact first.trans (ih (first.orderly orderly) next)
      · rw [step] at first
        rw [run_of_suspended step]
        exact first
      · rw [step] at first
        rw [run_of_ended step]
        exact first

/-- An await whose future is there is begun by its first step. -/
theorem tended_run_unpolled (traced : TracedBridge ι)
    (orderly : traced.bridge.continuations.Orderly)
    (valid : future.isValid = true) (started : future.raw.toNat < traced.bridge.next index)
    (fresh : traced.calls = []) (fuel : Nat) :
    (run Caller.inProcess (TracedBridge.points index) declared (fuel + 1) (unpolled future)
      traced).1.1.Tended index future
      (run Caller.inProcess (TracedBridge.points index) declared (fuel + 1) (unpolled future)
        traced).2 := by
  rw [run_of_next (advance_unpolled valid)]
  refine (fares_run declared orderly fuel (polling future)).tended future ⟨rfl, started, ?_⟩
  rw [fresh]
  exact FutureCall.onlyPolls_nil

/-- An await fares well when it is dropped. -/
theorem fares_drop (await : Await) :
    Fares index traced await (drop (TracedBridge.points index) await traced).2 ended := by
  cases await with
  | unpolled polled => exact ⟨.refl, nofun, fun _ => False.elim⟩
  | ended => exact .refl traced ended
  | polling polled =>
      refine ⟨changes_giveUp index polled traced, nofun, ?_⟩
      rintro future ⟨rfl, started, polls⟩
      exact tended_giveUp started polls
  | parked polled continuation =>
      have forgets := parked_forgets polled continuation traced
      refine ⟨forgets.trans (changes_giveUp index polled _), nofun, ?_⟩
      rintro future ⟨rfl, stored, polls⟩
      exact tended_giveUp (Nat.lt_of_lt_of_le stored.started (forgets.onward.next index)) polls

end Await

end Boundary
