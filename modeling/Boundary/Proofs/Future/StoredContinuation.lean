import Boundary.Proofs.Future.Bridge

/-! # Where a continuation is while an await is suspended

A continuation is stored at a future when, as long as nobody resumed it, the slot of the
future holds it, unless the slot was cancelled or the future is no longer there
(`Boundary.Bridge.Stored`). A poll stores the continuation that it comes with
(`Boundary.Bridge.stored_of_poll`), and nothing that happens afterwards displaces it
(`Boundary.Bridge.Stored.changes`). A future that was freed is gone for good
(`Boundary.Bridge.gone_of_free`, `Boundary.Bridge.Gone.changes`).
-/

namespace Boundary

namespace Slot

/-- Whatever the slot is, the decision leaves the continuation in it, resumes it, or finds the
slot cancelled. -/
def Takes (data : UInt64) (decision : Slot → Option Signal × Slot) : Prop :=
  ∀ slot, (decision slot).2 = .cancelled ∨ (decision slot).2 = .waiting data ∨
    ∃ code, (decision slot).1 = some ⟨data, code⟩

/-- Storing a continuation leaves it in the slot, or resumes it at once. -/
theorem takes_store (data : UInt64) : Takes data (store data) := by
  intro slot
  cases slot with
  | empty | waiting => exact .inr (.inl rfl)
  | waked => exact .inr (.inr ⟨.wake, rfl⟩)
  | cancelled => exact .inl rfl

theorem takes_ready (data : UInt64) : Takes data (ready data) := by
  intro slot
  cases slot with
  | cancelled => exact .inl rfl
  | empty | waked | waiting => exact .inr (.inr ⟨.ready, rfl⟩)

end Slot

namespace Bridge

variable {ι : Type} {forgets : Handle → Prop} {before after bridge : Bridge ι} {index : ι}
  {future continuation : Handle}

/-! ## Continuations -/

/-- The continuation is registered, or was resumed with a code that nobody took. -/
def Attended (continuations : Continuations) (continuation : Handle) : Prop :=
  continuations.isOpen continuation = true ∨ (continuations.value? continuation).isSome

/-- A signal keeps the promise it is sent to, and no other. -/
theorem isOpen_resumed_iff (signal : Option Signal) (continuations : Continuations) :
    (resumed signal continuations).isOpen continuation = true ↔
      (∀ sent ∈ signal, sent.data ≠ continuation.raw) ∧
        continuations.isOpen continuation = true := by
  cases signal with
  | none => simp only [resumed, Option.not_mem_none, false_implies, implies_true, true_and]
  | some sent =>
      have same : continuation = ⟨sent.data⟩ ↔ sent.data = continuation.raw :=
        ⟨fun same => same ▸ rfl, fun same => same ▸ rfl⟩
      simp only [resumed, Continuations.resume, Promises.isOpen_keep, Option.mem_some_iff,
        forall_eq', ne_eq, ← same]
      split
      next here => simp only [here, Bool.false_eq_true, not_true_eq_false, false_and]
      next apart => simp only [apart, not_false_eq_true, true_and]

/-- A continuation that is attended stays so when another is resumed. -/
theorem Attended.resumed {continuations : Continuations}
    (attended : Attended continuations continuation) (signal : Option Signal) :
    Attended (resumed signal continuations) continuation := by
  cases signal with
  | none => exact attended
  | some sent =>
      unfold Attended Bridge.resumed Continuations.resume
      rw [Promises.isOpen_keep, Promises.value?_keep]
      by_cases here : continuation = ⟨sent.data⟩
      · refine .inr ?_
        split
        next resumes => simp only [Option.isSome_or, Option.isSome_some, Bool.or_true]
        next done =>
          rcases attended with opened | kept
          · exact absurd ⟨here, here ▸ opened⟩ done
          · exact kept
      · simp only [here, ↓reduceIte, false_and]
        exact attended

/-- A continuation that is attended stays so when another is made. -/
theorem Attended.made {continuations : Continuations}
    (attended : Attended continuations continuation)
    (issued : continuation.raw.toNat < continuations.table.next) :
    Attended (Promises.make () continuations).2 continuation := by
  unfold Attended
  rw [Promises.isOpen_make_of_issued issued]
  exact attended

/-- A continuation that is attended stays so when another is forgotten. -/
theorem Attended.forgot {continuations : Continuations} {other : Handle}
    (attended : Attended continuations continuation) (apart : continuation ≠ other) :
    Attended (Promises.forget other continuations).2 continuation := by
  unfold Attended
  rw [Promises.isOpen_forget, Promises.value?_forget, if_neg apart, if_neg apart]
  exact attended

/-- A continuation that is attended to and was not resumed can still be. -/
theorem Attended.isOpen {continuations : Continuations}
    (attended : Attended continuations continuation)
    (unresumed : ∀ code, continuations.status continuation ≠ .kept code) :
    continuations.isOpen continuation = true ∧ continuations.value? continuation = none := by
  rw [Promises.status_eq] at unresumed
  cases kept : continuations.value? continuation with
  | some code =>
      rw [kept] at unresumed
      exact absurd rfl (unresumed code)
  | none =>
      rcases attended with isOpen | resumed
      · exact ⟨isOpen, rfl⟩
      · rw [kept] at resumed
        cases resumed

/-! ## No handle is issued twice -/

/-- Handles that were issued stay so. -/
structure Onward (before after : Bridge ι) : Prop where
  next : ∀ i, before.next i ≤ after.next i
  continuations : before.continuations.table.next ≤ after.continuations.table.next
  orderly : before.continuations.Orderly → after.continuations.Orderly

theorem next_resumed (signal : Option Signal) (continuations : Continuations) :
    (resumed signal continuations).table.next = continuations.table.next := by
  cases signal with
  | none => rfl
  | some sent => exact Promises.next_keep _ _ _

theorem orderly_resumed {continuations : Continuations} (orderly : continuations.Orderly)
    (signal : Option Signal) : (resumed signal continuations).Orderly := by
  cases signal with
  | none => exact orderly
  | some sent => exact orderly.keep _ _

/-- A change takes back no handle that was issued. -/
theorem Change.onward (change : Change forgets before after) : Onward before after := by
  cases change with
  | quiet _ next same =>
      exact ⟨next, Nat.le_of_eq (same ▸ rfl), fun orderly => same ▸ orderly⟩
  | decided _ _ puts resumes =>
      refine ⟨fun i => Nat.le_of_eq (puts.next i).symm, ?_, fun orderly => ?_⟩
      · rw [resumes, next_resumed]
      · rw [resumes]
        exact orderly_resumed orderly _
  | silenced _ puts same | erased puts same =>
      exact ⟨fun i => Nat.le_of_eq (puts.next i).symm, Nat.le_of_eq (same ▸ rfl),
        fun orderly => same ▸ orderly⟩
  | made registries makes =>
      refine ⟨fun i => Nat.le_of_eq ?_, ?_, fun orderly => ?_⟩
      · rw [next, next, registries]
      · rw [makes, Promises.next_make]
        exact Nat.le_succ _
      · rw [makes]
        exact orderly.make ()
  | forgot _ registries forgets =>
      refine ⟨fun i => Nat.le_of_eq ?_, ?_, fun orderly => ?_⟩
      · rw [next, next, registries]
      · rw [forgets]
        exact Nat.le_refl _
      · rw [forgets]
        exact orderly.forget _

/-- Nor do several changes. -/
theorem Changes.onward (changes : Changes forgets before after) : Onward before after := by
  induction changes with
  | refl => exact ⟨fun _ => Nat.le_refl _, Nat.le_refl _, id⟩
  | tail _ change ih =>
      have last := change.onward
      exact ⟨fun i => Nat.le_trans (ih.next i) (last.next i),
        Nat.le_trans ih.continuations last.continuations, last.orderly ∘ ih.orderly⟩

/-! ## Futures that were freed -/

/-- The future was started, and its registry does not know it any more. -/
structure Gone (bridge : Bridge ι) (index : ι) (future : Handle) : Prop where
  started : future.raw.toNat < bridge.next index
  unknown : bridge.slot? index future = none

theorem slot?_of_registries (same : after.registries = before.registries) (index : ι)
    (future : Handle) : after.slot? index future = before.slot? index future := by
  rw [slot?, slot?, same]

/-- A future that is gone stays gone through a change. -/
theorem Gone.change (gone : Gone before index future) (change : Change forgets before after) :
    Gone after index future := by
  refine ⟨Nat.lt_of_lt_of_le gone.started (change.onward.next index), ?_⟩
  have apart {i : ι} {h : Handle} (known : (before.slot? i h).isSome) :
      ¬ (index = i ∧ future = h) := by
    rintro ⟨rfl, rfl⟩
    rw [gone.unknown] at known
    cases known
  cases change with
  | quiet slots _ _ => exact (slots index future gone.started).trans gone.unknown
  | decided _ found puts _ =>
      exact (puts.elsewhere index future (apart (Option.isSome_of_eq_some found))).trans
        gone.unknown
  | silenced known puts _ => exact (puts.elsewhere index future (apart known)).trans gone.unknown
  | @erased i h puts _ =>
      by_cases here : index = i ∧ future = h
      · obtain ⟨rfl, rfl⟩ := here
        exact puts.here
      · exact (puts.elsewhere index future here).trans gone.unknown
  | made registries _ | forgot _ registries _ =>
      exact (slot?_of_registries registries index future).trans gone.unknown

theorem Gone.changes (gone : Gone before index future) (changes : Changes forgets before after) :
    Gone after index future := by
  induction changes with
  | refl => exact gone
  | tail _ change ih => exact ih.change change

/-! ## Continuations that are held -/

/-- As long as the continuation is not resumed, the slot of the future holds it, unless the
future was cancelled or is not known any more. -/
def Held (bridge : Bridge ι) (index : ι) (future continuation : Handle) : Prop :=
  bridge.continuations.isOpen continuation = true → ∀ slot,
    bridge.slot? index future = some slot → slot = .cancelled ∨ slot = .waiting continuation.raw

/-- The future was started, and a continuation that was made for it is attended to. -/
structure Registered (bridge : Bridge ι) (index : ι) (future continuation : Handle) : Prop where
  started : future.raw.toNat < bridge.next index
  issued : continuation.raw.toNat < bridge.continuations.table.next
  attended : Attended bridge.continuations continuation

/-- A continuation stays registered through a change that does not forget it. -/
theorem Registered.change (registered : Registered before index future continuation)
    (change : Change forgets before after) (remembered : ¬ forgets continuation) :
    Registered after index future continuation := by
  have onward := change.onward
  refine ⟨Nat.lt_of_lt_of_le registered.started (onward.next index),
    Nat.lt_of_lt_of_le registered.issued onward.continuations, ?_⟩
  have attended := registered.attended
  cases change with
  | quiet _ _ same | silenced _ _ same | erased _ same => exact same ▸ attended
  | decided _ _ _ resumes => exact resumes ▸ attended.resumed _
  | made _ makes => exact makes ▸ attended.made registered.issued
  | @forgot forgotten allowed _ forgot =>
      refine forgot ▸ attended.forgot fun same => ?_
      exact remembered (same ▸ allowed)

/-- A continuation that is not forgotten stays registered. -/
theorem Registered.changes (registered : Registered before index future continuation)
    (changes : Changes forgets before after) (remembered : ¬ forgets continuation) :
    Registered after index future continuation := by
  induction changes with
  | refl => exact registered
  | tail _ change ih => exact ih.change change remembered

/-- The continuation of a poll of the future is attended to, and it is held unless it was
resumed. -/
structure Stored (bridge : Bridge ι) (index : ι) (future continuation : Handle) : Prop extends
    Registered bridge index future continuation where
  held : Held bridge index future continuation

/-- Nothing displaces a continuation, except forgetting it. -/
theorem Stored.change (stored : Stored before index future continuation)
    (change : Change forgets before after) (remembered : ¬ forgets continuation) :
    Stored after index future continuation := by
  refine ⟨stored.toRegistered.change change remembered, ?_⟩
  have held := stored.held
  unfold Held at held ⊢
  cases change with
  | quiet slots _ same =>
      rw [same, slots index future stored.started]
      exact held
  | @decided i h slot decision careful found puts resumes =>
      rw [resumes, isOpen_resumed_iff]
      rintro ⟨others, opened⟩ left there
      by_cases here : index = i ∧ future = h
      · obtain ⟨rfl, rfl⟩ := here
        cases puts.here.symm.trans there
        -- The slot held the continuation before; were it to give it up, the signal would resume it.
        rcases held opened slot found with rfl | rfl
        · exact .inl careful.cancelled
        · refine .inr ((careful.waiting _).resolve_right ?_)
          rintro ⟨code, sent⟩
          exact others _ sent rfl
      · rw [puts.elsewhere index future here] at there
        exact held opened left there
  | @silenced i h _ puts same =>
      rw [same]
      intro opened left there
      by_cases here : index = i ∧ future = h
      · obtain ⟨rfl, rfl⟩ := here
        exact .inl (Option.some.inj (puts.here.symm.trans there)).symm
      · rw [puts.elsewhere index future here] at there
        exact held opened left there
  | @erased i h puts same =>
      rw [same]
      intro opened left there
      by_cases here : index = i ∧ future = h
      · obtain ⟨rfl, rfl⟩ := here
        cases puts.here.symm.trans there
      · rw [puts.elsewhere index future here] at there
        exact held opened left there
  | made registries makes =>
      rw [makes, Promises.isOpen_make_of_issued stored.issued, slot?_of_registries registries]
      exact held
  | @forgot forgotten allowed registries forgot =>
      rw [forgot, Promises.isOpen_forget, slot?_of_registries registries]
      split
      · exact nofun
      · exact held

/-- A continuation that is not forgotten stays stored. -/
theorem Stored.changes (stored : Stored before index future continuation)
    (changes : Changes forgets before after) (remembered : ¬ forgets continuation) :
    Stored after index future continuation := by
  induction changes with
  | refl => exact stored
  | tail _ change ih => exact ih.change change remembered

/-! ## Polling stores and freeing removes -/

variable [DecidableEq ι]

/-- The computation leaves the continuation held, whatever was before. -/
def Stores {α : Type} (index : ι) (future continuation : Handle) (act : StateM (Bridge ι) α) :
    Prop :=
  ∀ bridge, Held (act bridge).2 index future continuation

namespace Stores

omit [DecidableEq ι] in
theorem last {α β : Type} {act : StateM (Bridge ι) α} {rest : α → StateM (Bridge ι) β}
    (stores : ∀ value, Stores index future continuation (rest value)) :
    Stores index future continuation (act >>= rest) := fun bridge => stores _ (act bridge).2

/-- A decision that takes a continuation stores it. -/
theorem decide {decision : Slot → Option Signal × Slot}
    (takes : Slot.Takes continuation.raw decision) :
    Stores index future continuation
      (@Futures.decide _ (registry index) host future decision) := by
  intro bridge opened slot there
  cases found : ((registry index).get bridge).table.find? future with
  | none =>
      rw [decide_of_none found] at there
      cases (congrArg (Option.map CoreFuture.slot) found).symm.trans there
  | some core =>
      have puts := puts_update bridge index future
        fun core' => { core' with slot := (decision core.slot).2 }
      rw [found] at puts
      rw [decide_of_find? found] at opened there
      cases puts.here.symm.trans there
      rcases takes core.slot with cancelled | waiting | ⟨code, sent⟩
      · exact .inl cancelled
      · exact .inr waiting
      · exact absurd rfl (((isOpen_resumed_iff _ _).mp opened).1 _ sent)

/-- A poll stores its continuation, whatever the work does. -/
theorem poll : Stores index future continuation
    (@Futures.poll _ (registry index) host future continuation.raw) := by
  intro bridge
  unfold Futures.poll
  simp only [bind_apply, Futures.current_apply]
  cases found : ((registry index).get bridge).table.find? future with
  | none =>
      intro opened slot there
      cases (congrArg (Option.map CoreFuture.slot) found).symm.trans there
  | some core =>
      dsimp only
      by_cases cancelled : core.slot.isCancelled = true
      · rw [if_pos cancelled]
        intro opened slot there
        cases (congrArg (Option.map CoreFuture.slot) found).symm.trans there
        exact .inl (Slot.isCancelled_iff.mp cancelled)
      · rw [if_neg cancelled]
        -- Whatever else a poll does, it decides about the continuation last.
        refine (?_ : Stores index future continuation _) bridge
        split
        · refine last fun _ => ?_
          split
          · refine last fun _ => ?_
            have stores (times : Nat) : Stores index future continuation (do
                (List.replicate times future).forM (@Futures.wake (Bridge ι) (registry index) host)
                @Futures.decide _ (registry index) host future
                  (Slot.store continuation.raw)) :=
              last fun _ => decide (Slot.takes_store _)
            split
            · exact last fun _ => stores _
            · exact stores _
          · exact last fun _ => last fun _ => last fun _ => decide (Slot.takes_ready _)
        · exact decide (Slot.takes_ready _)

end Stores

/-- **A poll stores its continuation.** -/
theorem stored_of_poll (registered : Registered bridge index future continuation) :
    Stored (@Futures.poll _ (registry index) host future continuation.raw bridge).2 index future
      continuation where
  toRegistered :=
    have polled : Changes (fun _ => False) bridge _ :=
      Does.poll index future continuation.raw bridge
    registered.changes polled id
  held := Stores.poll bridge

/-- **A future that was freed is gone.** -/
theorem gone_of_free (started : future.raw.toNat < bridge.next index) :
    Gone (@Futures.free _ (registry index) host future bridge).2 index future := by
  unfold Futures.free
  simp only [bind_apply, Futures.current_apply]
  cases found : ((registry index).get bridge).table.find? future with
  | none => exact ⟨started, congrArg (Option.map CoreFuture.slot) found⟩
  | some core =>
      have gone : Gone (bridge.withTable index
          (((registry index).get bridge).table.erase future)) index future := by
        refine ⟨?_, ?_⟩
        · rw [withTable, next_set, if_pos rfl]
          exact started
        · rw [withTable, slot?_set, if_pos rfl, Table.find?_erase, if_pos rfl]
          rfl
      have discarded : Changes (fun _ => False) _ _ :=
        Does.discard index future core.progress
          (bridge.withTable index (((registry index).get bridge).table.erase future))
      dsimp only
      split
      · exact gone
      · exact gone.changes discarded

/-- **A wake of the future resumes the continuation that its slot holds.** -/
theorem value?_wake (holds : bridge.slot? index future = some (.waiting continuation.raw))
    (opened : bridge.continuations.isOpen continuation = true)
    (unresumed : bridge.continuations.value? continuation = none) :
    (@Futures.wake _ (registry index) host future bridge).2.continuations.value? continuation =
      some PollCode.wake.number := by
  obtain ⟨core, found, waiting⟩ := Option.map_eq_some_iff.mp holds
  have woken : @Futures.wake _ (registry index) host future bridge = _ := decide_of_find? found
  rw [woken, waiting]
  exact (Promises.value?_keep _ _ _ _).trans (by rw [if_pos ⟨rfl, opened⟩, unresumed]; rfl)

end Bridge

end Boundary
