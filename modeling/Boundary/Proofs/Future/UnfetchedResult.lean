import Boundary.Proofs.Call.Frame
import Boundary.Proofs.Future.Stage

/-! # What is left of a result

A result comes with memory: the buffer that the work ended with, or one that the result is encoded
into when it is fetched. The host may give the future up at any moment. A value that has not been
encoded needs no memory then. But a buffer has no destructor, so one that the work ended with stays
on record if it is not fetched, and so does the memory of a result that panics as it is encoded.
Nothing else of a result is on record without having been handed over, once the future is freed
(`Boundary.FutureStage.unhanded_result_iff_lost`).
-/

namespace Boundary

/-! ### What steps do to the ledger -/

namespace FutureDriver

variable {handle : Handle} {driver : FutureDriver}

/-- A decision about a slot allocates nothing. -/
theorem ledger_decide (handle : Handle) (decision : Slot → Option Signal × Slot)
    (driver : FutureDriver) :
    (Futures.decide host handle decision driver).2.futures.ledger = driver.futures.ledger := by
  cases found : driver.find? handle with
  | none => rw [decide_of_none found]
  | some future =>
      unfold Futures.decide
      simp only [bind_apply, Futures.current_apply, table_find?, found]
      cases (decision future.slot).1 <;> rfl

/-- Wakes allocate nothing. -/
theorem ledger_wakes (handle : Handle) (times : Nat) (driver : FutureDriver) :
    ((List.replicate times handle).forM (Futures.wake host) driver).2.futures.ledger =
      driver.futures.ledger := by
  induction times generalizing driver with
  | zero => rfl
  | succ times ih => exact (ih _).trans (ledger_decide handle Slot.wake driver)

/-- Dropping work allocates and releases nothing. -/
theorem ledger_dropWork (handle : Handle) (work : Work) (driver : FutureDriver) :
    (Futures.dropWork host handle work driver).2.futures.ledger = driver.futures.ledger := by
  rw [dropWork_apply]
  split
  · exact ledger_decide handle Slot.wake _
  · rfl

theorem ledger_discard (handle : Handle) (progress : Progress) (driver : FutureDriver) :
    (Futures.discard host handle progress driver).2.futures.ledger = driver.futures.ledger := by
  cases progress with
  | running work => exact ledger_dropWork handle work driver
  | _ => rfl

theorem ledger_wake (handle : Handle) (keeps : Bool) (driver : FutureDriver) :
    (perform handle (.wake keeps) driver).2.futures.ledger = driver.futures.ledger := by
  cases keeps with
  | true => exact ledger_decide handle Slot.wake driver
  | false => exact ledger_decide handle Slot.wake _

/-- Cancelling releases nothing. -/
theorem ledger_cancel (handle : Handle) (driver : FutureDriver) :
    (perform handle .cancel driver).2.futures.ledger = driver.futures.ledger := by
  unfold perform Futures.cancel
  cases found : driver.find? handle with
  | none => simp only [bind_apply, pure_apply, Futures.current_apply, table_find?, found]
  | some future =>
      simp only [bind_apply, Futures.current_apply, table_find?, found]
      split
      · rfl
      · exact ledger_discard handle future.progress _

/-- Freeing releases nothing. -/
theorem ledger_free (handle : Handle) (driver : FutureDriver) :
    (perform handle .free driver).2.futures.ledger = driver.futures.ledger := by
  unfold perform Futures.free
  cases found : driver.find? handle with
  | none => simp only [bind_apply, pure_apply, Futures.current_apply, table_find?, found]
  | some future =>
      simp only [bind_apply, Futures.current_apply, table_find?, found]
      split
      · rfl
      · exact ledger_discard handle future.progress _

variable {label : String} {pauses : List Pause} {ending : Act Ledger Lowering Output}
  {wakesOnDrop : Bool} {progress : Progress} {slot : Slot}

/-- A poll of work that pauses allocates nothing. -/
theorem ledger_poll_paused {pause : Pause}
    (found : driver.find? handle =
      some ⟨.running ⟨label, pause :: pauses, ending, wakesOnDrop⟩, slot⟩)
    (active : slot.isCancelled = false) (data : UInt64) :
    (perform handle (.poll data) driver).2.futures.ledger = driver.futures.ledger := by
  unfold perform Futures.poll
  simp only [bind_apply, Futures.current_apply, table_find?, found, active]
  rw [if_neg Bool.false_ne_true]
  cases pause.keepsWaker <;>
    exact (ledger_decide handle (Slot.store data) _).trans (ledger_wakes handle pause.wakes _)

/-- A poll of work that ends allocates what the ending allocates. -/
theorem ledger_poll_ended
    (found : driver.find? handle = some ⟨.running ⟨label, [], ending, wakesOnDrop⟩, slot⟩)
    (active : slot.isCancelled = false) (data : UInt64) :
    (perform handle (.poll data) driver).2.futures.ledger =
      (ending.observe driver.futures.ledger).2 := by
  unfold perform Futures.poll
  simp only [bind_apply, Futures.current_apply, table_find?, found, active]
  rw [if_neg Bool.false_ne_true]
  simp only [bind_apply]
  exact (ledger_decide handle _ _).trans (ledger_dropWork handle _ _)

/-- A poll of work that is over allocates nothing. -/
theorem ledger_poll_over (found : driver.find? handle = some ⟨progress, slot⟩)
    (active : slot.isCancelled = false) (ended : ∀ work, progress ≠ .running work)
    (data : UInt64) :
    (perform handle (.poll data) driver).2.futures.ledger = driver.futures.ledger := by
  unfold perform Futures.poll
  simp only [bind_apply, Futures.current_apply, table_find?, found, active]
  rw [if_neg Bool.false_ne_true]
  cases progress with
  | running work => exact absurd rfl (ended work)
  | _ => exact ledger_decide handle _ driver

end FutureDriver

/-! ### What fetching does to the ledger -/

namespace Envelope

/-- The result panics as it is encoded, and leaves this memory behind. -/
def Abandoned (ended : Outcome Lowering Output) (before : Ledger) (claim : Address × Nat) : Prop :=
  ∃ lowering, lowered? ended = some lowering ∧ lowering.Abandons ∧
    claim = (before.nextAddress, lowering.size)

theorem Tidy.not_abandoned {ended : Outcome Lowering Output} (tidy : Tidy ended) (before : Ledger)
    (claim : Address × Nat) : ¬ Abandoned ended before claim := by
  rintro ⟨lowering, used, abandons, _⟩
  exact tidy lowering used abandons

/-- Afterwards the ledger has on record what it had before, what was handed over, and what was
abandoned, which is neither of the two. -/
structure Balances (ended : Outcome Lowering Output) (before after : Ledger)
    (given : List (Address × Nat)) : Prop where
  orderly : after.Orderly
  isLive_iff : ∀ claim : Address × Nat, after.isLive claim.1 claim.2 ↔
    before.isLive claim.1 claim.2 ∨ claim ∈ given ∨ Abandoned ended before claim
  apart : ∀ claim, Abandoned ended before claim →
    ¬ before.isLive claim.1 claim.2 ∧ claim ∉ given

variable {ended : Outcome Lowering Output} {before between after : Ledger}
  {given : List (Address × Nat)}

/-- An ending that is tidy leaves what it hands over, and nothing else. -/
theorem Balances.of_tidy (tidy : Tidy ended) (adds : before.Adds after given) :
    Balances ended before after given where
  orderly := adds.orderly
  isLive_iff claim := by
    rw [adds.isLive_iff, or_iff_left (tidy.not_abandoned before claim)]
  apart claim abandoned := absurd abandoned (tidy.not_abandoned before claim)

/-- A value that panics while it is written leaves the memory it was given, and no buffer of its
own. -/
theorem Balances.of_abandoned {lowering : Lowering} (orderly : before.Orderly)
    (used : lowered? ended = some lowering) (abandons : lowering.Abandons)
    (lost : before.Gains between [(before.nextAddress, lowering.size)])
    (gains : between.Gains after given) : Balances ended before after given := by
  have abandoned_iff (claim : Address × Nat) : Abandoned ended before claim ↔
      claim = (before.nextAddress, lowering.size) := by
    constructor
    · rintro ⟨other, same, _, rfl⟩
      cases used.symm.trans same
      rfl
    · rintro rfl
      exact ⟨lowering, used, abandons, rfl⟩
  have both := lost.trans gains
  refine ⟨both.orderly, fun claim => ?_, fun claim abandoned => ?_⟩
  · rw [both.isLive_iff, List.mem_append, List.mem_singleton, abandoned_iff,
      @or_comm (claim ∈ given)]
  · rw [(abandoned_iff claim).mp abandoned]
    refine ⟨orderly.not_isLive (Nat.le_refl _) _, fun handed => ?_⟩
    -- What is handed over was handed out later.
    have later := gains.fresh _ handed
    have earlier := (lost.isLive_iff _ _).mpr (.inr List.mem_cons_self)
    exact lost.orderly.not_isLive later _ earlier

/-- What is told of a body that has ended balances. -/
theorem balances_outputOrError {σ : Type} [Part σ Ledger] (channel : Channel) (state : σ)
    (orderly : (Part.get state : Ledger).Orderly)
    (owned : ∀ own, ended = .ok (.buffer own) → own.isLive (Part.get state)) :
    let ran := outputOrError channel (Act.ofOutcome ended) state
    Balances ended (Part.get state) (Part.get ran.2)
      (ran.1.1.claims ++ ran.1.2.errorBuffer.claims) := by
  intro ran
  have observed : (Act.ofOutcome ended : Act σ Lowering Output).observe state = (ended, state) := by
    cases ended <;> rfl
  have possible := pack_cases orderly owned
  match packed : pack Output.pass ended (Part.get state) with
  | .ok (.ok value) left =>
      have returned : ran = _ := result_of_ok (by rw [observed]; exact packed)
      have unexplained : Status.success.errorBuffer.claims = [] := rfl
      rw [returned]
      simp only [Part.get_set, unexplained, List.append_nil]
      rw [packed] at possible
      cases possible with
      | passed tidy adds => exact .of_tidy tidy adds
  | .ok (.error encoding) left =>
      have returned : ran = _ := result_of_ok (by rw [observed]; exact packed)
      rw [returned]
      simp only [Part.get_set, claims_placeholder, List.nil_append]
      rw [packed] at possible
      cases possible with
      | declared tidy gains => exact .of_tidy tidy gains.toAdds
  | .error fault left =>
      have returned : ran = _ := result_of_error (by rw [observed]; exact packed)
      rw [returned]
      simp only [Part.get_set, claims_placeholder, List.nil_append, Status.panic_eq]
      rw [packed] at possible
      cases possible with
      | failed tidy gains =>
          have told := gains.trans (gains_messageBuffer gains.orderly fault.wording)
          rw [List.nil_append] at told
          exact .of_tidy tidy told.toAdds
      | abandoned used abandons gains =>
          exact .of_abandoned orderly used abandons gains
            (gains_messageBuffer gains.orderly fault.wording)

end Envelope

/-- The step does not use memory in ways of its own. -/
def FutureDriver.Step.IsPlain : FutureDriver.Step → Prop
  | .elsewhere _ => False
  | _ => True

/-- Work that ends with a buffer ends with one that is on record. -/
structure Furnishes (ending : Act Ledger Lowering Output) : Prop where
  orderly : ∀ ledger, ledger.Orderly → (ending.observe ledger).2.Orderly
  recorded : ∀ ledger own, ledger.Orderly → (ending.observe ledger).1 = .ok (.buffer own) →
    own.isLive (ending.observe ledger).2

namespace FutureStage

/-- What of a result is on record before it is fetched. -/
def owed : FutureStage → List (Address × Nat)
  | finished (.ok (.buffer own)) => own.claims
  | _ => []

/-- Memory of the result appears: the buffer that the work ends with, or what fetching takes. -/
def Produces (handle : Handle) (ending : Act Ledger Lowering Output) (claim : Address × Nat)
    (driver : FutureDriver) : FutureStage → FutureDriver.Step → Prop
  | running 0, .poll _ => claim ∈ (finished (ending.observe driver.futures.ledger).1).owed
  | finished _, .complete => ¬ driver.futures.ledger.isLive claim.1 claim.2 ∧
      (FutureDriver.perform handle .complete driver).2.futures.ledger.isLive claim.1 claim.2
  | _, _ => False

/-- Memory is handed over to the host that fetches the result. -/
def Hands (handle : Handle) (claim : Address × Nat) (driver : FutureDriver) :
    FutureStage → FutureDriver.Step → Prop
  | finished _, .complete =>
      let answer := (Futures.complete handle driver.futures).1
      claim ∈ answer.1.claims ++ answer.2.errorBuffer.claims
  | _, _ => False

/-- Memory is lost: the future is given up with the buffer that its work ended with, or its result
panics as it is encoded. -/
def Loses (claim : Address × Nat) (driver : FutureDriver) : FutureStage → FutureDriver.Step → Prop
  | finished outcome, .cancel | finished outcome, .free => claim ∈ (finished outcome).owed
  | finished outcome, .complete => Envelope.Abandoned outcome driver.futures.ledger claim
  | _, _ => False

/-- A step of a run does something, at the stage that it finds. -/
def Somewhere (handle : Handle) (ending : Act Ledger Lowering Output)
    (does : FutureDriver → FutureStage → FutureDriver.Step → Prop) :
    FutureDriver → FutureStage → List FutureDriver.Step → Prop
  | _, _, [] => False
  | driver, stage, step :: rest => does driver stage step ∨
      Somewhere handle ending does (FutureDriver.perform handle step driver).2
        (stage.next ending driver.futures.ledger step) rest

variable {handle : Handle} {ending : Act Ledger Lowering Output} {stage : FutureStage}
  {driver : FutureDriver}
  {step : FutureDriver.Step} {steps : List FutureDriver.Step} {claim : Address × Nat}

/-! ### A single step -/

/-- What was on record stays there. -/
structure Grows (before after : Ledger) : Prop where
  orderly : after.Orderly
  isLive : ∀ claim : Address × Nat, before.isLive claim.1 claim.2 → after.isLive claim.1 claim.2

theorem Grows.of_eq {before after : Ledger} (orderly : before.Orderly) (same : after = before) :
    Grows before after := by
  subst same
  exact ⟨orderly, fun _ => id⟩

theorem Grows.trans {before between after : Ledger} (first : Grows before between)
    (second : Grows between after) : Grows before after :=
  ⟨second.orderly, fun claim live => second.isLive claim (first.isLive claim live)⟩

theorem Grows.of_balances {ended : Outcome Lowering Output} {before after : Ledger}
    {given : List (Address × Nat)} (balances : Envelope.Balances ended before after given) :
    Grows before after :=
  ⟨balances.orderly, fun claim live => (balances.isLive_iff claim).mpr (.inl live)⟩

/-- The output of the work, if it is there and is a buffer, is on record. -/
def Backed (stage : FutureStage) (ledger : Ledger) : Prop :=
  ∀ own, stage = finished (.ok (.buffer own)) → own.isLive ledger

/-- What a stage owes is live in the ledger. -/
theorem Backed.isLive {ledger : Ledger} (backed : stage.Backed ledger) (orderly : ledger.Orderly)
    (kept : claim ∈ stage.owed) : ledger.isLive claim.1 claim.2 := by
  unfold owed at kept
  split at kept
  · next own =>
    have adds := Envelope.adds_of_isLive orderly (backed own rfl)
    exact (adds.isLive_iff _ _).mpr (.inr kept)
  · cases kept

/-- A ledger that grows still holds what a stage owes. -/
theorem Backed.grows {before after : Ledger} (backed : stage.Backed before)
    (grows : Grows before after) : stage.Backed after := by
  intro own ended
  have live := backed own ended
  unfold Buffer.isLive at live ⊢
  cases located : own.address with
  | none => trivial
  | some address =>
      rw [located] at live
      exact grows.isLive (address, _) live

/-- A poll that finds no pause left runs the end of the work. -/
theorem Stands.ledger_poll_last (stands : Stands ending (.running 0) (driver.find? handle))
    (data : UInt64) : (FutureDriver.perform handle (.poll data) driver).2.futures.ledger =
      (ending.observe driver.futures.ledger).2 := by
  generalize last : FutureStage.running 0 = stage at stands
  cases found : driver.find? handle with
  | none =>
      rw [found] at stands
      cases stands
      cases last
  | some future =>
      rw [found] at stands
      cases stands with
      | @running label pauses wakesOnDrop slot active =>
          cases pauses with
          | nil => exact FutureDriver.ledger_poll_ended found active data
          | cons pause rest => cases last
      | _ => cases last

/-- Only the poll that ends the work uses the ledger. -/
theorem Stands.ledger_poll (stands : Stands ending stage (driver.find? handle))
    (goesOn : stage ≠ .running 0) (data : UInt64) :
    (FutureDriver.perform handle (.poll data) driver).2.futures.ledger = driver.futures.ledger := by
  cases found : driver.find? handle with
  | none => rw [FutureDriver.poll_of_none found]
  | some future =>
      rw [found] at stands
      cases stands with
      | @running label pauses wakesOnDrop slot active =>
          cases pauses with
          | nil => exact absurd rfl goesOn
          | cons pause rest => exact FutureDriver.ledger_poll_paused found active data
      | @finished outcome slot active =>
          refine FutureDriver.ledger_poll_over found active ?_ data
          rcases outcome with (_ | _) | _ <;> exact nofun
      | fetched active => exact FutureDriver.ledger_poll_over found active nofun data
      | cancelled => rw [FutureDriver.poll_of_cancelled found rfl]

/-- Fetching a result balances. -/
theorem Stands.balances_complete {outcome : Outcome Lowering Output}
    (stands : Stands ending (.finished outcome) (driver.find? handle))
    (orderly : driver.futures.ledger.Orderly)
    (backed : Backed (.finished outcome) driver.futures.ledger) :
    let answer := (Futures.complete handle driver.futures).1
    Envelope.Balances outcome driver.futures.ledger
      (FutureDriver.perform handle .complete driver).2.futures.ledger
      (answer.1.claims ++ answer.2.errorBuffer.claims) := by
  cases found : driver.find? handle with
  | none =>
      rw [found] at stands
      cases stands
  | some future =>
      rw [found] at stands
      cases stands with
      | finished active =>
          let consumed : Futures :=
            (Futures.update handle (fun future => { future with progress := .consumed })
              driver.futures).2
          have fetched : Futures.complete handle driver.futures =
              Futures.reported outcome consumed := Futures.complete_of_ended found active
          change Envelope.Balances outcome _ (Futures.complete handle driver.futures).2.ledger _
          rw [fetched]
          have owned (own : Buffer) (ended : outcome = .ok (.buffer own)) :=
            backed own (congrArg FutureStage.finished ended)
          exact Envelope.balances_outputOrError consumed.channel consumed orderly owned

/-- A request that is refused adds its message to the ledger. -/
theorem grows_refused {futures : Futures} (orderly : futures.ledger.Orderly) (message : String) :
    Grows futures.ledger (Futures.refused message futures).2.ledger :=
  .of_balances (Envelope.balances_outputOrError futures.channel futures orderly nofun)

/-- A request for the result only adds to the ledger. -/
theorem Stands.grows_complete (stands : Stands ending stage (driver.find? handle))
    (orderly : driver.futures.ledger.Orderly) (backed : stage.Backed driver.futures.ledger) :
    Grows driver.futures.ledger
      (FutureDriver.perform handle .complete driver).2.futures.ledger := by
  change Grows _ (Futures.complete handle driver.futures).2.ledger
  cases found : driver.find? handle with
  | none =>
      rw [Futures.complete_of_none found]
      exact grows_refused orderly _
  | some future =>
      cases stage with
      | finished outcome => exact .of_balances (stands.balances_complete orderly backed)
      | running left =>
          rw [found] at stands
          cases stands with
          | running active =>
              rw [Futures.complete_of_running found active]
              exact grows_refused orderly _
      | fetched =>
          rw [found] at stands
          cases stands with
          | fetched active =>
              rw [Futures.complete_of_consumed found active]
              exact grows_refused orderly _
      | cancelled =>
          rw [found] at stands
          cases stands
          rw [Futures.complete_of_cancelled found]
          exact .of_eq orderly rfl
      | freed =>
          rw [found] at stands
          cases stands

/-- Steps leave on record what was there, apart from the end of the work, which does what it
does. -/
theorem Stands.grows (stands : Stands ending stage (driver.find? handle))
    (orderly : driver.futures.ledger.Orderly) (backed : stage.Backed driver.futures.ledger)
    (plain : step.IsPlain) (goesOn : stage = .running 0 → ∀ data, step ≠ .poll data) :
    Grows driver.futures.ledger (FutureDriver.perform handle step driver).2.futures.ledger := by
  cases step with
  | poll data =>
      exact .of_eq orderly (stands.ledger_poll (fun last => goesOn last data rfl) data)
  | wake keeps => exact .of_eq orderly (FutureDriver.ledger_wake handle keeps driver)
  | complete => exact stands.grows_complete orderly backed
  | cancel => exact .of_eq orderly (FutureDriver.ledger_cancel handle driver)
  | free => exact .of_eq orderly (FutureDriver.ledger_free handle driver)
  | spawn work => exact .of_eq orderly rfl
  | elsewhere use => exact plain.elim

/-- A buffer that the work ended with is handed over when the result is fetched. -/
theorem Stands.hands_owed {outcome : Outcome Lowering Output}
    (stands : Stands ending (.finished outcome) (driver.find? handle))
    (kept : claim ∈ owed (.finished outcome)) :
    Hands handle claim driver (.finished outcome) .complete := by
  match outcome with
  | .ok (.buffer own) =>
      have answered : (Futures.complete handle driver.futures).1 = (.buffer own, .success) :=
        Stands.complete stands
      change claim ∈ Passed.claims (Futures.complete handle driver.futures).1.1 ++ _
      rw [answered]
      exact List.mem_append_left _ kept
  | .ok .void | .ok (.word _ _) | .ok (.lowered _) | .error _ => cases kept

theorem not_produces (closed : stage.isOver = true) :
    ¬ Produces handle ending claim driver stage step := by
  cases stage with
  | running | finished => cases closed
  | fetched | cancelled | freed => exact id

theorem not_hands (closed : stage.isOver = true) : ¬ Hands handle claim driver stage step := by
  cases stage with
  | running | finished => cases closed
  | fetched | cancelled | freed => exact id

theorem not_loses (closed : stage.isOver = true) : ¬ Loses claim driver stage step := by
  cases stage with
  | running | finished => cases closed
  | fetched | cancelled | freed => exact id

/-- As long as a future goes on, only the end of its work changes what is owed. -/
theorem owed_next_iff (handle : Handle) (claim : Address × Nat)
    (goesOn : (stage.next ending driver.futures.ledger step).isOver = false) :
    (Produces handle ending claim driver stage step ∨ claim ∈ stage.owed ↔
      claim ∈ (stage.next ending driver.futures.ledger step).owed) ∧
    ¬ Hands handle claim driver stage step ∧ ¬ Loses claim driver stage step := by
  cases stage with
  | running left =>
      cases step with
      | cancel | free => cases goesOn
      | poll data =>
          cases left with
          | zero => exact ⟨or_iff_left List.not_mem_nil, id, id⟩
          | succ left => exact ⟨or_iff_right id, id, id⟩
      | _ => cases left <;> exact ⟨or_iff_right id, id, id⟩
  | finished outcome =>
      cases step with
      | complete | cancel | free => cases goesOn
      | _ => exact ⟨or_iff_right id, id, id⟩
  | fetched | cancelled | freed => cases step <;> cases goesOn

/-- The output of the work is on record when the work ends. -/
theorem Stands.next_backed (stands : Stands ending stage (driver.find? handle))
    (orderly : driver.futures.ledger.Orderly) (backed : stage.Backed driver.futures.ledger)
    (furnishes : Furnishes ending) (plain : step.IsPlain) :
    let after := (FutureDriver.perform handle step driver).2.futures.ledger
    after.Orderly ∧ (stage.next ending driver.futures.ledger step).Backed after := by
  intro after
  by_cases last : stage = .running 0 ∧ ∃ data, step = .poll data
  · obtain ⟨rfl, data, rfl⟩ := last
    have left : after = _ := stands.ledger_poll_last data
    rw [left]
    refine ⟨furnishes.orderly _ orderly, fun own ended => ?_⟩
    exact furnishes.recorded _ own orderly (FutureStage.finished.inj ended)
  · have grows : Grows driver.futures.ledger after :=
      stands.grows orderly backed plain fun running data polls => last ⟨running, data, polls⟩
    refine ⟨grows.orderly, fun own ended => ?_⟩
    rcases next_eq_finished ended with same | ⟨running, polls, _⟩
    · exact backed.grows grows own same
    · exact absurd ⟨running, polls⟩ last

/-! ### Along a run -/

/-- What happens at no stage that is over happens nowhere after such a stage. -/
theorem not_somewhere {does : FutureDriver → FutureStage → FutureDriver.Step → Prop}
    (never : ∀ driver stage step, stage.isOver = true → ¬ does driver stage step)
    (closed : stage.isOver = true) : ¬ Somewhere handle ending does driver stage steps := by
  induction steps generalizing driver stage with
  | nil => exact id
  | cons step rest ih =>
      rintro (here | later)
      · exact never driver stage step closed here
      · have still : (after handle ending driver stage [step]).isOver = true :=
          isOver_after closed driver [step]
        exact ih still later

/-- Nothing leaves the record any more when the work has been run to its end or given up. -/
theorem Stands.grows_run (stands : Stands ending stage (driver.find? handle))
    (issued : handle.raw.toNat < driver.futures.table.next)
    (orderly : driver.futures.ledger.Orderly) (closed : stage.isOver = true)
    (plain : ∀ step ∈ steps, step.IsPlain) :
    Grows driver.futures.ledger (driver.run handle steps).futures.ledger := by
  induction steps generalizing driver stage with
  | nil => exact .of_eq orderly rfl
  | cons step rest ih =>
      have backed : stage.Backed driver.futures.ledger := by
        rintro own rfl
        cases closed
      have grows := stands.grows orderly backed (plain step List.mem_cons_self)
        (by rintro rfl; cases closed)
      exact grows.trans (ih (stands.run issued [step]) (FutureDriver.issued_run issued [step])
        grows.orderly (isOver_after closed driver [step])
        fun step among => plain step (List.mem_cons_of_mem _ among))

/-- A result that is fetched leaves memory behind that is not handed over if it panics as it is
encoded, and only then. -/
theorem Stands.unhanded_complete_iff {outcome : Outcome Lowering Output} {last : Ledger}
    (stands : Stands ending (.finished outcome) (driver.find? handle))
    (orderly : driver.futures.ledger.Orderly)
    (backed : Backed (.finished outcome) driver.futures.ledger)
    (grows : Grows (FutureDriver.perform handle .complete driver).2.futures.ledger last) :
    ((Produces handle ending claim driver (.finished outcome) .complete ∨
        claim ∈ owed (.finished outcome)) ∧
      last.isLive claim.1 claim.2 ∧ ¬ Hands handle claim driver (.finished outcome) .complete) ↔
    Loses claim driver (.finished outcome) .complete := by
  have balances := stands.balances_complete orderly backed
  constructor
  · rintro ⟨fresh | kept, _, unhanded⟩
    · rcases (balances.isLive_iff claim).mp fresh.2 with known | given | abandoned
      · exact absurd known fresh.1
      · exact absurd given unhanded
      · exact abandoned
    · exact absurd (stands.hands_owed kept) unhanded
  · intro abandoned
    obtain ⟨unknown, unhanded⟩ := balances.apart claim abandoned
    have live := (balances.isLive_iff claim).mpr (.inr (.inr abandoned))
    exact ⟨.inl ⟨unknown, live⟩, grows.isLive claim live, unhanded⟩

/-- The step that fetches a result or gives it up decides what is left of it. -/
theorem Stands.unhanded_closing_iff {last : Ledger}
    (stands : Stands ending stage (driver.find? handle))
    (orderly : driver.futures.ledger.Orderly) (backed : stage.Backed driver.futures.ledger)
    (grows : Grows (FutureDriver.perform handle step driver).2.futures.ledger last)
    (closed : (stage.next ending driver.futures.ledger step).isOver = true) :
    ((Produces handle ending claim driver stage step ∨ claim ∈ stage.owed) ∧
      last.isLive claim.1 claim.2 ∧ ¬ Hands handle claim driver stage step) ↔
    Loses claim driver stage step := by
  have givenUp (outcome : Outcome Lowering Output) (ends : stage = .finished outcome)
      (same : (FutureDriver.perform handle step driver).2.futures.ledger = driver.futures.ledger) :
      ((False ∨ claim ∈ stage.owed) ∧ last.isLive claim.1 claim.2 ∧ ¬ False) ↔
        claim ∈ stage.owed := by
    rw [false_or, and_iff_left not_false]
    refine and_iff_left_of_imp fun kept => grows.isLive claim ?_
    rw [same]
    exact backed.isLive orderly kept
  cases stage with
  | running left =>
      cases step with
      | poll data => cases left <;> cases closed
      | cancel | free =>
          cases left <;> exact iff_of_false (fun left => left.1.elim id List.not_mem_nil) id
      | _ => cases closed
  | finished outcome =>
      cases step with
      | complete => exact stands.unhanded_complete_iff orderly backed grows
      | cancel => exact givenUp outcome rfl (FutureDriver.ledger_cancel handle driver)
      | free => exact givenUp outcome rfl (FutureDriver.ledger_free handle driver)
      | _ => cases closed
  | fetched | cancelled | freed =>
      exact iff_of_false (fun left => left.1.elim id List.not_mem_nil) id

/-- **What is left of a result at the end was lost on the way**, from any stage on. -/
theorem Stands.unhanded_iff (stands : Stands ending stage (driver.find? handle))
    (issued : handle.raw.toNat < driver.futures.table.next)
    (orderly : driver.futures.ledger.Orderly) (backed : stage.Backed driver.futures.ledger)
    (furnishes : Furnishes ending) (plain : ∀ step ∈ steps, step.IsPlain) (free : .free ∈ steps)
    (claim : Address × Nat) :
    ((Somewhere handle ending (Produces handle ending claim) driver stage steps ∨
        claim ∈ stage.owed) ∧
      (driver.run handle steps).futures.ledger.isLive claim.1 claim.2 ∧
      ¬ Somewhere handle ending (Hands handle claim) driver stage steps) ↔
    Somewhere handle ending (Loses claim) driver stage steps := by
  induction steps generalizing driver stage with
  | nil => cases free
  | cons step rest ih =>
      have simple := plain step List.mem_cons_self
      have others : ∀ step ∈ rest, step.IsPlain :=
        fun step among => plain step (List.mem_cons_of_mem _ among)
      obtain ⟨orderly', backed'⟩ := stands.next_backed orderly backed furnishes simple
      have stands' := stands.run issued [step]
      have issued' := FutureDriver.issued_run issued [step]
      unfold Somewhere
      cases closed : (stage.next ending driver.futures.ledger step).isOver with
      | true =>
          -- The rest of the run has nothing to do with the result any more.
          have grows := Stands.grows_run stands' issued' orderly' closed others
          rw [or_iff_left (not_somewhere (fun _ _ _ => not_produces) closed),
            or_iff_left (not_somewhere (fun _ _ _ => not_hands) closed),
            or_iff_left (not_somewhere (fun _ _ _ => not_loses) closed)]
          exact stands.unhanded_closing_iff orderly backed grows closed
      | false =>
          obtain ⟨kept_iff, unhanded, unlost⟩ := owed_next_iff handle claim closed
          have later : .free ∈ rest := by
            rcases List.mem_cons.mp free with rfl | later
            · cases closed
            · exact later
          rw [or_iff_right unhanded, or_iff_right unlost, or_right_comm, kept_iff, or_comm]
          exact ih stands' issued' orderly' backed' others later

/-- At the end of a run memory of the result is on record that was not handed over. -/
def LeavesBehind (handle : Handle) (work : Work) (start : FutureDriver)
    (steps : List FutureDriver.Step)
    (claim : Address × Nat) : Prop :=
  let begun := running work.pauses.length
  Somewhere handle work.ending (Produces handle work.ending claim) start begun steps ∧
    (start.run handle steps).futures.ledger.isLive claim.1 claim.2 ∧
    ¬ Somewhere handle work.ending (Hands handle claim) start begun steps

/-- **Only a result that is lost stays on record.** A future is driven until it is freed, and
memory of its result is on record then without having been handed over to the host. That is so
exactly when the work ended with that buffer and the future was cancelled or freed without it having
been fetched, or when the result panicked as it was encoded into that memory. -/
theorem unhanded_result_iff_lost {futures started : Futures} {work : Work}
    (orderly : futures.table.Orderly) (accounted : futures.ledger.Orderly)
    (spawned : Futures.spawn work futures = (.ok handle, started))
    (furnishes : Furnishes work.ending) (plain : ∀ step ∈ steps, step.IsPlain)
    (free : .free ∈ steps) (claim : Address × Nat) :
    LeavesBehind handle work ⟨started, []⟩ steps claim ↔
      Somewhere handle work.ending (Loses claim) ⟨started, []⟩ (running work.pauses.length)
        steps := by
  obtain ⟨found, issued⟩ := FutureDriver.find?_of_spawn orderly spawned []
  have ledger : started.ledger = futures.ledger := congrArg (·.2.ledger) spawned.symm
  have stands : Stands work.ending (running work.pauses.length)
      (FutureDriver.find? ⟨started, []⟩ handle) := found ▸ .running rfl
  have nothing : claim ∉ owed (running work.pauses.length) := List.not_mem_nil
  have left := stands.unhanded_iff issued (ledger ▸ accounted) nofun furnishes plain free claim
  rw [or_iff_left nothing] at left
  exact left

/-- Work that ends with a buffer of two bytes. -/
def handsOut : Work :=
  ⟨"bytes", [], do return .buffer (← Act.ofTotal (Buffer.ofBytes [1, 2])), false⟩

/-- A registry whose one future does that work. -/
def handingOut : Futures := (Futures.spawn handsOut (Futures.named "futures" .buffer)).2

theorem furnishes_handsOut : Furnishes handsOut.ending := by
  have ended (ledger : Ledger) : handsOut.ending.observe ledger =
    (.ok (.buffer (Buffer.ofBytes [1, 2] ledger).1), (Buffer.ofBytes [1, 2] ledger).2) := rfl
  have gains {ledger : Ledger} (orderly : ledger.Orderly) :=
    Buffer.gains_record orderly 2 2 (Region.ofBytes [1, 2])
  refine ⟨fun ledger orderly => (gains orderly).orderly, fun ledger own orderly furnished => ?_⟩
  cases furnished
  exact ((gains orderly).isLive_iff _ _).mpr (.inr List.mem_cons_self)

/-- A future that is cancelled leaves its buffer behind, and one whose buffer is fetched does
not. -/
theorem cancelled_future_leaves_buffer :
    Futures.spawn handsOut (Futures.named "futures" .buffer) = (.ok ⟨1⟩, handingOut) ∧
      Furnishes handsOut.ending ∧
      LeavesBehind ⟨1⟩ handsOut ⟨handingOut, []⟩ [.poll 1, .cancel, .free] (1, 2) ∧
      ∀ claim, ¬ LeavesBehind ⟨1⟩ handsOut ⟨handingOut, []⟩ [.poll 1, .complete, .free] claim := by
  have accounted : Ledger.empty.Orderly := ⟨List.nodup_nil, List.forall_mem_nil _⟩
  have spawned : Futures.spawn handsOut (Futures.named "futures" .buffer) =
    (.ok ⟨1⟩, handingOut) := rfl
  have left (steps : List FutureDriver.Step) (plain : ∀ step ∈ steps, step.IsPlain)
      (free : .free ∈ steps) (claim : Address × Nat) :=
    unhanded_result_iff_lost (.named _) accounted spawned furnishes_handsOut plain free claim
  refine ⟨spawned, furnishes_handsOut, ?_, fun claim => ?_⟩
  · have plain : ∀ step ∈ [FutureDriver.Step.poll 1, .cancel, .free], step.IsPlain := by
      simp [FutureDriver.Step.IsPlain]
    refine (left _ plain (by simp) _).mpr (.inr (.inl ?_))
    exact List.mem_cons_self
  · have plain : ∀ step ∈ [FutureDriver.Step.poll 1, .complete, .free], step.IsPlain := by
      simp [FutureDriver.Step.IsPlain]
    rw [left _ plain (by simp)]
    rintro (none | ⟨lowering, unused, _⟩ | none | none)
    · exact none
    · cases unused
    · exact none
    · exact none

/-- Work that ends with a value that panics as it is written. -/
def falters : Work := ⟨"faulty", [], return .lowered ⟨4, Act.unwind (.text "boom")⟩, false⟩

/-- A future that finished and is freed, whether it was cancelled before or not, leaves its buffer
behind. One that is fetched leaves the memory behind that its value panicked over. -/
theorem futures_leave_results_behind :
    let faltering := (Futures.spawn falters (Futures.named "futures" .buffer)).2
    LeavesBehind ⟨1⟩ handsOut ⟨handingOut, []⟩ [.poll 1, .free] (1, 2) ∧
      LeavesBehind ⟨1⟩ handsOut ⟨handingOut, []⟩ [.poll 1, .cancel, .free] (1, 2) ∧
      LeavesBehind ⟨1⟩ falters ⟨faltering, []⟩ [.poll 1, .complete, .free] (1, 4) := by
  intro faltering
  refine ⟨⟨.inl List.mem_cons_self, by decide +kernel, ?_⟩,
    ⟨.inl List.mem_cons_self, by decide +kernel, ?_⟩,
    ⟨.inr (.inl ⟨by decide +kernel, by decide +kernel⟩), by decide +kernel, ?_⟩⟩
  · rintro (none | none | none) <;> exact none
  · rintro (none | none | none | none) <;> exact none
  · let finished : Futures := (FutureDriver.perform ⟨1⟩ (.poll 1) ⟨faltering, []⟩).2.futures
    let answer := (Futures.complete ⟨1⟩ finished).1
    have given : answer.1.claims ++ answer.2.errorBuffer.claims = [(2, 8)] := by decide +kernel
    rintro (none | handed | none | none)
    · exact none
    · change (1, 4) ∈ answer.1.claims ++ answer.2.errorBuffer.claims at handed
      rw [given] at handed
      exact absurd handed (by decide)
    · exact none
    · exact none

end FutureStage

end Boundary
