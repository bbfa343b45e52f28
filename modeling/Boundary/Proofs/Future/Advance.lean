import Boundary.Future.Await
import Boundary.Proofs.Sequencing

/-! # The steps of an await, as equations

One equation for each thing that an await can find: whether a continuation could be made for the
next poll, and what became of the continuation of the latest one.
-/

namespace Boundary

theorem PollCode.number_of_ofNumber? {number : Int} {code : PollCode}
    (known : ofNumber? number = some code) : code.number = number := by
  unfold ofNumber? at known
  split at known <;> cases known <;> rfl

namespace Await

variable {σ ε τ : Type} [Part σ Ledger] [Part σ Continuations] {caller : Caller σ}
  {points : FutureEntryPoints σ τ} {declared : Read ε} {state after : σ}
  {future continuation : Handle}

/-- What became of a continuation. -/
def statusIn (state : σ) (continuation : Handle) : Promised Int :=
  (Part.get state : Continuations).status continuation

/-- Forgets a continuation. -/
def forgetting (continuation : Handle) (state : σ) : σ :=
  (onPart (Promises.forget continuation : StateM Continuations Unit) state).2

theorem advance_unpolled (valid : future.isValid = true) :
    advance caller points declared (.unpolled future) state =
      (.next (.polling future), state) :=
  congrFun (if_pos valid) state

theorem advance_invalid (invalid : ¬ future.isValid = true) :
    advance caller points declared (.unpolled future) state =
      (.ended (.error (.error (.internal (.protocol
        s!"invalid future handle {future.raw.toNat}")))), state) :=
  congrFun (if_neg invalid) state

/-- An await that gets no continuation gives the future up. -/
theorem advance_polling_of_error {cause : HandleError}
    (failed : (onPart (Promises.make () : StateM Continuations _) : StateM σ _) state =
      (.error cause, after)) :
    advance caller points declared (.polling future) state =
      (.ended (.error (.error (.internal (.handle cause)))), (giveUp points future after).2) := by
  change (onPart (Promises.make () : StateM Continuations (Except HandleError Handle)) >>= _)
    state = _
  rw [bind_apply, failed]
  rfl

/-- An await polls the future with a continuation of its own. -/
theorem advance_polling_of_ok
    (made : (onPart (Promises.make () : StateM Continuations _) : StateM σ _) state =
      (.ok continuation, after)) :
    advance caller points declared (.polling future) state =
      (.next (.parked future continuation), (points.poll future continuation.raw after).2) := by
  change (onPart (Promises.make () : StateM Continuations (Except HandleError Handle)) >>= _)
    state = _
  rw [bind_apply, made]
  rfl

/-- What an await does about the continuation of its latest poll. -/
def answered (caller : Caller σ) (points : FutureEntryPoints σ τ) (declared : Read ε)
    (future continuation : Handle) : Promised Int → StateM σ (Advance ε τ)
  | .waiting => return .suspended
  | .broken => failWith points future (.protocol "continuation dropped unresumed")
  | .kept code => do
    onPart (Promises.forget continuation : StateM Continuations Unit)
    match PollCode.ofNumber? code with
    | some .ready => fetch caller points declared future
    | some .wake => return .next (.polling future)
    | none => failWith points future (.protocol s!"unknown poll code {code}")

/-- An await that polled goes on as its continuation says. -/
theorem advance_parked : advance caller points declared (.parked future continuation) state =
    answered caller points declared future continuation (statusIn state continuation) state := by
  change (match statusIn state continuation with
    | .waiting => _
    | .broken => _
    | .kept code => _ : StateM σ (Advance ε τ)) state = _
  cases statusIn state continuation <;> rfl

theorem advance_waiting (waiting : statusIn state continuation = .waiting) :
    advance caller points declared (.parked future continuation) state = (.suspended, state) := by
  rw [advance_parked, waiting]
  rfl

/-- An await whose continuation was dropped gives the future up. -/
theorem advance_broken (broken : statusIn state continuation = .broken) :
    advance caller points declared (.parked future continuation) state =
      (.ended (.error (.error (.internal (.protocol "continuation dropped unresumed")))),
        (giveUp points future state).2) := by
  rw [advance_parked, broken]
  rfl

theorem advance_ready (ready : statusIn state continuation = .kept PollCode.ready.number) :
    advance caller points declared (.parked future continuation) state =
      fetch caller points declared future (forgetting continuation state) := by
  rw [advance_parked, ready]
  rfl

theorem advance_wake (wake : statusIn state continuation = .kept PollCode.wake.number) :
    advance caller points declared (.parked future continuation) state =
      (.next (.polling future), forgetting continuation state) := by
  rw [advance_parked, wake]
  rfl

/-- An await that is told an unknown code gives the future up. -/
theorem advance_unknown {code : Int} (resumed : statusIn state continuation = .kept code)
    (unknown : PollCode.ofNumber? code = none) :
    advance caller points declared (.parked future continuation) state =
      (.ended (.error (.error (.internal (.protocol s!"unknown poll code {code}")))),
        (giveUp points future (forgetting continuation state)).2) := by
  rw [advance_parked, resumed]
  simp only [answered, unknown]
  rfl

/-! ### Several steps -/

variable {await next : Await} {fuel : Nat}

theorem run_of_next
    (step : advance caller points declared await state = (.next next, after)) :
    run caller points declared (fuel + 1) await state =
      run caller points declared fuel next after := by
  rw [run, bind_apply, step]

theorem run_of_suspended
    (step : advance caller points declared await state = (.suspended, after)) :
    run caller points declared (fuel + 1) await state = ((await, none), after) := by
  rw [run, bind_apply, step]
  rfl

theorem run_of_ended {outcome : Outcome (CallError ε) τ}
    (step : advance caller points declared await state = (.ended outcome, after)) :
    run caller points declared (fuel + 1) await state = ((ended, some outcome), after) := by
  rw [run, bind_apply, step]
  rfl

end Await

end Boundary
