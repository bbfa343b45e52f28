import Boundary.Proofs.Call.Passage
import Boundary.Proofs.Call.Return

/-! # Calls that unwind

What a caller calls may panic instead of leaving a status (`Boundary.Caller.attempt`); a call of an
entry point is the case in which it does not. Control unwinds through a call in two cases and no
other: what is called panics, or it reports an error whose data panics when it is read
(`Boundary.Caller.attempt_unwinds_iff`). So whether a call unwinds has nothing to do with the
caller's entry points.
-/

namespace Boundary

namespace Act

variable {σ ε ε' α β : Type}

/-- Control unwinds through the computation. -/
def UnwindsFrom (act : Act σ ε α) (state : σ) : Prop :=
  ∃ payload after, act state = .error (.panic payload) after

theorem Returns.not_unwindsFrom {act : Act σ ε α} (returns : act.Returns) (state : σ) :
    ¬ act.UnwindsFrom state := by
  rintro ⟨payload, after, unwound⟩
  exact returns state payload after unwound

/-- What follows does not unwind, so the sequence does just if its first part does. -/
theorem unwindsFrom_bind_iff {act : Act σ ε α} {next : α → Act σ ε β} {state : σ}
    (rest : ∀ value, (next value).Returns) :
    (act >>= next).UnwindsFrom state ↔ act.UnwindsFrom state := by
  constructor
  · rintro ⟨payload, after, unwound⟩
    rcases bind_eq_error_iff.mp unwound with first | ⟨value, between, _, last⟩
    · exact ⟨payload, after, first⟩
    · exact absurd last (rest value between payload after)
  · rintro ⟨payload, after, unwound⟩
    exact ⟨payload, after, bind_of_error unwound⟩

/-- Rewording an error does not change whether an act unwinds. -/
theorem unwindsFrom_mapError_iff {act : Act σ ε α} {state : σ} (reword : ε → ε') :
    (act.mapError reword).UnwindsFrom state ↔ act.UnwindsFrom state := by
  constructor
  · rintro ⟨payload, after, unwound⟩
    cases ran : act state with
    | ok value between =>
        rw [mapError_of_ok ran] at unwound
        cases unwound
    | error fault between =>
        rw [mapError_of_error ran] at unwound
        cases fault with
        | error reported => cases unwound
        | panic raised => exact ⟨raised, between, ran⟩
  · rintro ⟨payload, after, unwound⟩
    exact ⟨payload, after, mapError_of_error unwound reword⟩

end Act

namespace Caller

open Act

variable {σ τ ε α : Type} [Part σ Ledger] (caller : Caller σ)

/-- Calls what may panic, and interprets the status that it leaves if it does not. -/
def attempt (declared : Read ε) (body : Act σ Empty (τ × Status)) : Act σ (CallError ε) τ := do
  let (value, status) ← body.mapError Empty.elim
  caller.checkStatus declared status
  return value

/-- An entry point does not panic. -/
theorem attempt_ofTotal (declared : Read ε) (entry : EntryPoint σ τ) :
    caller.attempt declared (Act.ofTotal entry) = caller.call declared entry := rfl

/-- Control unwinds through the call of a body. -/
inductive Unwinds (declared : Read ε) (body : Act σ Empty (τ × Status)) (state : σ) : Prop
  /-- The body panics. -/
  | body {payload : PanicPayload} {after : σ} : body state = .error (.panic payload) after →
      Unwinds declared body state
  /-- The body reports an error, and reading the error panics. -/
  | report {value : τ} {status : Status} {after : σ} {payload : PanicPayload} :
      body state = .ok (value, status) after → status.meaning? = some .error →
      Buffer.settleWith declared.liftExact (status.errorBuffer.readUnchecked (Part.get after)) =
        .error (.panic payload) →
      Unwinds declared body state

variable {caller}

/-- Lifting a buffer unwinds if decoding its bytes panics. -/
theorem consume_unwinds_iff (caller : Caller σ) {buffer : Buffer}
    {decode : Bytes → Outcome CodecError α} {state : σ} :
    (caller.consume buffer decode).UnwindsFrom state ↔ ∃ payload,
      Buffer.settleWith decode (buffer.readUnchecked (Part.get state)) =
        .error (.panic payload) := by
  have viewed : Act.ofTotal (view buffer) state =
    (.ok (buffer.readUnchecked (Part.get state)) state :
      EStateM.Result (Fault Error) σ (Except BufferError Bytes)) := rfl
  unfold consume UnwindsFrom
  rw [bind_of_ok viewed]
  match Buffer.settleWith decode (buffer.readUnchecked (Part.get state)) with
  | .error (.panic payload) => exact iff_of_true ⟨payload, state, rfl⟩ ⟨payload, rfl⟩
  | .error (.error cause) =>
      have returns : Returns (do caller.release buffer; Act.fail cause : Act σ Error α) :=
        .bind (caller.release_returns buffer) fun _ => .fail cause
      exact iff_of_false (returns.not_unwindsFrom state) (by rintro ⟨_, same⟩; cases same)
  | .ok value =>
      have returns : Returns (do caller.release buffer; Pure.pure value : Act σ Error α) :=
        .bind (caller.release_returns buffer) fun _ => .pure value
      exact iff_of_false (returns.not_unwindsFrom state) (by rintro ⟨_, same⟩; cases same)

/-- Checking a status unwinds when it reports an error that panics as it is read. -/
theorem checkStatus_unwinds_iff {declared : Read ε} {status : Status} {state : σ} :
    (caller.checkStatus declared status).UnwindsFrom state ↔ status.meaning? = some .error ∧
      ∃ payload, Buffer.settleWith declared.liftExact
        (status.errorBuffer.readUnchecked (Part.get state)) = .error (.panic payload) := by
  by_cases failed : status.meaning? = some .error
  · rw [and_iff_right failed, ← consume_unwinds_iff caller]
    unfold checkStatus
    simp only [failed]
    rw [unwindsFrom_bind_iff fun _ => .fail _, unwindsFrom_mapError_iff]
    rfl
  · -- No error is read then, so it may as well be one that never panics.
    let calm : Read ε := Act.fail .invalidUtf8
    have never : calm.NeverPanics := .fail _
    have other : caller.checkStatus declared status = caller.checkStatus calm status := by
      unfold checkStatus
      match meaning : status.meaning? with
      | some .error => exact absurd meaning failed
      | some .success | some .panic | some .cancelled | none => rfl
    rw [other]
    exact iff_of_false ((caller.checkStatus_returns never status).not_unwindsFrom state)
      fun both => failed both.1

section

variable {declared : Read ε} {body : Act σ Empty (τ × Status)} {state after : σ}

theorem attempt_of_ok {value : τ} {status : Status} (ran : body state = .ok (value, status) after) :
    caller.attempt declared body state =
      (do caller.checkStatus declared status; return value : Act σ (CallError ε) τ) after :=
  bind_of_ok (mapError_of_ok ran Empty.elim)

theorem attempt_of_panic {payload : PanicPayload}
    (ran : body state = .error (.panic payload) after) :
    caller.attempt declared body state = .error (.panic payload) after :=
  bind_of_error (mapError_of_error ran Empty.elim)

omit [Part σ Ledger] in
/-- A body ends with a status, or it panics. -/
theorem body_cases (body : Act σ Empty (τ × Status)) (state : σ) :
    (∃ value status after, body state = .ok (value, status) after) ∨
      ∃ payload after, body state = .error (.panic payload) after := by
  match ran : body state with
  | .ok (value, status) after => exact .inl ⟨value, status, after, rfl⟩
  | .error (.panic payload) after => exact .inr ⟨payload, after, rfl⟩

/-- **A call unwinds if its body does, or if the error that it declares panics as it is read.** -/
theorem attempt_unwinds_iff (caller : Caller σ) :
    (caller.attempt declared body).UnwindsFrom state ↔ Unwinds declared body state := by
  rcases body_cases body state with ⟨value, status, after, ran⟩ | ⟨payload, after, ran⟩
  · have checked : (caller.attempt declared body).UnwindsFrom state ↔
        (caller.checkStatus declared status).UnwindsFrom after := by
      refine Iff.trans ?_ (unwindsFrom_bind_iff fun _ => .pure value)
      unfold UnwindsFrom
      rw [attempt_of_ok ran]
    rw [checked, checkStatus_unwinds_iff]
    constructor
    · rintro ⟨failed, payload, panicked⟩
      exact .report ran failed panicked
    · rintro (unwound | ⟨returned, failed, panicked⟩)
      · cases ran.symm.trans unwound
      · cases ran.symm.trans returned
        exact ⟨failed, _, panicked⟩
  · exact iff_of_true ⟨payload, after, attempt_of_panic ran⟩ (.body ran)

/-- The rest of a call keeps up what the body leads to. -/
theorem attempt_keeps {holds : σ → Prop} (free : caller.FreeKeeps holds) (declared : Read ε)
    (reached : holds (body.observe state).2) :
    holds ((caller.attempt declared body).observe state).2 := by
  rcases body_cases body state with ⟨value, status, after, ran⟩ | ⟨payload, after, ran⟩
  · have rest : Keeps holds (do
        caller.checkStatus declared status
        return value : Act σ (CallError ε) τ) :=
      .bind (checkStatus_keeps free declared status) fun _ => .pure value
    rw [observe_of_ok ran] at reached
    have kept := rest after reached
    unfold observe at kept ⊢
    rw [attempt_of_ok ran]
    exact kept
  · rw [observe_of_error ran] at reached
    rw [observe_of_error (attempt_of_panic ran)]
    exact reached

end

end Caller

end Boundary
