import Boundary.Call.Caller
import Boundary.Proofs.Wire.Panics

/-! # Calls that return

Decoding is all that can panic in a call on the host's side. A call returns, with a value or an
error, if the errors that it declares are read without panics (`Boundary.Caller.call_returns`).
-/

namespace Boundary

namespace Act

variable {σ ε ε' α β : Type}

/-- Control does not unwind through the computation. -/
def Returns (act : Act σ ε α) : Prop :=
  ∀ state payload after, act state ≠ .error (.panic payload) after

namespace Returns

theorem pure (value : α) : (Pure.pure value : Act σ ε α).Returns := by
  intro state payload after ended
  cases ended

theorem fail (reported : ε) : (Act.fail reported : Act σ ε α).Returns := by
  intro state payload after ended
  cases ended

theorem ofTotal (run : StateM σ α) : (Act.ofTotal run : Act σ ε α).Returns := by
  intro state payload after ended
  cases ended

theorem mapError {act : Act σ ε α} (returns : act.Returns) (reword : ε → ε') :
    (act.mapError reword).Returns := by
  intro state payload after ended
  cases run : act state with
  | ok value between =>
      rw [mapError_of_ok run] at ended
      cases ended
  | error fault between =>
      rw [mapError_of_error run] at ended
      cases fault with
      | error reported => cases ended
      | panic raised => exact returns state raised between run

theorem bind {act : Act σ ε α} {next : α → Act σ ε β} (first : act.Returns)
    (rest : ∀ value, (next value).Returns) : (act >>= next).Returns := by
  intro state payload after ended
  rcases bind_eq_error_iff.mp ended with failed | ⟨value, between, _, failed⟩
  · exact first state payload after failed
  · exact rest value between payload after failed

end Returns

end Act

namespace Caller

open Act

variable {σ τ ε α : Type} [Part σ Ledger] (caller : Caller σ)

/-- An internal call returns. -/
theorem internal_returns (entry : EntryPoint σ τ) : (caller.internal entry).Returns := by
  apply Returns.bind (.ofTotal entry)
  intro returned
  obtain ⟨value, status⟩ := returned
  have freed (cause : Error) : Returns
      (do let _ ← Act.ofTotal (caller.free status.errorBuffer); Act.fail cause :
        Act σ Error τ) := .bind (.ofTotal _) fun _ => .fail cause
  dsimp only
  rcases status.meaning? with _ | _ | _ | _ | _
  case none => exact .fail _
  case some.success => exact .pure _
  case some.panic => exact .bind (.ofTotal _) fun _ => freed _
  all_goals exact freed _

theorem release_returns (buffer : Buffer) : (caller.release buffer).Returns := by
  unfold release
  split
  · exact .pure _
  · exact caller.internal_returns _

/-- Lifting a buffer returns, if what is read never panics. -/
theorem lift_returns (buffer : Buffer) {value : Read α} (never : value.NeverPanics) :
    (caller.lift buffer value).Returns := by
  refine .bind (.ofTotal _) fun viewed => ?_
  cases settled : Buffer.settleWith value.liftExact viewed with
  | ok lifted => exact .bind (caller.release_returns buffer) fun _ => .pure lifted
  | error fault =>
      cases fault with
      | error cause => exact .bind (caller.release_returns buffer) fun _ => .fail cause
      | panic payload =>
          -- The data would have to make the read panic.
          cases viewed with
          | error cause => cases settled
          | ok data =>
              cases read : value.liftExact data with
              | ok lifted =>
                  rw [Buffer.settleWith, read] at settled
                  cases settled
              | error raised =>
                  rw [Buffer.settleWith, read] at settled
                  cases raised with
                  | error cause => cases settled
                  | panic panicked => exact absurd read (never.liftExact data panicked)

/-- Checking a status returns, if the declared error is read without panicking. -/
theorem checkStatus_returns {declared : Read ε} (never : declared.NeverPanics) (status : Status) :
    (caller.checkStatus declared status).Returns := by
  have released : ((caller.release status.errorBuffer).mapError
      (CallError.internal : Error → CallError ε)).Returns := (caller.release_returns _).mapError _
  unfold checkStatus
  rcases status.meaning? with _ | _ | _ | _ | _
  case none => exact .bind released fun _ => .fail _
  case some.success =>
    dsimp only
    split
    · exact .pure _
    · exact .bind released fun _ => .fail _
  case some.error => exact .bind ((caller.lift_returns _ never).mapError _) fun _ => .fail _
  case some.panic =>
    exact .bind ((caller.lift_returns _ Read.NeverPanics.text).mapError _) fun _ => .fail _
  case some.cancelled => exact .bind released fun _ => .fail _

/-- A call returns if the errors that it declares are read without panics. -/
theorem call_returns {declared : Read ε} (never : declared.NeverPanics) (entry : EntryPoint σ τ) :
    (caller.call declared entry).Returns :=
  .bind (.ofTotal entry) fun _ => .bind (caller.checkStatus_returns never _) fun _ => .pure _

end Caller

end Boundary
