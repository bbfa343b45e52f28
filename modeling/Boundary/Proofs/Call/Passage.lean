import Boundary.Call.Caller
import Boundary.Proofs.Sequencing

/-! # What a call keeps up

A call does nothing to the state but through the entry points of the core. What each of these keeps
up is kept up by the call, however it ends (`Boundary.Caller.call_keeps`).
-/

namespace Boundary

namespace Act

variable {σ ε ε' α β : Type} {holds : σ → Prop}

/-- However the computation ends, it keeps up what holds of the state. -/
def Keeps (holds : σ → Prop) (act : Act σ ε α) : Prop :=
  ∀ state, holds state → holds (act.observe state).2

namespace Keeps

theorem pure (value : α) : Keeps holds (Pure.pure value : Act σ ε α) := fun _ => id

theorem fail (reported : ε) : Keeps holds (Act.fail reported : Act σ ε α) := fun _ => id

theorem ofOutcome (outcome : Outcome ε α) :
    Keeps holds (Act.ofOutcome outcome : Act σ ε α) := by
  intro state held
  cases outcome <;> exact held

theorem ofTotal {run : StateM σ α} (keeps : ∀ state, holds state → holds (run state).2) :
    Keeps holds (Act.ofTotal run : Act σ ε α) := keeps

theorem mapError {act : Act σ ε α} (keeps : Keeps holds act) (reword : ε → ε') :
    Keeps holds (act.mapError reword) := by
  intro state held
  have kept := keeps state held
  cases ended : act state with
  | ok value after =>
      rw [observe_of_ok ended] at kept
      rw [observe_of_ok (mapError_of_ok ended reword)]
      exact kept
  | error fault after =>
      rw [observe_of_error ended] at kept
      rw [observe_of_error (mapError_of_error ended reword)]
      exact kept

theorem bind {act : Act σ ε α} {next : α → Act σ ε β} (first : Keeps holds act)
    (rest : ∀ value, Keeps holds (next value)) : Keeps holds (act >>= next) := by
  intro state held
  have kept := first state held
  cases ended : act state with
  | ok value between =>
      rw [observe_of_ok ended] at kept
      have onwards := rest value between kept
      unfold observe at onwards ⊢
      rw [bind_of_ok ended]
      exact onwards
  | error fault after =>
      rw [observe_of_error ended] at kept
      rw [observe_of_error (bind_of_error ended)]
      exact kept

end Keeps

end Act

namespace Caller

open Act

variable {σ τ ε α : Type} [Part σ Ledger] {holds : σ → Prop} {caller : Caller σ}

/-- Every call that gives a buffer back keeps up what holds. -/
def FreeKeeps (caller : Caller σ) (holds : σ → Prop) : Prop :=
  ∀ buffer state, holds state → holds (caller.free buffer state).2

theorem view_keeps (buffer : Buffer) :
    Keeps holds (Act.ofTotal (view buffer) : Act σ ε (Except BufferError Bytes)) := fun _ => id

variable (free : caller.FreeKeeps holds)

include free

/-- An internal call keeps what its entry point keeps. -/
theorem internal_keeps {entry : EntryPoint σ τ}
    (keeps : ∀ state, holds state → holds (entry state).2) :
    Keeps holds (caller.internal entry) := by
  apply Keeps.bind (.ofTotal keeps)
  intro returned
  obtain ⟨value, status⟩ := returned
  have freed (cause : Error) : Keeps holds
      (do let _ ← Act.ofTotal (caller.free status.errorBuffer); Act.fail cause :
        Act σ Error τ) :=
    .bind (.ofTotal (free _)) fun _ => .fail cause
  dsimp only
  rcases status.meaning? with _ | _ | _ | _ | _
  case none => exact .fail _
  case some.success => exact .pure _
  case some.panic => exact .bind (view_keeps _) fun _ => freed _
  all_goals exact freed _

theorem release_keeps (buffer : Buffer) : Keeps holds (caller.release buffer) := by
  unfold release
  split
  · exact .pure _
  · exact internal_keeps free (free buffer)

/-- Lifting a buffer keeps what giving it back keeps. -/
theorem lift_keeps (buffer : Buffer) (value : Read α) :
    Keeps holds (caller.lift buffer value) := by
  refine .bind (view_keeps buffer) fun viewed => ?_
  rcases Buffer.settleWith value.liftExact viewed with (cause | payload) | lifted
  case error.panic => exact fun _ => id
  all_goals exact .bind (release_keeps free buffer) fun _ => .ofOutcome _

/-- Checking a status keeps what giving its buffer back keeps. -/
theorem checkStatus_keeps (declared : Read ε) (status : Status) :
    Keeps holds (caller.checkStatus declared status) := by
  have released : Keeps holds ((caller.release status.errorBuffer).mapError
      (CallError.internal : Error → CallError ε)) := (release_keeps free _).mapError _
  unfold checkStatus
  rcases status.meaning? with _ | _ | _ | _ | _
  case none => exact .bind released fun _ => .fail _
  case some.success =>
    dsimp only
    split
    · exact .pure _
    · exact .bind released fun _ => .fail _
  case some.cancelled => exact .bind released fun _ => .fail _
  all_goals exact .bind ((lift_keeps free _ _).mapError _) fun _ => .fail _

/-- What the entry point that is called leads to is kept up by the rest of the call. -/
theorem call_keeps (declared : Read ε) {entry : EntryPoint σ τ} {state : σ}
    (reached : holds (entry state).2) :
    holds ((caller.call declared entry).observe state).2 := by
  have rest : Keeps holds (do
      caller.checkStatus declared (entry state).1.2
      return (entry state).1.1 : Act σ (CallError ε) τ) :=
    .bind (checkStatus_keeps free declared _) fun _ => .pure _
  exact rest (entry state).2 reached

end Caller

end Boundary
