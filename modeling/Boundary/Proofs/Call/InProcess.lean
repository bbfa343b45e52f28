import Boundary.Call.Caller
import Boundary.Proofs.Sequencing

/-! # Calls of a core in the same process

The entry points of a core in the same process work on the ledger, whatever state the ledger is a
part of. So a call of an entry point that does the same happens on the ledger alone
(`Boundary.Caller.observe_call`).
-/

namespace Boundary

section

variable {σ τ α β : Type} [Part σ τ]

theorem onPart_self (run : StateM τ α) : (onPart run : StateM τ α) = run := rfl

theorem onPart_bind (run : StateM τ α) (next : α → StateM τ β) :
    (onPart (run >>= next) : StateM σ β) = onPart run >>= fun value => onPart (next value) := by
  funext state
  simp only [bind_apply, onPart_apply, Part.get_set, Part.set_set]

end

namespace Act

variable {σ τ ε ε' α β : Type} [Part σ τ]

theorem onPart_of_ok {act : Act τ ε α} {state : σ} {value : α} {part : τ}
    (ended : act (Part.get state) = .ok value part) :
    (act.onPart : Act σ ε α) state = .ok value (Part.set part state) := by
  unfold Act.onPart
  rw [ended]

theorem onPart_of_error {act : Act τ ε α} {state : σ} {fault : Fault ε} {part : τ}
    (ended : act (Part.get state) = .error fault part) :
    (act.onPart : Act σ ε α) state = .error fault (Part.set part state) := by
  unfold Act.onPart
  rw [ended]

/-- How an act on a part ends is observed on the part. -/
theorem observe_onPart (act : Act τ ε α) :
    (act.onPart : Act σ ε α).observe = (Boundary.onPart act.observe : StateM σ _) := by
  funext state
  unfold Boundary.onPart
  cases ended : act (Part.get state) with
  | ok value part =>
      rw [observe_of_ok (onPart_of_ok ended), observe_of_ok ended]
  | error fault part =>
      rw [observe_of_error (onPart_of_error ended), observe_of_error ended]

theorem onPart_pure (value : α) :
    (Pure.pure value : Act τ ε α).onPart = (Pure.pure value : Act σ ε α) := by
  funext state
  have ended : (Pure.pure value : Act τ ε α) (Part.get state) = .ok value (Part.get state) := rfl
  rw [onPart_of_ok ended, Part.set_get]
  rfl

theorem onPart_fail (reported : ε) :
    (Act.fail reported : Act τ ε α).onPart = (Act.fail reported : Act σ ε α) := by
  funext state
  have ended : (Act.fail reported : Act τ ε α) (Part.get state) =
    .error (.error reported) (Part.get state) := rfl
  rw [onPart_of_error ended, Part.set_get]
  rfl

theorem onPart_unwind (payload : PanicPayload) :
    (Act.unwind payload : Act τ ε α).onPart = (Act.unwind payload : Act σ ε α) := by
  funext state
  have ended : (Act.unwind payload : Act τ ε α) (Part.get state) =
    .error (.panic payload) (Part.get state) := rfl
  rw [onPart_of_error ended, Part.set_get]
  rfl

theorem onPart_ofOutcome (outcome : Outcome ε α) :
    (Act.ofOutcome outcome : Act τ ε α).onPart = (Act.ofOutcome outcome : Act σ ε α) := by
  rcases outcome with (reported | payload) | value
  · exact onPart_fail reported
  · exact onPart_unwind payload
  · exact onPart_pure value

theorem onPart_ofTotal (run : StateM τ α) :
    (Act.ofTotal run : Act τ ε α).onPart = (Act.ofTotal (Boundary.onPart run) : Act σ ε α) := rfl

/-- Errors are reworded the same on a part. -/
theorem onPart_mapError (act : Act τ ε α) (reword : ε → ε') :
    (act.mapError reword).onPart = ((act.onPart : Act σ ε α).mapError reword) := by
  funext state
  cases ended : act (Part.get state) with
  | ok value part =>
      rw [onPart_of_ok (mapError_of_ok ended reword), mapError_of_ok (onPart_of_ok ended) reword]
  | error fault part =>
      rw [onPart_of_error (mapError_of_error ended reword),
        mapError_of_error (onPart_of_error ended) reword]

/-- Acts in sequence on a part are acts on the part in sequence. -/
theorem onPart_bind (act : Act τ ε α) (next : α → Act τ ε β) :
    (act >>= next).onPart = (act.onPart >>= fun value => (next value).onPart : Act σ ε β) := by
  funext state
  cases ended : act (Part.get state) with
  | ok value part =>
      rw [bind_of_ok (onPart_of_ok ended)]
      cases rest : next value part with
      | ok result last =>
          have ran : next value (Part.get (Part.set part state)) = .ok result last := by
            rw [Part.get_set]
            exact rest
          rw [onPart_of_ok ((bind_of_ok ended).trans rest), onPart_of_ok ran, Part.set_set]
      | error fault last =>
          have ran : next value (Part.get (Part.set part state)) = .error fault last := by
            rw [Part.get_set]
            exact rest
          rw [onPart_of_error ((bind_of_ok ended).trans rest), onPart_of_error ran, Part.set_set]
  | error fault part =>
      rw [bind_of_error (onPart_of_error ended), onPart_of_error (bind_of_error ended)]

end Act

namespace Caller

variable {σ τ ε α : Type} [Part σ Ledger]

/-- A buffer is read from the ledger wherever this is kept. -/
theorem onPart_view (buffer : Buffer) :
    (onPart (view buffer : StateM Ledger _) : StateM σ _) = view buffer := by
  funext state
  change (buffer.readUnchecked (Part.get state), Part.set (Part.get state : Ledger) state) =
    (buffer.readUnchecked (Part.get state), state)
  rw [Part.set_get]

/-- The envelope of an operation on buffers works on the ledger only. -/
theorem onPart_enveloped (placeholder : τ) (operation : EStateM BufferError Ledger τ) :
    (onPart (enveloped placeholder operation : EntryPoint Ledger τ) : EntryPoint σ τ) =
      enveloped placeholder operation := by
  unfold enveloped Envelope.internal
  rw [Act.observe_onPart, Act.observe_onPart, onPart_self, onPart_bind]
  simp only [onPart_self]

/-- An internal call works on the ledger only. -/
theorem onPart_internal (entry : EntryPoint Ledger τ) :
    ((inProcess : Caller Ledger).internal entry).onPart =
      (inProcess : Caller σ).internal (onPart entry) := by
  have freed (buffer : Buffer) (cause : Error) :
      (do let _ ← Act.ofTotal ((inProcess : Caller Ledger).free buffer); Act.fail cause :
        Act Ledger Error τ).onPart =
      (do let _ ← Act.ofTotal ((inProcess : Caller σ).free buffer); Act.fail cause :
        Act σ Error τ) := by
    rw [Act.onPart_bind, Act.onPart_ofTotal]
    unfold inProcess
    rw [onPart_enveloped]
    simp only [Act.onPart_fail]
  unfold internal
  rw [Act.onPart_bind, Act.onPart_ofTotal]
  congr 1
  funext returned
  obtain ⟨value, status⟩ := returned
  dsimp only
  rcases status.meaning? with _ | _ | _ | _ | _
  case none => exact Act.onPart_fail _
  case some.success => exact Act.onPart_pure _
  case some.panic =>
    rw [Act.onPart_bind, Act.onPart_ofTotal, onPart_view]
    congr 1
    funext viewed
    exact freed _ _
  all_goals exact freed _ _

/-- Giving a buffer back works on the ledger only. -/
theorem onPart_release (buffer : Buffer) :
    ((inProcess : Caller Ledger).release buffer).onPart =
      (inProcess : Caller σ).release buffer := by
  unfold release
  split
  · exact Act.onPart_pure _
  · rw [onPart_internal]
    unfold inProcess
    rw [onPart_enveloped]

/-- Lifting a buffer works on the ledger only. -/
theorem onPart_lift (buffer : Buffer) (value : Read α) :
    ((inProcess : Caller Ledger).lift buffer value).onPart =
      (inProcess : Caller σ).lift buffer value := by
  unfold lift consume
  rw [Act.onPart_bind, Act.onPart_ofTotal, onPart_view]
  congr 1
  funext viewed
  rcases Buffer.settleWith value.liftExact viewed with (cause | payload) | lifted
  case error.panic => exact Act.onPart_unwind payload
  all_goals
    dsimp only
    rw [Act.onPart_bind, onPart_release]
    simp only [Act.onPart_ofOutcome]

/-- Turning a status into an answer works on the ledger only. -/
theorem onPart_checkStatus (declared : Read ε) (status : Status) :
    ((inProcess : Caller Ledger).checkStatus declared status).onPart =
      (inProcess : Caller σ).checkStatus declared status := by
  unfold checkStatus
  rcases status.meaning? with _ | _ | _ | _ | _
  case some.success =>
    dsimp only
    split
    · exact Act.onPart_pure _
    · rw [Act.onPart_bind, Act.onPart_mapError, onPart_release]
      simp only [Act.onPart_fail]
  case none | some.cancelled =>
    dsimp only
    rw [Act.onPart_bind, Act.onPart_mapError, onPart_release]
    simp only [Act.onPart_fail]
  all_goals
    dsimp only
    rw [Act.onPart_bind, Act.onPart_mapError, onPart_lift]
    simp only [Act.onPart_fail]

/-- A call depends on nothing but what the entry point returns and leaves. -/
theorem observe_call_eq {caller : Caller σ} (declared : Read ε) (entry : EntryPoint σ τ)
    (state : σ) :
    (caller.call declared entry).observe state =
      (do
        caller.checkStatus declared (entry state).1.2
        return (entry state).1.1 : Act σ (CallError ε) τ).observe (entry state).2 := rfl

/-- **A call of an entry point that works on the ledger happens on the ledger alone.** -/
theorem observe_call (declared : Read ε) (entry : EntryPoint Ledger τ) :
    ((inProcess : Caller σ).call declared (onPart entry)).observe =
      (onPart ((inProcess : Caller Ledger).call declared entry).observe : StateM σ _) := by
  rw [← Act.observe_onPart]
  congr 1
  unfold call
  rw [Act.onPart_bind, Act.onPart_ofTotal]
  congr 1
  funext returned
  rw [Act.onPart_bind, onPart_checkStatus]
  simp only [Act.onPart_pure]

end Caller

namespace Envelope

variable {σ : Type} [Part σ Ledger]

/-- A body that works on the ledger does so in an envelope. -/
theorem onPart_outputOrError (channel : Channel) (body : Act Ledger Lowering Output) :
    (onPart (outputOrError channel body) : EntryPoint σ Passed) =
      outputOrError channel body.onPart := by
  unfold outputOrError result
  rw [Act.observe_onPart, onPart_bind]
  simp only [onPart_self]

/-- What is passed of a body is passed of one that ended so from the start. -/
theorem outputOrError_ended (channel : Channel) (body : Act Ledger Lowering Output)
    (ledger : Ledger) :
    outputOrError channel (Act.ofOutcome (body.observe ledger).1) (body.observe ledger).2 =
      outputOrError channel body ledger := by
  unfold outputOrError result
  rw [bind_apply, bind_apply]
  generalize body.observe ledger = run
  obtain ⟨outcome, after⟩ := run
  cases outcome <;> rfl

/-- To the caller, a body is how it ends: what is told of the one is told of a body that ended so
from the start. -/
theorem observe_call_ended {ε : Type} {caller : Caller Ledger} (declared : Read ε)
    (channel : Channel) (body : Act Ledger Lowering Output) (ledger : Ledger) :
    (caller.call declared (outputOrError channel (Act.ofOutcome (body.observe ledger).1))).observe
        (body.observe ledger).2 =
      (caller.call declared (outputOrError channel body)).observe ledger := by
  rw [Caller.observe_call_eq, outputOrError_ended]
  exact (Caller.observe_call_eq declared _ ledger).symm

end Envelope

end Boundary
