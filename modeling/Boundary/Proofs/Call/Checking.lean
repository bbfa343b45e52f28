import Boundary.Call.Caller
import Boundary.Proofs.Buffer.Lowering
import Boundary.Proofs.Wire.Panics

/-! # What checking a status does with its buffer

A caller that checks a status gives the buffer back which explains it, whatever the code is,
and answers by the code and by the data (`Boundary.Caller.checkStatus_of_error` and the
lemmas next to it). There is one exception. A call that went well is not expected to leave a
buffer behind, and whether it did is judged by the length: memory without data in it is not
noticed, and stays on record (`Boundary.Caller.checkStatus_gives_back_iff`).
-/

namespace Boundary

namespace Buffer

variable {buffer : Buffer} {ledger : Ledger} {data : Bytes}

/-- A buffer that holds data is read as these, also without a look at the ledger. -/
theorem Holds.readUnchecked (holds : buffer.Holds ledger data) :
    buffer.readUnchecked ledger = .ok data := by
  have layout := holds.checkLayout
  unfold Buffer.readUnchecked
  rw [layout]
  cases holds with
  | nothing => rfl
  | @recorded _ _ address contents _ found _ _ _ same =>
      have memory : ledger.memory? address = some contents := by
        unfold Ledger.memory?
        rw [found]
        rfl
      simp only [memory, Option.getD_some, same]
      rfl

/-- The allocation of the buffer, if it has one, went off the record, and it went once. What else
is on record has not changed. -/
structure GivenBack (buffer : Buffer) (before after : Ledger) : Prop where
  find? : ∀ address, after.find? address =
    if buffer.address = some address then none else before.find? address
  once : after.outstanding + buffer.claims.length = before.outstanding

/-- Releasing a buffer that holds data gives it back. -/
theorem Holds.givenBack (holds : buffer.Holds ledger data) (orderly : ledger.Orderly) :
    buffer.GivenBack ledger (buffer.releasedFrom ledger) := by
  cases holds with
  | nothing => exact ⟨fun address => (if_neg nofun).symm, rfl⟩
  | @recorded _ _ located _ _ found _ _ _ _ =>
      refine ⟨fun address => ?_, orderly.outstanding_erase found⟩
      have erased := Ledger.find?_erase ledger located address
      simp only [Option.some.injEq, @eq_comm _ located]
      exact erased

/-- A buffer with memory is not given back by leaving things as they are. -/
theorem Holds.not_givenBack (holds : buffer.Holds ledger data) (positive : 0 < buffer.capacity) :
    ¬ buffer.GivenBack ledger ledger := by
  intro given
  cases holds with
  | nothing => exact Nat.lt_irrefl 0 positive
  | @recorded _ _ address _ _ found _ _ _ _ =>
      have gone := given.find? address
      rw [if_pos rfl, found] at gone
      cases gone

end Buffer

namespace Caller

variable {σ τ ε : Type} [Part σ Ledger] {caller : Caller σ} {state after : σ}

/-! ## Giving buffers back -/

/-- An operation on buffers that succeeds is reported as a success. -/
theorem enveloped_of_ok {placeholder : τ} {operation : EStateM BufferError Ledger τ} {value : τ}
    {ledger : Ledger} (done : operation (Part.get state) = .ok value ledger) :
    enveloped placeholder operation state = ((value, Status.success), Part.set ledger state) := by
  have run : ((Act.ofReporting operation).mapError Error.buffer).onPart state =
      .ok value (Part.set ledger state) := by
    unfold Act.onPart Act.mapError Act.ofReporting
    simp only [done]
  have ended := Act.observe_of_ok run
  unfold enveloped Envelope.internal
  change (let ran := Act.observe _ state
    onPart (Envelope.settle placeholder (ran.1.map .ok)) ran.2) = _
  rw [ended]
  change (_, Part.set (Part.get (Part.set ledger state)) (Part.set ledger state)) = _
  rw [Part.set_get]

/-- An internal call that is reported as a success answers its value. -/
theorem internal_of_success {entry : EntryPoint σ τ} {value : τ} {status : Status}
    (ran : entry state = ((value, status), after)) (well : status.meaning? = some .success) :
    caller.internal entry state = .ok value after := by
  have first : Act.ofTotal entry state = (.ok (value, status) after :
      EStateM.Result (Fault Error) σ (τ × Status)) := by
    unfold Act.ofTotal
    rw [ran]
  unfold Caller.internal
  rw [Act.bind_of_ok first]
  simp only [well]
  rfl

/-- The core takes every buffer back whose data it holds. -/
def TakesBack (caller : Caller σ) : Prop :=
  ∀ buffer data state, buffer.Holds (Part.get state) data → ∃ status after,
    caller.free buffer state = (((), status), after) ∧ status.meaning? = some .success

variable {buffer : Buffer} {data : Bytes}

/-- A core that takes buffers back takes back each that holds data. -/
theorem TakesBack.release (takesBack : caller.TakesBack)
    (holds : buffer.Holds (Part.get state) data) :
    ∃ after, caller.release buffer state = .ok () after := by
  unfold Caller.release
  split
  · exact ⟨state, rfl⟩
  · obtain ⟨status, after, ran, well⟩ := takesBack buffer data state holds
    exact ⟨after, internal_of_success ran well⟩

theorem free_inProcess (holds : buffer.Holds (Part.get state) data) :
    (inProcess : Caller σ).free buffer state =
      (((), Status.success), Part.set (buffer.releasedFrom (Part.get state)) state) :=
  enveloped_of_ok holds.free

/-- **A core in the same process takes buffers back.** -/
theorem takesBack_inProcess : (inProcess : Caller σ).TakesBack := by
  intro buffer data state holds
  exact ⟨Status.success, _, free_inProcess holds, rfl⟩

/-- A core in the same process releases a buffer that holds data. -/
theorem release_inProcess (holds : buffer.Holds (Part.get state) data) :
    (inProcess : Caller σ).release buffer state =
      .ok () (Part.set (buffer.releasedFrom (Part.get state)) state) := by
  unfold Caller.release
  split
  · next none =>
    cases holds with
    | nothing =>
        change (_ : EStateM.Result (Fault Error) σ Unit) = .ok () (Part.set (Part.get state) state)
        rw [Part.set_get]
        rfl
    | recorded _ positive _ _ _ => exact absurd none (Nat.ne_of_gt positive)
  · exact internal_of_success (free_inProcess holds) rfl

/-- Decoding a buffer gives it back, unless the decoding panics. -/
theorem consume_of_released {α : Type} (holds : buffer.Holds (Part.get state) data)
    (released : caller.release buffer state = .ok () after)
    (decode : Bytes → Outcome CodecError α) :
    caller.consume buffer decode state =
      match decode data with
      | .ok value => .ok value after
      | .error (.error cause) => .error (.error (.codec cause)) after
      | .error (.panic payload) => .error (.panic payload) state := by
  have viewed : Act.ofTotal (view buffer) state = (.ok (.ok data) state :
      EStateM.Result (Fault Error) σ (Except BufferError Bytes)) := by
    unfold Act.ofTotal view
    rw [holds.readUnchecked]
  unfold consume
  rw [Act.bind_of_ok viewed, Buffer.settleWith]
  match decode data with
  | .ok value => exact Act.bind_of_ok released
  | .error (.error cause) => exact Act.bind_of_ok released
  | .error (.panic payload) => rfl

/-- Reading a buffer gives it back, unless the reading panics. -/
theorem lift_of_released {α : Type} (holds : buffer.Holds (Part.get state) data)
    (released : caller.release buffer state = .ok () after) (read : Read α) :
    caller.lift buffer read state =
      match read.liftExact data with
      | .ok value => .ok value after
      | .error (.error cause) => .error (.error (.codec cause)) after
      | .error (.panic payload) => .error (.panic payload) state :=
  consume_of_released holds released read.liftExact

/-! ## Checking a status -/

variable {declared : Read ε} {status : Status}

/-- A success without an error buffer is accepted. -/
theorem checkStatus_of_success (caller : Caller σ) (declared : Read ε)
    (well : status.meaning? = some .success)
    (nothing : status.errorBuffer.length = 0) :
    caller.checkStatus declared status state = .ok () state := by
  have empty : status.errorBuffer.isEmpty = true := beq_iff_eq.mpr nothing
  unfold checkStatus
  simp only [well, empty, ↓reduceIte]
  rfl

/-- A success with an error buffer is a protocol error, and the buffer goes back. -/
theorem checkStatus_of_stray (declared : Read ε) (well : status.meaning? = some .success)
    (something : status.errorBuffer.length ≠ 0)
    (released : caller.release status.errorBuffer state = .ok () after) :
    caller.checkStatus declared status state = .error (.error (.internal
      (.protocol "OK status carried a non-empty error buffer"))) after := by
  have nonempty : status.errorBuffer.isEmpty = false := beq_eq_false_iff_ne.mpr something
  unfold checkStatus
  simp only [well, nonempty, Bool.false_eq_true, ↓reduceIte]
  exact Act.bind_of_ok (Act.mapError_of_ok released _)

/-- A declared error is what the buffer holds. -/
theorem checkStatus_of_error (declared : Read ε) (failed : status.meaning? = some .error)
    (holds : status.errorBuffer.Holds (Part.get state) data)
    (released : caller.release status.errorBuffer state = .ok () after) :
    caller.checkStatus declared status state =
      match declared.liftExact data with
      | .ok error => .error (.error (.declared error)) after
      | .error (.error cause) => .error (.error (.internal (.codec cause))) after
      | .error (.panic payload) => .error (.panic payload) state := by
  have lifted := lift_of_released holds released declared
  unfold checkStatus
  simp only [failed]
  match read : declared.liftExact data with
  | .ok error =>
      rw [read] at lifted
      exact Act.bind_of_ok (Act.mapError_of_ok lifted _)
  | .error (.error cause) =>
      rw [read] at lifted
      exact Act.bind_of_error (Act.mapError_of_error lifted _)
  | .error (.panic payload) =>
      rw [read] at lifted
      exact Act.bind_of_error (Act.mapError_of_error lifted _)

/-- The text of a panic is what the buffer holds. -/
theorem checkStatus_of_panic (declared : Read ε) (panicked : status.meaning? = some .panic)
    (holds : status.errorBuffer.Holds (Part.get state) data)
    (released : caller.release status.errorBuffer state = .ok () after) :
    caller.checkStatus declared status state = .error (.error
      (match Utf8.read.liftExact data with
        | .ok text => .panic text
        | .error (.error cause) => .internal (.codec cause)
        | .error (.panic payload) => .panic payload.message)) after := by
  have lifted := lift_of_released holds released Utf8.read
  unfold checkStatus
  simp only [panicked]
  match read : Utf8.read.liftExact data with
  | .ok text =>
      rw [read] at lifted
      exact Act.bind_of_ok (Act.mapError_of_ok lifted _)
  | .error (.error cause) =>
      rw [read] at lifted
      exact Act.bind_of_error (Act.mapError_of_error lifted _)
  | .error (.panic payload) => exact absurd read (Read.NeverPanics.text.liftExact data payload)

/-- A cancelled call is reported as such, and its buffer goes back. -/
theorem checkStatus_of_cancelled (declared : Read ε) (cancelled : status.meaning? = some .cancelled)
    (released : caller.release status.errorBuffer state = .ok () after) :
    caller.checkStatus declared status state = .error (.error .cancelled) after := by
  unfold checkStatus
  simp only [cancelled]
  exact Act.bind_of_ok (Act.mapError_of_ok released _)

/-- An unknown status is reported with its code, and its buffer goes back. -/
theorem checkStatus_of_unknown (declared : Read ε) (unknown : status.meaning? = none)
    (released : caller.release status.errorBuffer state = .ok () after) :
    caller.checkStatus declared status state =
      .error (.error (.internal (.unknownStatus status.code))) after := by
  unfold checkStatus
  simp only [unknown]
  exact Act.bind_of_ok (Act.mapError_of_ok released _)

/-- Where checking a status leaves the core: where giving the buffer back does, or where it was. -/
theorem checkStatus_left (holds : status.errorBuffer.Holds (Part.get state) data)
    (released : caller.release status.errorBuffer state = .ok () after)
    (calm : ∀ payload, declared.liftExact data ≠ .error (.panic payload)) :
    ((caller.checkStatus declared status).observe state).2 =
      if status.meaning? = some .success ∧ status.errorBuffer.length = 0 then state else after := by
  match meaning : status.meaning? with
  | some .success =>
      by_cases nothing : status.errorBuffer.length = 0
      · rw [Act.observe_of_ok (checkStatus_of_success caller declared meaning nothing),
          if_pos ⟨rfl, nothing⟩]
      · rw [Act.observe_of_error (checkStatus_of_stray declared meaning nothing released),
          if_neg fun both => nothing both.2]
  | some .error =>
      have checked := checkStatus_of_error declared meaning holds released
      rw [if_neg nofun]
      match read : declared.liftExact data with
      | .ok error =>
          rw [read] at checked
          rw [Act.observe_of_error checked]
      | .error (.error cause) =>
          rw [read] at checked
          rw [Act.observe_of_error checked]
      | .error (.panic payload) => exact absurd read (calm payload)
  | some .panic =>
      rw [Act.observe_of_error (checkStatus_of_panic declared meaning holds released), if_neg nofun]
  | some .cancelled =>
      rw [Act.observe_of_error (checkStatus_of_cancelled declared meaning released), if_neg nofun]
  | none =>
      rw [Act.observe_of_error (checkStatus_of_unknown declared meaning released), if_neg nofun]

/-- **Checking a status gives its buffer back, with one exception.** Whatever the code and the
buffer that the core holds, the allocation of the buffer goes off the record once and no other one
does, unless the code says that the call went well and the buffer has memory but no data. Then
nothing changes at all. -/
theorem checkStatus_gives_back_iff (state : σ) (orderly : (Part.get state : Ledger).Orderly)
    (holds : status.errorBuffer.Holds (Part.get state) data)
    (calm : ∀ payload, declared.liftExact data ≠ .error (.panic payload)) :
    let left := (((inProcess : Caller σ).checkStatus declared status).observe state).2
    (status.errorBuffer.GivenBack (Part.get state) (Part.get left) ↔
      ¬ (status.meaning? = some .success ∧ status.errorBuffer.length = 0 ∧
        0 < status.errorBuffer.capacity)) ∧
    (status.meaning? = some .success → status.errorBuffer.length = 0 → left = state) := by
  intro left
  have ended : left = _ := checkStatus_left holds (release_inProcess holds) calm
  have given := holds.givenBack orderly
  by_cases quiet : status.meaning? = some .success ∧ status.errorBuffer.length = 0
  · rw [if_pos quiet] at ended
    refine ⟨?_, fun _ _ => ended⟩
    rw [ended]
    constructor
    · rintro kept ⟨_, _, positive⟩
      exact holds.not_givenBack positive kept
    · intro ordinary
      have none : status.errorBuffer.capacity = 0 := by
        by_contra positive
        exact ordinary ⟨quiet.1, quiet.2, Nat.pos_of_ne_zero positive⟩
      generalize status.errorBuffer = buffer at holds given none
      cases holds with
      | nothing => exact given
      | recorded _ positive _ _ _ => exact absurd none (Nat.ne_of_gt positive)
  · rw [if_neg quiet] at ended
    refine ⟨?_, fun well nothing => absurd ⟨well, nothing⟩ quiet⟩
    rw [ended, Part.get_set]
    refine iff_of_true given ?_
    rintro ⟨well, nothing, _⟩
    exact quiet ⟨well, nothing⟩

/-- Memory without data is given back when it explains a code without a meaning. -/
theorem checkStatus_gives_back_of_unknown_code :
    let ledger : Ledger := ⟨[(1, ⟨4, .zeroed 4⟩)], [], 2⟩
    let status : Status := ⟨42, ⟨4, 0, some 1⟩⟩
    let left := ((inProcess.checkStatus Utf8.read status).observe ledger).2
    ledger.Orderly ∧ status.errorBuffer.Holds ledger [] ∧
      (∀ payload, Utf8.read.liftExact [] ≠ .error (.panic payload)) ∧
      status.errorBuffer.GivenBack ledger left ∧ left.outstanding = 0 := by
  intro ledger status left
  have orderly : ledger.Orderly := ⟨by decide, by decide⟩
  have holds : status.errorBuffer.Holds ledger [] :=
    .recorded rfl (by decide) (by decide) (by decide) rfl
  have calm := Read.NeverPanics.text.liftExact []
  have checked := checkStatus_gives_back_iff ledger orderly holds calm
  have given : status.errorBuffer.GivenBack ledger left :=
    checked.1.mpr fun quiet => nomatch quiet.1
  exact ⟨orderly, holds, calm, given, Nat.add_right_cancel given.once⟩

/-- Memory without data stays on record when it comes with the code of a call that went well. -/
theorem checkStatus_keeps_spare_memory :
    let ledger : Ledger := ⟨[(1, ⟨4, .zeroed 4⟩)], [], 2⟩
    let status : Status := ⟨0, ⟨4, 0, some 1⟩⟩
    let left := ((inProcess.checkStatus Utf8.read status).observe ledger).2
    ledger.Orderly ∧ status.errorBuffer.Holds ledger [] ∧
      (∀ payload, Utf8.read.liftExact [] ≠ .error (.panic payload)) ∧
      left.isLive 1 4 ∧ left.outstanding = 1 ∧ ¬ status.errorBuffer.GivenBack ledger left := by
  intro ledger status left
  have holds : status.errorBuffer.Holds ledger [] :=
    .recorded rfl (by decide) (by decide) (by decide) rfl
  exact ⟨⟨by decide, by decide⟩, holds, Read.NeverPanics.text.liftExact [], rfl, rfl,
    holds.not_givenBack (by decide)⟩

end Caller

end Boundary
