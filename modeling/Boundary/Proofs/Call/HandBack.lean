import Boundary.Proofs.Sequencing
import Boundary.Sample.FaultyCore

/-! # What a caller hands back to a core

The calls that a caller makes can be kept on record, with the statuses that they leave
(`Boundary.Caller.recorded`); this changes nothing in what the caller does. The record shows
that each operation asks the core for one thing at most and then cleans up behind it. The
buffer of a status that reports a known failure is handed back once, whatever the core makes
of that. The buffer of a status that reports success, or whose code has no meaning, is not
handed back at all (`Boundary.Caller.Operation.run_recorded`).
-/

namespace Boundary

/-- The status reports a failure that the caller has a name for. -/
def Status.ReportsFailure (status : Status) : Prop :=
  status.meaning? ≠ none ∧ status.meaning? ≠ some .success

instance (status : Status) : Decidable status.ReportsFailure :=
  inferInstanceAs (Decidable (_ ∧ _))

namespace Caller

/-- What a caller asks of a core. -/
inductive Request where
  | allocate (size : Nat)
  | fromBytes (view : ForeignBytes)
  | free (buffer : Buffer)
  | reserve (buffer : Buffer) (additional : Nat)
  deriving DecidableEq

/-- Behind the one call that is made, the buffer of a status that reports a failure is handed back
once. Nothing else is called. -/
def CleansUp : List (Request × Status) → Prop
  | [] => True
  | (_, status) :: others =>
    others.map Prod.fst = if status.ReportsFailure then [.free status.errorBuffer] else []

end Caller

/-- A core, what it was asked so far, and the statuses that it left. -/
structure Recorded (σ : Type) where
  core : σ
  calls : List (Caller.Request × Status)

namespace Recorded

variable {σ τ ε α β : Type}

instance [Part σ Ledger] : Part (Recorded σ) Ledger where
  get recorded := Part.get recorded.core
  set ledger recorded := { recorded with core := Part.set ledger recorded.core }
  get_set ledger recorded := Part.get_set ledger recorded.core
  set_get recorded := by rw [Part.set_get]
  set_set new old recorded := by rw [Part.set_set]

/-- Calls an entry point and puts the call on record. -/
def calling (request : Caller.Request) (entry : EntryPoint σ τ) : EntryPoint (Recorded σ) τ :=
  fun recorded =>
    let (returned, core) := entry recorded.core
    (returned, ⟨core, recorded.calls ++ [(request, returned.2)]⟩)

/-- The end of a computation, with the calls next to its state. -/
def ending (calls : List (Caller.Request × Status)) :
    EStateM.Result ε σ α → EStateM.Result ε (Recorded σ) α
  | .ok value core => .ok value ⟨core, calls⟩
  | .error fault core => .error fault ⟨core, calls⟩

/-- The recorded computation does what the plain one does, and makes calls of a certain kind. -/
def Follows (recorded : Act (Recorded σ) ε α) (plain : Act σ ε α)
    (kind : List (Caller.Request × Status) → Prop) : Prop :=
  ∀ core calls, ∃ made, kind made ∧ recorded ⟨core, calls⟩ = ending (calls ++ made) (plain core)

namespace Follows

variable {kind : List (Caller.Request × Status) → Prop}
  {recorded : Act (Recorded σ) ε α} {plain : Act σ ε α}
  {next : α → Act (Recorded σ) ε β} {plainNext : α → Act σ ε β}

/-- What makes no calls follows the plain caller. -/
theorem quiet (same : ∀ core calls, recorded ⟨core, calls⟩ = ending calls (plain core))
    (none : kind []) : Follows recorded plain kind := by
  intro core calls
  refine ⟨[], none, ?_⟩
  rw [List.append_nil]
  exact same core calls

theorem ofOutcome (outcome : Outcome ε α) (none : kind []) :
    Follows (Act.ofOutcome outcome : Act (Recorded σ) ε α) (Act.ofOutcome outcome) kind := by
  refine quiet (fun core calls => ?_) none
  cases outcome <;> rfl

/-- No calls are made before the rest. -/
theorem after_quiet (first : Follows recorded plain (· = []))
    (rest : ∀ value, Follows (next value) (plainNext value) kind) (none : kind []) :
    Follows (recorded >>= next) (plain >>= plainNext) kind := by
  intro core calls
  obtain ⟨_, rfl, run⟩ := first core calls
  rw [List.append_nil] at run
  cases ended : plain core with
  | ok value between =>
      rw [ended] at run
      rw [Act.bind_of_ok run, Act.bind_of_ok ended]
      exact rest value between calls
  | error fault between =>
      rw [ended] at run
      rw [Act.bind_of_error run, Act.bind_of_error ended]
      refine ⟨[], none, ?_⟩
      rw [List.append_nil]
      rfl

/-- No calls are made behind the first part. -/
theorem before_quiet (first : Follows recorded plain kind)
    (rest : ∀ value, Follows (next value) (plainNext value) (· = [])) :
    Follows (recorded >>= next) (plain >>= plainNext) kind := by
  intro core calls
  obtain ⟨made, fits, run⟩ := first core calls
  refine ⟨made, fits, ?_⟩
  cases ended : plain core with
  | ok value between =>
      rw [ended] at run
      rw [Act.bind_of_ok run, Act.bind_of_ok ended]
      obtain ⟨_, rfl, done⟩ := rest value between (calls ++ made)
      rw [List.append_nil] at done
      exact done
  | error fault between =>
      rw [ended] at run
      rw [Act.bind_of_error run, Act.bind_of_error ended]
      rfl

/-- Memory is looked at, which is no call. -/
theorem after_view [Part σ Ledger] {buffer : Buffer}
    {next : Except BufferError Bytes → Act (Recorded σ) ε β}
    {plainNext : Except BufferError Bytes → Act σ ε β}
    (rest : ∀ viewed, Follows (next viewed) (plainNext viewed) kind) :
    Follows (Act.ofTotal (Caller.view buffer) >>= next)
      (Act.ofTotal (Caller.view buffer) >>= plainNext) kind :=
  fun core calls => rest (buffer.readUnchecked (Part.get core)) core calls

/-- An entry point is called, and what follows depends on what it leaves. -/
theorem after_call {request : Caller.Request} {entry : EntryPoint σ τ}
    {next : τ × Status → Act (Recorded σ) ε β} {plainNext : τ × Status → Act σ ε β}
    (rest : ∀ returned, Follows (next returned) (plainNext returned)
      fun made => kind ((request, returned.2) :: made)) :
    Follows (Act.ofTotal (calling request entry) >>= next) (Act.ofTotal entry >>= plainNext)
      kind := by
  intro core calls
  rcases called : entry core with ⟨returned, left⟩
  obtain ⟨made, fits, run⟩ := rest returned left (calls ++ [(request, returned.2)])
  have recordedCall : Act.ofTotal (calling request entry) ⟨core, calls⟩ =
      (.ok returned ⟨left, calls ++ [(request, returned.2)]⟩ :
        EStateM.Result (Fault ε) (Recorded σ) (τ × Status)) := by
    unfold Act.ofTotal calling
    rw [called]
  have plainCall : Act.ofTotal entry core =
      (.ok returned left : EStateM.Result (Fault ε) σ (τ × Status)) := by
    unfold Act.ofTotal
    rw [called]
  refine ⟨(request, returned.2) :: made, fits, ?_⟩
  rw [List.append_assoc] at run
  rw [Act.bind_of_ok recordedCall, Act.bind_of_ok plainCall]
  exact run

end Follows

end Recorded

namespace Caller

open Recorded

variable {σ τ α : Type}

/-- The caller, with its calls on record. -/
def recorded (caller : Caller σ) : Caller (Recorded σ) where
  allocate size := calling (.allocate size) (caller.allocate size)
  fromBytes view := calling (.fromBytes view) (caller.fromBytes view)
  free buffer := calling (.free buffer) (caller.free buffer)
  reserve buffer additional :=
    calling (.reserve buffer additional) (caller.reserve buffer additional)

variable (caller : Caller σ)

/-- The buffer is handed back, and what comes of that is not looked at. -/
theorem handBack_follows {status : Status} (failed : status.ReportsFailure) (request : Request)
    (cause : Error) : Follows
      (do let _ ← Act.ofTotal (caller.recorded.free status.errorBuffer); Act.fail cause :
        Act (Recorded σ) Error τ)
      (do let _ ← Act.ofTotal (caller.free status.errorBuffer); Act.fail cause)
      fun made => CleansUp ((request, status) :: made) := by
  refine .after_call fun _ => .quiet (fun _ _ => rfl) ?_
  exact (if_pos failed).symm

variable [Part σ Ledger]

/-- An internal call is followed by giving its buffer back. -/
theorem internal_follows (request : Request) (entry : EntryPoint σ τ) :
    Follows (caller.recorded.internal (calling request entry)) (caller.internal entry)
      CleansUp := by
  refine .after_call fun returned => ?_
  obtain ⟨value, status⟩ := returned
  dsimp only
  cases meaning : status.meaning? with
  | none =>
      have unnamed : ¬ status.ReportsFailure := fun failed => failed.1 meaning
      exact .quiet (fun _ _ => rfl) (if_neg unnamed).symm
  | some code =>
      cases code with
      | success =>
          have well : ¬ status.ReportsFailure := fun failed => failed.2 meaning
          exact .quiet (fun _ _ => rfl) (if_neg well).symm
      | panic =>
          have failed : status.ReportsFailure := by simp [Status.ReportsFailure, meaning]
          exact .after_view fun viewed => caller.handBack_follows failed request _
      | error =>
          have failed : status.ReportsFailure := by simp [Status.ReportsFailure, meaning]
          exact caller.handBack_follows failed request _
      | cancelled =>
          have failed : status.ReportsFailure := by simp [Status.ReportsFailure, meaning]
          exact caller.handBack_follows failed request _

/-- Releasing a buffer is giving it back. -/
theorem release_follows (buffer : Buffer) :
    Follows (caller.recorded.release buffer) (caller.release buffer) CleansUp := by
  unfold release
  split
  · exact .quiet (fun _ _ => rfl) trivial
  · exact caller.internal_follows (.free buffer) (caller.free buffer)

/-- Lifting a buffer is followed by giving it back. -/
theorem consume_follows (buffer : Buffer) (decode : Bytes → Outcome CodecError α) :
    Follows (caller.recorded.consume buffer decode) (caller.consume buffer decode) CleansUp := by
  refine .after_view fun viewed => ?_
  match Buffer.settleWith decode viewed with
  | .error (.panic payload) => exact .quiet (fun _ _ => rfl) trivial
  | .error (.error cause) =>
      exact (caller.release_follows buffer).before_quiet fun _ => .ofOutcome _ rfl
  | .ok value => exact (caller.release_follows buffer).before_quiet fun _ => .ofOutcome _ rfl

/-- Asking for a buffer is followed by giving back what came with the status. -/
theorem bufferOfBytes_follows (data : Bytes) :
    Follows (caller.recorded.bufferOfBytes data) (caller.bufferOfBytes data) CleansUp := by
  have checking : Follows
      ((Act.ofExcept (ForeignBytes.ofBytes? data)).mapError Error.buffer : Act (Recorded σ) _ _)
      ((Act.ofExcept (ForeignBytes.ofBytes? data)).mapError Error.buffer) (· = []) := by
    refine .quiet (fun _ _ => ?_) rfl
    cases ForeignBytes.ofBytes? data <;> rfl
  refine checking.after_quiet (fun view => ?_) trivial
  exact caller.internal_follows (.fromBytes view) (caller.fromBytes view)

/-- What was encoded beforehand is copied, or nothing is called. -/
theorem bufferOfEncoding_follows (encoded : Outcome CodecError Bytes) : Follows
    (do caller.recorded.bufferOfBytes (← (Act.ofOutcome encoded).mapError Error.codec))
    (do caller.bufferOfBytes (← (Act.ofOutcome encoded).mapError Error.codec)) CleansUp := by
  have encoding : Follows
      ((Act.ofOutcome encoded).mapError Error.codec : Act (Recorded σ) _ _)
      ((Act.ofOutcome encoded).mapError Error.codec) (· = []) := by
    refine .quiet (fun _ _ => ?_) rfl
    cases encoded <;> rfl
  exact encoding.after_quiet caller.bufferOfBytes_follows trivial

/-- The operations for which a caller uses the buffer entry points of its core. -/
inductive Operation : Type → Type 1 where
  | bufferOfBytes (data : Bytes) : Operation Buffer
  | lower (lowering : Lowering) : Operation Buffer
  | lowerValue (schema : Schema) (value : Value) : Operation Buffer
  | lift {α : Type} (buffer : Buffer) (read : Read α) : Operation α
  | liftValue (buffer : Buffer) (schema : Schema) : Operation Value
  | release (buffer : Buffer) : Operation Unit

/-- The caller carries out an operation. -/
def Operation.run (caller : Caller σ) : Operation α → Act σ Error α
  | .bufferOfBytes data => caller.bufferOfBytes data
  | .lower lowering => caller.lower lowering
  | .lowerValue schema value => caller.lowerValue schema value
  | .lift buffer read => caller.lift buffer read
  | .liftValue buffer schema => caller.liftValue buffer schema
  | .release buffer => caller.release buffer

/-- **What an operation hands back.** Whatever the core does and leaves in its statuses, an
operation ends with its calls on record as it does without. It makes one call at most, behind which
it calls the releasing entry point once with the buffer that the call left in its status if that
reports a failure with a name, and does not call again if it does not. -/
theorem Operation.run_recorded (operation : Operation α) (core : σ) : ∃ calls,
    operation.run caller.recorded ⟨core, []⟩ = ending calls (operation.run caller core) ∧
      CleansUp calls := by
  have follows : Follows (operation.run caller.recorded) (operation.run caller) CleansUp := by
    cases operation with
    | bufferOfBytes data => exact caller.bufferOfBytes_follows data
    | lower lowering => exact caller.bufferOfEncoding_follows lowering.toBytes
    | lowerValue schema value => exact caller.bufferOfEncoding_follows (schema.encode value)
    | lift buffer read => exact caller.consume_follows buffer read.liftExact
    | liftValue buffer schema => exact caller.consume_follows buffer schema.decode
    | release buffer => exact caller.release_follows buffer
  obtain ⟨calls, tidy, run⟩ := follows core []
  exact ⟨calls, run, tidy⟩

/-- A core that leaves a buffer with a code of its own, or along with a success, does not get it
back. The memory stays on record. -/
theorem run_recorded_of_stray_buffer :
    let data : Bytes := [0, 0, 0, 1, 120]
    let copying (code : Int) : EStateM.Result (Fault Error) (Recorded FaultyCore) Buffer :=
      (Operation.bufferOfBytes [97, 98, 99]).run (FaultyCore.caller true false code data).recorded
        ⟨.fresh, []⟩
    let stray : Buffer := ⟨5, 5, some 1⟩
    let left (code : Int) : Recorded FaultyCore :=
      ⟨⟨⟨[(1, ⟨5, .ofBytes data⟩)], [], 2⟩, ["from_bytes"]⟩,
        [(.fromBytes ⟨3, some [97, 98, 99]⟩, ⟨code, stray⟩)]⟩
    copying 9 = .error (.error (.unknownStatus 9)) (left 9) ∧
      copying 0 = .ok Buffer.empty (left 0) ∧
      stray.read (left 9).core.ledger = .ok data ∧ stray.read (left 0).core.ledger = .ok data := by
  intro data copying stray left
  exact ⟨rfl, rfl, rfl, rfl⟩

end Caller

end Boundary
