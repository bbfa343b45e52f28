import Boundary.Proofs.Call.Report
import Boundary.Proofs.Job.Disposal

/-! # Results that are alike

Two calls whose bodies end the same take different memory, so what they pass cannot be compared by
where it lies. Results are alike if their buffers hold the same data, each in its own ledger, and
they do not differ otherwise. Bodies that end alike leave results that are alike
(`Boundary.Envelope.alike_outputOrError`), and of such results a caller is told the same, whether
they come from a call or from a job (`Boundary.JobAwait.resolve_alike_call`).
-/

namespace Boundary

variable {here there later : Ledger}

/-- The one buffer holds in the one ledger what the other one holds in the other. -/
def Buffer.Alike (here there : Ledger) (buffer other : Buffer) : Prop :=
  ∀ data, buffer.Holds here data ↔ other.Holds there data

/-- What is passed differs in the place of its buffer at most. -/
inductive Passed.Alike (here there : Ledger) : Passed → Passed → Prop
  | void : Alike here there .void .void
  | word (type : Scalar) (word : type.Word) : Alike here there (.word type word) (.word type word)
  | buffer {buffer other : Buffer} : buffer.Alike here there other →
      Alike here there (.buffer buffer) (.buffer other)

/-- Results of bodies that are the same, except for the place of a buffer that was filled. -/
inductive Output.Alike (here there : Ledger) : Output → Output → Prop
  | void : Alike here there .void .void
  | word (type : Scalar) (word : type.Word) : Alike here there (.word type word) (.word type word)
  | lowered (lowering : Lowering) : Alike here there (.lowered lowering) (.lowered lowering)
  | buffer {buffer other : Buffer} : buffer.Alike here there other →
      Alike here there (.buffer buffer) (.buffer other)

/-- Either both ended well and alike, or both with the same fault. -/
inductive Outcome.Alike {ε α : Type} (alike : α → α → Prop) : Outcome ε α → Outcome ε α → Prop
  | passed {value other : α} : alike value other → Alike alike (.ok value) (.ok other)
  | failed (fault : Fault ε) : Alike alike (.error fault) (.error fault)

/-- Two bodies ended alike, each with the ledger that it left. -/
def EndsAlike (ran other : Outcome Lowering Output × Ledger) : Prop :=
  Outcome.Alike (Output.Alike ran.2 other.2) ran.1 other.1

/-- Two calls came to the same, each with the ledger that it left. -/
def ToldAlike {ε : Type} (told other : Outcome (CallError ε) Passed × Ledger) : Prop :=
  Outcome.Alike (Passed.Alike told.2 other.2) told.1 other.1

/-- Values that are alike, with the same code and the same data to explain it. -/
structure JobResult.Alike (here there : Ledger) (result other : JobResult) : Prop where
  value : result.value.Alike here there other.value
  code : result.status.code = other.status.code
  explained : ∃ data, result.status.errorBuffer.Holds here data ∧
    other.status.errorBuffer.Holds there data

/-! ## Buffers -/

namespace Buffer

variable {buffer other : Buffer} {data : Bytes}

/-- A buffer holds one string of bytes at most. -/
theorem Holds.unique (holds : buffer.Holds here data) {again : Bytes}
    (same : buffer.Holds here again) : data = again :=
  Except.ok.inj (holds.read.symm.trans same.read)

/-- Buffers that hold the same are alike. -/
theorem Holds.alike (holds : buffer.Holds here data) (held : other.Holds there data) :
    buffer.Alike here there other := by
  intro seen
  constructor
  · intro same
    exact holds.unique same ▸ held
  · intro same
    exact held.unique same ▸ holds

theorem Alike.refl (ledger : Ledger) (buffer : Buffer) : buffer.Alike ledger ledger buffer :=
  fun _ => Iff.rfl

/-- Only the allocation of the buffer itself matters. -/
theorem Alike.congr (alike : buffer.Alike here there other)
    (same : ∀ address ∈ buffer.allocations, later.find? address = here.find? address) :
    buffer.Alike later there other := by
  intro data
  refine Iff.trans ⟨fun holds => ?_, fun holds => ?_⟩ (alike data)
  · exact holds.congr fun address own => (same address (Option.mem_toList.mpr own)).symm
  · exact holds.congr fun address own => same address (Option.mem_toList.mpr own)

/-- A value is lowered to the same data everywhere, or fails in the same way. -/
theorem lower_alike (lowering : Lowering) (here there : Ledger) :
    (∃ buffer after other left data,
      Buffer.lower lowering here = .ok buffer after ∧ Buffer.lower lowering there = .ok other left ∧
        buffer.Holds after data ∧ other.Holds left data) ∨
    ∃ fault after left, Buffer.lower lowering here = .error fault after ∧
      Buffer.lower lowering there = .error fault left := by
  by_cases large : maxLength < lowering.size
  · obtain ⟨fault, failed⟩ := lower_of_lt large
    exact .inr ⟨fault, _, _, failed here, failed there⟩
  have short := Nat.le_of_not_lt large
  match filled : lowering.fill with
  | .ok data =>
      obtain ⟨after, lowered, holds, _⟩ := lower_of_fill short filled here
      obtain ⟨left, again, held, _⟩ := lower_of_fill short filled there
      exact .inl ⟨_, after, _, left, _, lowered, again, holds, held⟩
  | .error (.error cause) =>
      obtain ⟨after, failed, _⟩ := lower_of_fill_error short filled here
      obtain ⟨left, again, _⟩ := lower_of_fill_error short filled there
      exact .inr ⟨_, after, left, failed, again⟩
  | .error (.panic payload) =>
      exact .inr ⟨_, _, _, lower_of_fill_panic short filled here,
        lower_of_fill_panic short filled there⟩

end Buffer

/-- What cannot pass a result passes the same placeholder. -/
theorem Passed.alike_placeholder (here there : Ledger) (channel : Channel) :
    channel.placeholder.Alike here there channel.placeholder := by
  cases channel with
  | void => exact .void
  | word type => exact .word type 0
  | buffer => exact .buffer (Buffer.Holds.alike .nothing .nothing)

namespace Passed.Alike

variable {value other : Passed}

/-- Only the allocations of a value matter. -/
theorem congr (alike : value.Alike here there other)
    (same : ∀ address ∈ value.allocations, later.find? address = here.find? address) :
    value.Alike later there other := by
  cases alike with
  | void => exact .void
  | word type word => exact .word type word
  | buffer filled => exact .buffer (filled.congr same)

end Passed.Alike

/-! ## Ends of bodies -/

/-- The allocations of the buffer that a body filled. -/
def Output.allocations : Output → List Address
  | .buffer own => own.allocations
  | .void | .word _ _ | .lowered _ => []

/-- Only the allocations of an output matter. -/
theorem Output.Alike.congr {output other : Output} (alike : output.Alike here there other)
    (same : ∀ address ∈ output.allocations, later.find? address = here.find? address) :
    output.Alike later there other := by
  cases alike with
  | void => exact .void
  | word type word => exact .word type word
  | lowered lowering => exact .lowered lowering
  | buffer filled => exact .buffer (filled.congr same)

namespace Outcome

variable {ε α : Type} {alike : α → α → Prop}

/-- The allocations of the buffer that a body filled, if it ended well. -/
def allocations : Outcome Lowering Output → List Address
  | .ok output => output.allocations
  | .error _ => []

theorem Alike.eq_error {outcome : Outcome ε α} {fault : Fault ε}
    (ends : Alike alike outcome (.error fault)) : outcome = .error fault := by
  cases ends
  rfl

end Outcome

/-- A body ends alike to itself. -/
theorem EndsAlike.refl (ran : Outcome Lowering Output × Ledger) : EndsAlike ran ran := by
  obtain ⟨fault | output, ledger⟩ := ran
  · exact .failed fault
  · cases output with
    | void => exact .passed .void
    | word type word => exact .passed (.word type word)
    | lowered lowering => exact .passed (.lowered lowering)
    | buffer filled => exact .passed (.buffer (.refl ledger filled))

/-- Only the allocations of what a body ended with matter. -/
theorem EndsAlike.congr {outcome : Outcome Lowering Output}
    {other : Outcome Lowering Output × Ledger} (ends : EndsAlike (outcome, here) other)
    (same : ∀ address ∈ Outcome.allocations outcome,
      later.find? address = here.find? address) : EndsAlike (outcome, later) other := by
  obtain ⟨again, there⟩ := other
  cases ends with
  | passed output => exact .passed (output.congr same)
  | failed fault => exact .failed fault

namespace JobResult.Alike

variable {result other : JobResult}

/-- Only the allocations of a result matter. -/
theorem congr (alike : result.Alike here there other)
    (same : ∀ address ∈ result.allocations, later.find? address = here.find? address) :
    result.Alike later there other := by
  obtain ⟨data, holds, held⟩ := alike.explained
  have kept : result.status.errorBuffer.Holds later data :=
    holds.congr fun address own =>
      same address (List.mem_append_right _ (Option.mem_toList.mpr own))
  exact ⟨alike.value.congr fun address own => same address (List.mem_append_left _ own),
    alike.code, data, kept, held⟩

end JobResult.Alike

namespace Envelope

variable {ran other : Outcome Lowering Output × Ledger}

/-- Ways to pass on how a body ended that are alike. -/
inductive PacksAlike : EStateM.Result (Fault Error) Ledger (Except Buffer Passed) →
    EStateM.Result (Fault Error) Ledger (Except Buffer Passed) → Prop
  | passed {value other : Passed} {after left : Ledger} : value.Alike after left other →
      PacksAlike (.ok (.ok value) after) (.ok (.ok other) left)
  | declared {encoding other : Buffer} {after left : Ledger} {data : Bytes} :
      encoding.Holds after data → other.Holds left data →
      PacksAlike (.ok (.error encoding) after) (.ok (.error other) left)
  | failed (fault : Fault Error) (after left : Ledger) :
      PacksAlike (.error fault after) (.error fault left)

/-- **Bodies that end alike are packed alike**, whatever else the ledgers hold. -/
theorem pack_alike (ends : EndsAlike ran other) :
    PacksAlike (pack Output.pass ran.1 ran.2) (pack Output.pass other.1 other.2) := by
  obtain ⟨outcome, here⟩ := ran
  obtain ⟨again, there⟩ := other
  cases ends with
  | passed output =>
      cases output with
      | void => exact .passed .void
      | word type word => exact .passed (.word type word)
      | buffer filled => exact .passed (.buffer filled)
      | lowered lowering =>
          rcases Buffer.lower_alike lowering here there with
            ⟨buffer, after, other, left, data, lowered, again, holds, held⟩ |
            ⟨fault, after, left, failed, again⟩
          · have packed : pack Output.pass (.ok (.lowered lowering)) here =
              .ok (.ok (.buffer buffer)) after := Act.bind_of_ok (Act.bind_of_ok lowered)
            have packedThere : pack Output.pass (.ok (.lowered lowering)) there =
              .ok (.ok (.buffer other)) left := Act.bind_of_ok (Act.bind_of_ok again)
            rw [packed, packedThere]
            exact .passed (.buffer (holds.alike held))
          · have packed : pack Output.pass (.ok (.lowered lowering)) here = .error fault after :=
              Act.bind_of_error (Act.bind_of_error failed)
            have packedThere : pack Output.pass (.ok (.lowered lowering)) there =
              .error fault left := Act.bind_of_error (Act.bind_of_error again)
            rw [packed, packedThere]
            exact .failed fault after left
  | failed fault =>
      cases fault with
      | panic payload => exact .failed (.panic payload) here there
      | error lowering =>
          rcases Buffer.lower_alike lowering here there with
            ⟨buffer, after, other, left, data, lowered, again, holds, held⟩ |
            ⟨fault, after, left, failed, again⟩
          · have packed : pack Output.pass (.error (.error lowering)) here =
              .ok (.error buffer) after := Act.bind_of_ok lowered
            have packedThere : pack Output.pass (.error (.error lowering)) there =
              .ok (.error other) left := Act.bind_of_ok again
            rw [packed, packedThere]
            exact .declared holds held
          · have packed : pack Output.pass (.error (.error lowering)) here =
              .error fault after := Act.bind_of_error failed
            have packedThere : pack Output.pass (.error (.error lowering)) there =
              .error fault left := Act.bind_of_error again
            rw [packed, packedThere]
            exact .failed fault after left

end Envelope

/-- A panic is explained by the same data everywhere. -/
theorem Status.alike_panic (placeholder : Channel) (message : String) (here there : Ledger) :
    JobResult.Alike (Status.panic message here).2 (Status.panic message there).2
      ⟨placeholder.placeholder, (Status.panic message here).1⟩
      ⟨placeholder.placeholder, (Status.panic message there).1⟩ := by
  obtain ⟨data, filled, length, _⟩ := messageBuffer_eq message
  have holds (ledger : Ledger) :
      (messageBuffer message ledger).1.Holds (messageBuffer message ledger).2 data := by
    rw [filled]
    exact Buffer.holds_ofBytes (length ▸ size_reportable_le message) ledger
  simp only [Status.panic_eq]
  exact ⟨Passed.alike_placeholder _ _ placeholder, rfl, data, holds here, holds there⟩

namespace Envelope

variable {ran other : Outcome Lowering Output × Ledger}

/-- An envelope around an outcome that is given packs and settles it. -/
theorem outputOrError_ofOutcome (channel : Channel) (outcome : Outcome Lowering Output)
    (ledger : Ledger) :
    outputOrError channel (Act.ofOutcome outcome : Act Ledger Lowering Output) ledger =
      let packed := (pack Output.pass outcome).observe ledger
      settle channel.placeholder packed.1 packed.2 := by
  cases outcome <;> rfl

/-- **Bodies that end alike leave results that are alike.** -/
theorem alike_outputOrError (channel : Channel) (ends : EndsAlike ran other) :
    let answer := outputOrError channel (Act.ofOutcome ran.1 : Act Ledger Lowering Output) ran.2
    let again := outputOrError channel (Act.ofOutcome other.1 : Act Ledger Lowering Output) other.2
    JobResult.Alike answer.2 again.2 ⟨answer.1.1, answer.1.2⟩ ⟨again.1.1, again.1.2⟩ := by
  rw [outputOrError_ofOutcome, outputOrError_ofOutcome]
  have packs := pack_alike ends
  unfold Act.observe
  generalize pack Output.pass ran.1 ran.2 = run at packs ⊢
  generalize pack Output.pass other.1 other.2 = rerun at packs ⊢
  cases packs with
  | passed value => exact ⟨value, rfl, [], .nothing, .nothing⟩
  | declared holds held => exact ⟨Passed.alike_placeholder _ _ channel, rfl, _, holds, held⟩
  | failed fault after left =>
      simp only [settle_error]
      exact Status.alike_panic channel fault.wording after left

end Envelope

/-! ## What a caller is told -/

namespace Caller

variable {σ τ ε : Type} [Part σ Ledger] {caller : Caller σ} {state elsewhere : σ}
  {status other : Status} {data : Bytes}

/-- What a caller makes of a status depends on the code and on the data that explains it. -/
theorem checkStatus_alike (takesBack : caller.TakesBack) (declared : Read ε)
    (code : status.code = other.code)
    (holds : status.errorBuffer.Holds (Part.get state) data)
    (held : other.errorBuffer.Holds (Part.get elsewhere) data) :
    (caller.checkStatus declared status state = .ok () state ∧
      caller.checkStatus declared other elsewhere = .ok () elsewhere) ∨
    ∃ fault after left, caller.checkStatus declared status state = .error fault after ∧
      caller.checkStatus declared other elsewhere = .error fault left := by
  obtain ⟨after, released⟩ := takesBack.release holds
  obtain ⟨left, freed⟩ := takesBack.release held
  have same : status.meaning? = other.meaning? := congrArg StatusCode.ofNumber? code
  have length : status.errorBuffer.length = other.errorBuffer.length :=
    holds.length_eq.symm.trans held.length_eq
  match meaning : status.meaning? with
  | some .success =>
      by_cases nothing : status.errorBuffer.length = 0
      · exact .inl ⟨checkStatus_of_success caller declared meaning nothing,
          checkStatus_of_success caller declared (same ▸ meaning) (length ▸ nothing)⟩
      · exact .inr ⟨_, _, _, checkStatus_of_stray declared meaning nothing released,
          checkStatus_of_stray declared (same ▸ meaning) (length ▸ nothing) freed⟩
  | some .error =>
      have checked := checkStatus_of_error declared meaning holds released
      have again := checkStatus_of_error declared (same ▸ meaning) held freed
      match read : declared.liftExact data with
      | .ok error =>
          rw [read] at checked again
          exact .inr ⟨_, _, _, checked, again⟩
      | .error (.error cause) =>
          rw [read] at checked again
          exact .inr ⟨_, _, _, checked, again⟩
      | .error (.panic payload) =>
          rw [read] at checked again
          exact .inr ⟨_, _, _, checked, again⟩
  | some .panic =>
      exact .inr ⟨_, _, _, checkStatus_of_panic declared meaning holds released,
        checkStatus_of_panic declared (same ▸ meaning) held freed⟩
  | some .cancelled =>
      exact .inr ⟨_, _, _, checkStatus_of_cancelled declared meaning released,
        checkStatus_of_cancelled declared (same ▸ meaning) freed⟩
  | none =>
      have again := checkStatus_of_unknown declared (same ▸ meaning) freed
      rw [← code] at again
      exact .inr ⟨_, _, _, checkStatus_of_unknown declared meaning released, again⟩

end Caller

namespace JobAwait

variable {σ ε : Type} [Part σ Ledger] {caller : Caller σ} {state elsewhere left : σ}
  {result : JobResult} {value : Passed} {status : Status} {entry : EntryPoint σ Passed}

/-- **An await is told of a result what a caller is told of one that is alike.** -/
theorem resolve_alike_call (takesBack : caller.TakesBack) (declared : Read ε)
    (entered : entry elsewhere = ((value, status), left))
    (alike : result.Alike (Part.get state) (Part.get left) ⟨value, status⟩) :
    let told := (resolve caller declared result).observe state
    let called := (caller.call declared entry).observe elsewhere
    ToldAlike (told.1, Part.get told.2) (called.1, Part.get called.2) := by
  obtain ⟨data, holds, held⟩ := alike.explained
  rcases Caller.checkStatus_alike takesBack declared alike.code holds held with
    ⟨checked, again⟩ | ⟨fault, after, behind, checked, again⟩
  · have called : caller.call declared entry elsewhere = .ok value left :=
      (Caller.call_eq entered).trans (Act.bind_of_ok again)
    rw [resolve_of_ok checked, Act.observe_of_ok called]
    exact .passed alike.value
  · have called : caller.call declared entry elsewhere = .error fault behind :=
      (Caller.call_eq entered).trans (Act.bind_of_error again)
    rw [Act.observe_of_error called]
    cases fault with
    | error cause =>
        rw [resolve_of_error checked]
        exact .failed (.error cause)
    | panic payload =>
        rw [resolve_of_panic checked]
        exact .failed (.panic payload)

end JobAwait

end Boundary
