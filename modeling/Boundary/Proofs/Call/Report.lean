import Boundary.Proofs.Call.Checking
import Boundary.Proofs.Wire.Production
import Boundary.Sample.StoreError

/-! # What a caller is told of a call

The envelope folds the end of a body into a value and a status, and the caller reads the two
again. What it is told is how the body ended (`Boundary.Envelope.Reports`): a result as it was
passed, a declared error as it is read from its own encoding, and a panic for a panic and for
everything that could not be passed or encoded, with a text that is cut only where a length
prefix could not count it (`Boundary.Caller.call_reports`). None of these is mistaken for
another (`Boundary.Envelope.Reports.unique`).
-/

namespace Boundary

/-! ## Texts -/

/-- The size of a text is that of its first character and of the rest. -/
theorem Utf8.size_ofList_cons (character : Char) (rest : List Char) :
    Utf8.size (String.ofList (character :: rest)) =
      character.utf8Size + Utf8.size (String.ofList rest) := by
  simp only [Utf8.size, Utf8.encode, String.toByteArray_ofList]
  rw [List.utf8Encode_cons]
  simp [List.utf8Encode_singleton]

/-- A text that is cut keeps within the limit. -/
theorem size_takeWithin_le (limit : Nat) (characters : List Char) :
    Utf8.size (String.ofList (takeWithin limit characters)) ≤ limit := by
  induction characters generalizing limit with
  | nil => exact Nat.zero_le limit
  | cons character rest ih =>
      unfold takeWithin
      split
      · next fits =>
        rw [Utf8.size_ofList_cons]
        have others := ih (limit - character.utf8Size)
        omega
      · exact Nat.zero_le limit

/-- A text that is cut can be counted, and its length counts too. -/
theorem size_reportable_le (message : String) : 4 + Utf8.size (reportable message) ≤ maxLength := by
  have within := size_takeWithin_le (maxLength - 4) message.toList
  unfold reportable maxLength at *
  omega

variable {message : String} {ledger : Ledger}

/-- A text that can be counted with its length is encoded behind its length. -/
theorem Lowering.toBytes_string {text : String} (short : 4 + Utf8.size text ≤ maxLength) :
    (Lowering.string text).toBytes =
      .ok (BigEndian.encode 4 (Utf8.size text) ++ Utf8.encode text) := by
  have small : Utf8.size text ≤ maxLength := Nat.le_of_add_left_le short
  refine (toBytes_eq_ok_iff (Write.Emits.counted small)).mpr ⟨?_, ?_, rfl⟩
  · rw [List.length_append, BigEndian.length_encode]
    rfl
  · rw [List.length_append, BigEndian.length_encode]
    exact Nat.lt_of_le_of_lt short (by decide)

/-- The buffer holds the text behind its length, and the text is read back from it. -/
theorem messageBuffer_eq (message : String) : ∃ data,
    messageBuffer message = Buffer.ofBytes data ∧
      data.length = 4 + Utf8.size (reportable message) ∧
      Utf8.read.liftExact data = .ok (reportable message) := by
  have encoded := Lowering.toBytes_string (size_reportable_le message)
  have carries : (Lowering.string (reportable message)).write.Carries Utf8.read
      (reportable message) := .text _
  refine ⟨_, ?_, ?_, (carries.takes_of_toBytes encoded).1.liftExact⟩
  · unfold messageBuffer
    rw [encoded]
  · rw [List.length_append, BigEndian.length_encode]
    rfl

/-- The buffer of a message holds what can be reported of it. -/
theorem holds_messageBuffer (message : String) (ledger : Ledger) : ∃ data,
    (messageBuffer message ledger).1.Holds (messageBuffer message ledger).2 data ∧
      Utf8.read.liftExact data = .ok (reportable message) := by
  obtain ⟨data, filled, length, lifted⟩ := messageBuffer_eq message
  rw [filled]
  exact ⟨data, Buffer.holds_ofBytes (length ▸ size_reportable_le message) ledger, lifted⟩

/-- The status of a panic carries the buffer of its message. -/
theorem Status.panic_eq (message : String) (ledger : Ledger) : Status.panic message ledger =
    (⟨StatusCode.panic.number, (messageBuffer message ledger).1⟩,
      (messageBuffer message ledger).2) := by
  unfold panic
  generalize messageBuffer message = run
  rfl

theorem Status.meaning?_panic (message : String) (ledger : Ledger) :
    (Status.panic message ledger).1.meaning? = some .panic := by
  rw [panic_eq]
  rfl

/-- The text under which a fault is reported. -/
def Fault.wording : Fault Error → String
  | .error cause => cause.message
  | .panic payload => payload.message

namespace Envelope

variable {σ τ ρ ε : Type} [Part σ Ledger] {placeholder : τ} {pass : ρ → LedgerAct τ}
  {body : Act σ Lowering ρ} {state : σ} {value : τ} {after : Ledger}

/-! ## The side of the core -/

/-- An envelope runs its body, packs how this ended, and settles what the packing came to. -/
theorem result_eq (placeholder : τ) (pass : ρ → LedgerAct τ) (body : Act σ Lowering ρ) (state : σ) :
    result placeholder pass body state =
      let ended := body.observe state
      let packed := (pack pass ended.1).observe (Part.get ended.2)
      let settled := settle placeholder packed.1 packed.2
      (settled.1, Part.set settled.2 ended.2) := rfl

/-- What is packed well is handed over with the status of a success or an error. -/
theorem result_of_ok {packed : Except Buffer τ}
    (run : pack pass (body.observe state).1 (Part.get (body.observe state).2) = .ok packed after) :
    result placeholder pass body state =
      ((match packed with
        | .ok value => (value, Status.success)
        | .error encoding => (placeholder, Status.error encoding)),
        Part.set after (body.observe state).2) := by
  rw [result_eq]
  dsimp only
  rw [Act.observe_of_ok run]
  cases packed <;> rfl

/-- A fault is settled as a panic with its wording. -/
theorem settle_error (placeholder : τ) (fault : Fault Error) (ledger : Ledger) :
    settle placeholder (.error fault) ledger =
      ((placeholder, (Status.panic fault.wording ledger).1),
        (Status.panic fault.wording ledger).2) := by
  have same : settle placeholder (.error fault) =
      (do return (placeholder, ← Status.panic fault.wording) : StateM Ledger (τ × Status)) := by
    cases fault <;> rfl
  rw [same]
  generalize Status.panic fault.wording = run
  rfl

/-- A body whose end cannot be packed is reported as a panic. -/
theorem result_of_error {fault : Fault Error}
    (run : pack pass (body.observe state).1 (Part.get (body.observe state).2) =
      .error fault after) :
    result placeholder pass body state =
      ((placeholder, (Status.panic fault.wording after).1),
        Part.set (Status.panic fault.wording after).2 (body.observe state).2) := by
  rw [result_eq]
  dsimp only
  rw [Act.observe_of_error run, settle_error]

/-- What is told of a body that ended in some way, with the given records, to a caller that reads
declared errors as `declared`. -/
inductive Reports (declared : Read ε) (pass : ρ → LedgerAct τ) (ledger : Ledger) :
    Outcome Lowering ρ → Outcome (CallError ε) τ → Prop
  | passed {result : ρ} {value : τ} {after : Ledger} :
      pass result ledger = .ok value after → Reports declared pass ledger (.ok result) (.ok value)
  | unpassed {result : ρ} {fault : Fault Error} {after : Ledger} :
      pass result ledger = .error fault after →
      Reports declared pass ledger (.ok result)
        (.error (.error (.panic (reportable fault.wording))))
  | declared {lowering : Lowering} {encoding : Buffer} {after : Ledger} {data : Bytes} {error : ε} :
      Buffer.lower lowering ledger = .ok encoding after → encoding.read after = .ok data →
      declared.liftExact data = .ok error →
      Reports declared pass ledger (.error (.error lowering)) (.error (.error (.declared error)))
  /-- The encoding of a declared error is not one to the caller. -/
  | misread {lowering : Lowering} {encoding : Buffer} {after : Ledger} {data : Bytes}
      {fault : Fault CodecError} :
      Buffer.lower lowering ledger = .ok encoding after → encoding.read after = .ok data →
      declared.liftExact data = .error fault →
      Reports declared pass ledger (.error (.error lowering))
        (.error (fault.map fun cause => .internal (.codec cause)))
  | unencoded {lowering : Lowering} {fault : Fault Error} {after : Ledger} :
      Buffer.lower lowering ledger = .error fault after →
      Reports declared pass ledger (.error (.error lowering))
        (.error (.error (.panic (reportable fault.wording))))
  | panicked {payload : PanicPayload} :
      Reports declared pass ledger (.error (.panic payload))
        (.error (.error (.panic (reportable payload.message))))

variable {ended : Outcome Lowering ρ} {ledger : Ledger} {declared : Read ε}

/-- A value that is passed is what the caller is told. -/
theorem Reports.of_pack_ok (run : pack pass ended ledger = .ok (.ok value) after) :
    Reports declared pass ledger ended (.ok value) := by
  match ended with
  | .ok result =>
      obtain ⟨_, _, passed, same⟩ := Act.bind_eq_ok_iff.mp run
      cases same
      exact .passed passed
  | .error (.error lowering) =>
      obtain ⟨_, _, _, same⟩ := Act.bind_eq_ok_iff.mp run
      cases same
  | .error (.panic payload) => cases run

/-- A fault is told to the caller as a panic with its wording. -/
theorem Reports.of_pack_error {fault : Fault Error}
    (run : pack pass ended ledger = .error fault after) :
    Reports declared pass ledger ended (.error (.error (.panic (reportable fault.wording)))) := by
  match ended with
  | .ok result =>
      rcases Act.bind_eq_error_iff.mp run with failed | ⟨_, _, _, impossible⟩
      · exact .unpassed failed
      · cases impossible
  | .error (.error lowering) =>
      rcases Act.bind_eq_error_iff.mp run with failed | ⟨_, _, _, impossible⟩
      · exact .unencoded failed
      · cases impossible
  | .error (.panic payload) =>
      cases run
      exact .panicked

/-- How a body ended decides what is told of it. -/
theorem Reports.unique {told other : Outcome (CallError ε) τ}
    (first : Reports declared pass ledger ended told)
    (second : Reports declared pass ledger ended other) : told = other := by
  cases first with
  | passed run =>
      cases second with
      | passed again =>
          cases run.symm.trans again
          rfl
      | unpassed again => cases run.symm.trans again
  | unpassed run =>
      cases second with
      | passed again => cases run.symm.trans again
      | unpassed again =>
          cases run.symm.trans again
          rfl
  | declared lowered read lifted =>
      cases second with
      | declared again same also =>
          cases lowered.symm.trans again
          cases read.symm.trans same
          cases lifted.symm.trans also
          rfl
      | misread again same also =>
          cases lowered.symm.trans again
          cases read.symm.trans same
          cases lifted.symm.trans also
      | unencoded again => cases lowered.symm.trans again
  | misread lowered read lifted =>
      cases second with
      | declared again same also =>
          cases lowered.symm.trans again
          cases read.symm.trans same
          cases lifted.symm.trans also
      | misread again same also =>
          cases lowered.symm.trans again
          cases read.symm.trans same
          cases lifted.symm.trans also
          rfl
      | unencoded again => cases lowered.symm.trans again
  | unencoded run =>
      cases second with
      | declared again _ _ => cases run.symm.trans again
      | misread again _ _ => cases run.symm.trans again
      | unencoded again =>
          cases run.symm.trans again
          rfl
  | panicked =>
      cases second
      rfl

/-- An error buffer is a declared error that was lowered. -/
theorem lower_of_pack_ok {encoding : Buffer}
    (run : pack pass ended ledger = .ok (.error encoding) after) :
    ∃ lowering, ended = .error (.error lowering) ∧
      Buffer.lower lowering ledger = .ok encoding after := by
  match ended with
  | .ok result =>
      obtain ⟨_, _, _, same⟩ := Act.bind_eq_ok_iff.mp run
      cases same
  | .error (.error lowering) =>
      obtain ⟨_, _, lowered, same⟩ := Act.bind_eq_ok_iff.mp run
      cases same
      exact ⟨lowering, rfl, lowered⟩
  | .error (.panic payload) => cases run

end Envelope

namespace Caller

variable {σ τ ρ ε : Type} [Part σ Ledger] {caller : Caller σ} {declared : Read ε}
  {entry : EntryPoint σ τ} {state left after : σ} {value : τ} {status : Status} {data : Bytes}

/-! ## The side of the caller -/

/-- A call enters the entry point, checks its status, and returns its value. -/
theorem call_eq (entered : entry state = ((value, status), left)) :
    caller.call declared entry state =
      (do caller.checkStatus declared status; return value : Act σ (CallError ε) τ) left := by
  have first : Act.ofTotal entry state = (.ok (value, status) left :
      EStateM.Result (Fault (CallError ε)) σ (τ × Status)) := by
    unfold Act.ofTotal
    rw [entered]
  unfold call
  exact Act.bind_of_ok first

/-- A call with a status that is accepted answers the value. -/
theorem call_of_accepted (entered : entry state = ((value, status), left))
    (checked : caller.checkStatus declared status left = .ok () after) :
    ((caller.call declared entry).observe state).1 = .ok value := by
  have run : caller.call declared entry state = .ok value after :=
    (call_eq entered).trans (Act.bind_of_ok checked)
  rw [Act.observe_of_ok run]

/-- A call with a status that is rejected answers the fault. -/
theorem call_of_rejected {fault : Fault (CallError ε)}
    (entered : entry state = ((value, status), left))
    (checked : caller.checkStatus declared status left = .error fault after) :
    ((caller.call declared entry).observe state).1 = .error fault := by
  have run : caller.call declared entry state = .error fault after :=
    (call_eq entered).trans (Act.bind_of_error checked)
  rw [Act.observe_of_error run]

/-- A panic is told to the caller as its text. -/
theorem call_of_panic (takesBack : caller.TakesBack) (declared : Read ε) {message : String}
    {ledger : Ledger}
    (entered : entry state =
      ((value, (Status.panic message ledger).1), Part.set (Status.panic message ledger).2 left)) :
    ((caller.call declared entry).observe state).1 =
      .error (.error (.panic (reportable message))) := by
  obtain ⟨data, holds, lifted⟩ := holds_messageBuffer message ledger
  have held : (Status.panic message ledger).1.errorBuffer.Holds
      (Part.get (Part.set (Status.panic message ledger).2 left)) data := by
    rw [Part.get_set, Status.panic_eq]
    exact holds
  obtain ⟨after, released⟩ := takesBack.release held
  have checked := checkStatus_of_panic declared (Status.meaning?_panic message ledger) held released
  rw [lifted] at checked
  exact call_of_rejected entered checked

/-- A declared error is told to the caller as it reads the encoding. -/
theorem call_of_error (takesBack : caller.TakesBack) (declared : Read ε) {encoding : Buffer}
    (entered : entry state = ((value, Status.error encoding), left))
    (holds : encoding.Holds (Part.get left) data) :
    ((caller.call declared entry).observe state).1 =
      match declared.liftExact data with
      | .ok error => .error (.error (.declared error))
      | .error fault => .error (fault.map fun cause => .internal (.codec cause)) := by
  obtain ⟨after, released⟩ := takesBack.release holds
  have checked : caller.checkStatus declared (.error encoding) left = _ :=
    checkStatus_of_error declared rfl holds released
  match read : declared.liftExact data with
  | .ok error =>
      rw [read] at checked
      exact call_of_rejected entered checked
  | .error (.error cause) =>
      rw [read] at checked
      exact call_of_rejected entered checked
  | .error (.panic payload) =>
      rw [read] at checked
      exact call_of_rejected entered checked

/-- **The caller is told how the body ended.** Around a body in an envelope, whatever its results
and errors are and however they are lowered, a caller whose core takes its buffers back observes
what `Envelope.Reports` says. The status that the envelope leaves says that the call went well and
has no buffer, or it says that a declared error or a panic came about; then the value is the
placeholder. -/
theorem call_reports (takesBack : caller.TakesBack) (declared : Read ε) (placeholder : τ)
    (pass : ρ → LedgerAct τ) (body : Act σ Lowering ρ) (state : σ) :
    let entry : EntryPoint σ τ := Envelope.result placeholder pass body
    let ended := body.observe state
    let returned := (entry state).1
    Envelope.Reports declared pass (Part.get ended.2) ended.1
        ((caller.call declared entry).observe state).1 ∧
      (returned.2.meaning? = some .success ∧ returned.2.errorBuffer = Buffer.empty ∨
        (returned.2.meaning? = some .error ∨ returned.2.meaning? = some .panic) ∧
          returned.1 = placeholder) := by
  intro entry ended returned
  match packed : Envelope.pack pass ended.1 (Part.get ended.2) with
  | .ok (.ok value) after =>
      have entered : entry state = _ := Envelope.result_of_ok packed
      have told := call_of_accepted entered (checkStatus_of_success caller declared rfl rfl)
      have left : returned = (value, Status.success) := congrArg Prod.fst entered
      rw [told, left]
      exact ⟨.of_pack_ok packed, .inl ⟨rfl, rfl⟩⟩
  | .ok (.error encoding) after =>
      have entered : entry state = _ := Envelope.result_of_ok packed
      have left : returned = (placeholder, Status.error encoding) := congrArg Prod.fst entered
      obtain ⟨lowering, failed, lowered⟩ := Envelope.lower_of_pack_ok packed
      obtain ⟨data, holds⟩ := Buffer.Holds.of_lower lowered
      have held : encoding.Holds (Part.get (Part.set after ended.2)) data := by
        rw [Part.get_set]
        exact holds
      have told := call_of_error takesBack declared entered held
      rw [told, left, failed]
      refine ⟨?_, .inr ⟨.inl rfl, rfl⟩⟩
      match read : declared.liftExact data with
      | .ok error => exact .declared lowered holds.read read
      | .error fault => exact .misread lowered holds.read read
  | .error fault after =>
      have entered : entry state = _ := Envelope.result_of_error packed
      have left : returned = (placeholder, (Status.panic fault.wording after).1) :=
        congrArg Prod.fst entered
      have told := call_of_panic takesBack declared entered
      rw [told, left]
      exact ⟨.of_pack_error packed, .inr ⟨.inr (Status.meaning?_panic _ _), rfl⟩⟩

/-- A store that refuses an operation is heard to refuse it. -/
theorem call_reports_refusal :
    let body : Act Ledger Lowering Output := Act.fail StoreError.readOnly.lowering
    let told := ((inProcess.call StoreError.read
      (Envelope.result Passed.void Output.pass body)).observe Ledger.empty).1
    (inProcess : Caller Ledger).TakesBack ∧
      Envelope.Reports StoreError.read Output.pass .empty
        (.error (.error StoreError.readOnly.lowering)) told ∧
      told = .error (.error (.declared .readOnly)) := by
  intro body told
  have reports :=
    call_reports takesBack_inProcess StoreError.read Passed.void Output.pass body .empty
  exact ⟨takesBack_inProcess, reports.1, by decide +kernel⟩

end Caller

end Boundary
