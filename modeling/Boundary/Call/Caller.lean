import Boundary.Call.Envelope
import Boundary.Call.Error
import Boundary.Shape.Decoding
import Boundary.Shape.Encoding

/-!
# Callers

The host's side of a call.  A caller knows a core by its buffer entry points and nothing else: it
cannot consult the ledger, and what an entry point does and leaves in its status is up to the core.
The caller lowers arguments into buffers of the core, interprets the statuses of calls, and gives
buffers back through the core's own entry point.
-/

namespace Boundary

/-- The buffer entry points of a core. -/
structure Caller (σ : Type) where
  allocate : (size : Nat) → EntryPoint σ Buffer
  fromBytes : ForeignBytes → EntryPoint σ Buffer
  free : Buffer → EntryPoint σ Unit
  reserve : Buffer → (additional : Nat) → EntryPoint σ Buffer

namespace Caller

variable {σ τ ε : Type} [Part σ Ledger]

/-- Runs a buffer operation inside an envelope. -/
def enveloped (placeholder : τ) (operation : EStateM BufferError Ledger τ) : EntryPoint σ τ :=
  Envelope.internal placeholder ((Act.ofReporting operation).mapError Error.buffer).onPart

/-- The caller of a core in the same process. -/
def inProcess : Caller σ where
  allocate size := enveloped Buffer.empty (Buffer.allocate size)
  fromBytes view := enveloped Buffer.empty (Buffer.ofForeignBytes view)
  free buffer := enveloped () buffer.free
  reserve buffer additional := enveloped Buffer.empty (buffer.reserve additional)

variable (caller : Caller σ)

/-- The data that the host sees in a buffer. -/
def view (buffer : Buffer) : StateM σ (Except BufferError Bytes) := fun state =>
  (buffer.readUnchecked (Part.get state), state)

/-- The text in a panic's buffer, or a substitute if there is none. -/
def panicText (data : Except BufferError Bytes) : String :=
  match data with
  | .error _ => "unreadable panic message"
  | .ok data =>
    match Utf8.read.liftExact data with
    | .ok text => text
    | .error _ => "unreadable panic message"

/-- Runs a buffer entry point, which declares no errors and cannot be cancelled.  The buffer that
explains a known failure is given back, whatever comes of that. -/
def internal (entry : EntryPoint σ τ) : Act σ Error τ := do
  let (value, status) ← Act.ofTotal entry
  match status.meaning? with
  | some .success => return value
  | some .panic =>
    let text := panicText (← Act.ofTotal (view status.errorBuffer))
    let _ ← Act.ofTotal (caller.free status.errorBuffer)
    Act.fail (.panic text)
  | some other =>
    let _ ← Act.ofTotal (caller.free status.errorBuffer)
    Act.fail (.protocol s!"buffer entry point returned status {other.name}")
  | none => Act.fail (.unknownStatus status.code)

/-- Gives a buffer back.  One without memory need not be given back. -/
def release (buffer : Buffer) : Act σ Error Unit :=
  if buffer.capacity = 0 then pure () else caller.internal (caller.free buffer)

/-- Decodes the data of a buffer and gives the buffer back, whether decoding succeeds or not.  If
that fails too, its failure is reported.  A panic leaves the buffer with the host. -/
def consume {α : Type} (buffer : Buffer) (decode : Bytes → Outcome CodecError α) :
    Act σ Error α := do
  match Buffer.settleWith decode (← Act.ofTotal (view buffer)) with
  | .error (.panic payload) => Act.unwind payload
  | settled => do
    caller.release buffer
    Act.ofOutcome settled

/-- Decodes the one value that a buffer holds, and gives the buffer back. -/
def lift {α : Type} (buffer : Buffer) (value : Read α) : Act σ Error α :=
  caller.consume buffer value.liftExact

/-- Decodes the one value that a buffer holds, and gives the buffer back. -/
def liftValue (buffer : Buffer) (schema : Schema) : Act σ Error Value :=
  caller.consume buffer schema.decode

/-- Copies bytes of the host into a buffer of the core. -/
def bufferOfBytes (data : Bytes) : Act σ Error Buffer := do
  let view ← (Act.ofExcept (ForeignBytes.ofBytes? data)).mapError Error.buffer
  caller.internal (caller.fromBytes view)

/-- Encodes a value into a buffer of the core. -/
def lower (lowering : Lowering) : Act σ Error Buffer := do
  caller.bufferOfBytes (← (Act.ofOutcome lowering.toBytes).mapError Error.codec)

/-- Encodes a value into a buffer of the core. -/
def lowerValue (schema : Schema) (value : Value) : Act σ Error Buffer := do
  caller.bufferOfBytes (← (Act.ofOutcome (schema.encode value)).mapError Error.codec)

/-- Interprets the status of a call that declares errors as `declared` reads them, and gives its
error buffer back. -/
def checkStatus (declared : Read ε) (status : Status) : Act σ (CallError ε) Unit := do
  let released := (caller.release status.errorBuffer).mapError CallError.internal
  match status.meaning? with
  | some .success =>
    if status.errorBuffer.isEmpty then
      return
    else
      released
      Act.fail (.internal (.protocol "OK status carried a non-empty error buffer"))
  | some .error =>
    let error ← (caller.lift status.errorBuffer declared).mapError CallError.internal
    Act.fail (.declared error)
  | some .panic =>
    let message ← (caller.lift status.errorBuffer Utf8.read).mapError CallError.internal
    Act.fail (.panic message)
  | some .cancelled =>
    released
    Act.fail .cancelled
  | none =>
    released
    Act.fail (.internal (.unknownStatus status.code))

/-- Calls an entry point and interprets the status it leaves. -/
def call (declared : Read ε) (entry : EntryPoint σ τ) : Act σ (CallError ε) τ := do
  let (value, status) ← Act.ofTotal entry
  caller.checkStatus declared status
  return value

end Caller

end Boundary
