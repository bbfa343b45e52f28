import Boundary.Call.Caller
import Boundary.NameMap

/-!
# A session with buffers

Named buffers between a core and its host. A step that consumes a buffer takes its name away,
whatever comes of it; a step that makes one gives it a name. Buffers can be copied, altered and made
up, so that the core is presented with claims it never granted.

`ω` is what the steps that decode a value of known type yield.
-/

namespace Boundary

/-- A way to make a buffer. -/
inductive BufferMaker where
  | empty
  | allocate (size : Nat)
  | ofBytes (data : Bytes) (spare : Nat)
  | ofForeign (data : Bytes)
  /-- Through the host's caller. -/
  | ofCaller (data : Bytes)
  | lowerValue (schema : Schema) (value : Value)

/-- A step with a named buffer. -/
inductive BufferStep (ω : Type) where
  | make (maker : BufferMaker)
  /-- The entry point that allocates. -/
  | entryAllocate (size : Nat)
  | entryFromBytes (data : Bytes)
  | entryReserve (additional : Nat)
  | entryFree
  | reserve (additional : Nat)
  | free
  | take
  | callerFree
  | liftValue (schema : Schema)
  | callerLiftValue (schema : Schema)
  | lift (reading : Read ω)
  | callerLift (reading : Read ω)
  /-- Copies the claim to another name. -/
  | alias (other : String)
  /-- Alters the claim. -/
  | tamper (capacity length : Option Nat) (isNull : Bool)
  /-- Makes up a claim to memory that the core never handed out. -/
  | forge (data : Bytes)
  | info
  | read
  | readUnchecked

/-- What a step with a buffer answers. -/
inductive BufferReply (ω : Type) where
  | done
  | data (data : Bytes)
  | value (value : Value)
  | lifted (result : ω)
  | fits (holds : Bool)
  | status (status : Status)
  /-- The capacity is shown unless it depends on how memory grows. -/
  | info (length : Nat) (isEmpty isLive : Bool) (capacity : Option Nat)

/-- Named buffers. -/
structure BufferSession where
  ledger : Ledger
  buffers : NameMap Buffer
  /-- The names under which a buffer was made to grow. -/
  grown : List String

namespace BufferSession

instance : Part BufferSession Ledger where
  get session := session.ledger
  set ledger session := { session with ledger := ledger }
  get_set _ _ := rfl
  set_get _ := rfl
  set_set _ _ _ := rfl

/-- No buffer has a name. -/
def start : BufferSession := ⟨Ledger.empty, [], []⟩

/-- The host's caller. -/
def caller : Caller BufferSession := Caller.inProcess

/-- Gives a buffer a name. -/
def keep (name : String) (buffer : Buffer) : StateM BufferSession Unit :=
  modify fun session => { session with buffers := session.buffers.insert name buffer }

/-- The buffer of a name. -/
def buffer (session : BufferSession) (name : String) : Buffer :=
  (session.buffers.get? name).getD Buffer.empty

/-- Takes the buffer of a name. -/
def pull (name : String) : StateM BufferSession Buffer := fun session =>
  (session.buffer name, { session with buffers := session.buffers.erase name })

/-- Notes that the buffer of a name was made to grow. -/
def noteGrown (name : String) : StateM BufferSession Unit :=
  modify fun session => { session with grown := name :: session.grown }

/-- A buffer operation, on the session. -/
def operate {α : Type} (operation : EStateM BufferError Ledger α) : Act BufferSession Error α :=
  ((Act.ofReporting operation).mapError Error.buffer).onPart

/-- Makes a buffer. -/
def make : BufferMaker → Act BufferSession Error Buffer
  | .empty => return Buffer.empty
  | .allocate size => operate (Buffer.allocate size)
  | .ofBytes data spare => Act.ofTotal (onPart (Buffer.ofBytesSparing data spare))
  | .ofForeign data => do
    let view ← (Act.ofExcept (ForeignBytes.ofBytes? data)).mapError Error.buffer
    operate (Buffer.ofForeignBytes view)
  | .ofCaller data => caller.bufferOfBytes data
  | .lowerValue schema value => (Buffer.lowerValue schema value).onPart

/-- Keeps the buffer that an entry point returns, and answers with its status. -/
def keepEntry {ω : Type} (name : String) (entry : EntryPoint BufferSession Buffer) :
    Act BufferSession Error (BufferReply ω) := do
  let (buffer, status) ← Act.ofTotal entry
  Act.ofTotal (keep name buffer)
  return .status status

/-- Takes one step with the buffer of a name. -/
def step {ω : Type} (name : String) : BufferStep ω → Act BufferSession Error (BufferReply ω)
  | .make maker => do
    Act.ofTotal (keep name (← make maker))
    return .done
  | .entryAllocate size => keepEntry name (caller.allocate size)
  | .entryFromBytes data => keepEntry name (caller.fromBytes ⟨data.length, some data⟩)
  | .entryReserve additional => do
    let buffer ← Act.ofTotal (pull name)
    Act.ofTotal (noteGrown name)
    keepEntry name (caller.reserve buffer additional)
  | .entryFree => do
    let (_, status) ← Act.ofTotal (caller.free (← Act.ofTotal (pull name)))
    return .status status
  | .reserve additional => do
    let buffer ← Act.ofTotal (pull name)
    Act.ofTotal (noteGrown name)
    let grown ← operate (buffer.reserve additional)
    Act.ofTotal (keep name grown)
    return .fits (decide (buffer.length + additional ≤ grown.capacity))
  | .free => do
    operate (← Act.ofTotal (pull name)).free
    return .done
  | .take => do return .data (← operate (← Act.ofTotal (pull name)).take)
  | .callerFree => do
    caller.release (← Act.ofTotal (pull name))
    return .done
  | .liftValue schema => do
    return .value (← ((← Act.ofTotal (pull name)).liftValue schema).onPart)
  | .callerLiftValue schema => do
    return .value (← caller.liftValue (← Act.ofTotal (pull name)) schema)
  | .lift reading => do return .lifted (← ((← Act.ofTotal (pull name)).lift reading).onPart)
  | .callerLift reading => do return .lifted (← caller.lift (← Act.ofTotal (pull name)) reading)
  | .alias other => do
    Act.ofTotal (keep other ((← get).buffer name))
    return .done
  | .tamper capacity length isNull => do
    let buffer := (← get).buffer name
    Act.ofTotal (keep name
      { capacity := capacity.getD buffer.capacity
        length := length.getD buffer.length
        address := if isNull then none else buffer.address })
    return .done
  | .forge data => do
    let address ← Act.ofTotal (onPart (fun ledger : Ledger => ledger.reveal (Region.ofBytes data)))
    Act.ofTotal (keep name ⟨data.length, data.length, some address⟩)
    return .done
  | .info => do
    let session ← get
    let buffer := session.buffer name
    return .info buffer.length buffer.isEmpty (buffer.isLive session.ledger)
      (if session.grown.contains name then none else some buffer.capacity)
  | .read => do
    let session ← get
    let bytes ← (Act.ofExcept ((session.buffer name).read session.ledger)).mapError Error.buffer
    return .data bytes
  | .readUnchecked => do
    let session ← get
    return .data
      (← (Act.ofExcept ((session.buffer name).readUnchecked session.ledger)).mapError Error.buffer)

end BufferSession

end Boundary
