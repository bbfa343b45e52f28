import Boundary.Callback.Object
import Boundary.Callback.Registry
import Boundary.Sample.Source
import Boundary.Session.Reply

/-!
# A session with callbacks

A host that registers sources, and a core that calls them back through their handles.  The host has
two tables of functions that do the same, so that it shows which one is in use.  A method takes its
argument out of the buffer itself, so the buffer of a call for an unknown handle is never released.
-/

namespace Boundary

/-- The actions of the host and of the core. -/
inductive CallbackStep where
  | register (source : Source)
  | clone (handle : Handle)
  | free (handle : Handle)
  | get (handle : Handle)
  /-- A call for the text under an encoded key. -/
  | dispatchGet (handle : Handle) (key : Bytes)
  | dispatchSize (handle : Handle)
  /-- A call of a method that panics. -/
  | dispatchPanic (handle : Handle)
  | registerTable (table : Nat)
  | adopt (name : String) (handle : Handle)
  | invokeGet (name : String) (key : Bytes)
  | invokeSize (name : String)
  | drop (name : String)

/-- A host with sources, and a core that holds on to some of them. -/
structure CallbackSession where
  ledger : Ledger
  registry : CallbackRegistry Source
  slot : CallbackSlot Nat
  objects : NameMap (CallbackObject Nat)
  /-- The handles that the function of the tables freed. -/
  released : List Handle

namespace CallbackSession

instance : Part CallbackSession Ledger where
  get session := session.ledger
  set ledger session := { session with ledger := ledger }
  get_set _ _ := rfl
  set_get _ := rfl
  set_set _ _ _ := rfl

instance : Part CallbackSession (CallbackRegistry Source) where
  get session := session.registry
  set registry session := { session with registry := registry }
  get_set _ _ := rfl
  set_get _ := rfl
  set_set _ _ _ := rfl

/-- A host without sources, and a core without tables. -/
def start (interface : String) : CallbackSession :=
  ⟨Ledger.empty, CallbackRegistry.named interface, CallbackSlot.named interface, [], []⟩

/-- Takes the list of released handles. -/
def takeReleased : StateM CallbackSession (List Handle) := fun session =>
  (session.released, { session with released := [] })

/-- Frees a handle of the registry.  There are no jobs to be cancelled. -/
def free (handle : Handle) : StateM CallbackSession Unit :=
  CallbackRegistry.free Source (fun _ => return) handle

/-- The function of the tables that frees a handle. -/
def release (_ : Nat) (handle : Handle) : StateM CallbackSession Unit := do
  modify fun session => { session with released := session.released ++ [handle] }
  free handle

/-- The method that looks up a text. -/
def lookUp (key : Buffer) (source : Source) : Act CallbackSession Lowering Output := do
  let key ← ((key.lift Utf8.read).onPart : Act CallbackSession Error String).mapError
    fun cause => (StoreError.notFound cause.message).lowering
  let found ← (source.get (fun handle => do
    free handle
    return (← getThe CallbackSession).registry.size) key).mapError StoreError.lowering
  return .lowered (Lowering.string found)

/-- The function of the tables that looks up a text. -/
def getEntry (key : Buffer) (handle : Handle) : StateM CallbackSession (Passed × Status) :=
  CallbackRegistry.dispatch handle (.buffer Buffer.empty) fun source : Source =>
    Envelope.outputOrError .buffer (lookUp key source)

/-- The function of the tables that counts keys. -/
def sizeEntry (untouched : Passed) (handle : Handle) : StateM CallbackSession (Passed × Status) :=
  CallbackRegistry.dispatch handle untouched fun source : Source =>
    Envelope.outputOrError (.word .u32) (return .word .u32 (BitVec.ofNat 32 source.size))

/-- A method that panics. -/
def panicEntry (untouched : Passed) (handle : Handle) : StateM CallbackSession (Passed × Status) :=
  CallbackRegistry.dispatch handle untouched fun _ : Source =>
    Envelope.outputOrError (.word .u32) (Act.unwind (.text "in method"))

/-- What a number is before it is returned, to show whether it was. -/
def untouched : Passed := .word .u32 4242

/-- The host's caller. -/
def caller : Caller CallbackSession := Caller.inProcess

/-- Drops the object of a name, if there is one. -/
def drop (name : String) : StateM CallbackSession Unit := do
  match NameMap.get? (← get).objects name with
  | none => return
  | some object =>
    modify fun session => { session with objects := session.objects.erase name }
    object.drop release

/-- Calls a method of an object. -/
def invoke (name : String) (entry : Handle → StateM CallbackSession (Passed × Status)) :
    Act CallbackSession (CallError StoreError) Passed := do
  match NameMap.get? (← get).objects name with
  | none => Act.fail (.internal (.objectDestroyed name))
  | some object => object.invoke caller StoreError.read fun _ => entry

/-- Looks up a text through an object. -/
def invokeGet (name : String) (key : Bytes) :
    Act CallbackSession (CallError StoreError) String := do
  let key ← (caller.bufferOfBytes key).mapError CallError.internal
  match ← invoke name (getEntry key) with
  | .buffer text => (caller.lift text Utf8.read).mapError CallError.internal
  | _ => Act.fail (.internal (.protocol "no buffer was returned"))

/-- The text of the registry and of the slot in diagnostic output. -/
def debugTexts (session : CallbackSession) : String × String :=
  (session.registry.debugText, session.slot.debugText)

/-- Takes one step. -/
def step : CallbackStep → StateM CallbackSession (Reply StoreError)
  | .register source => do
    match ← onPart (CallbackRegistry.register source) with
    | .ok handle => return .handle handle
    | .error cause => return .failed (.handle cause)
  | .clone handle => do
    return .handle (← onPart (CallbackRegistry.cloneHandle handle :
      StateM (CallbackRegistry Source) _))
  | .free handle => do
    free handle
    return .done
  | .get handle => do
    match (← get).registry.get handle with
    | .ok source => return .count source.size
    | .error cause => return .failed (.handle cause)
  | .dispatchGet handle key => do
    let key ← onPart (Buffer.ofBytes key)
    let (result, status) ← getEntry key handle
    return .returned result status
  | .dispatchSize handle => do
    let (result, status) ← sizeEntry untouched handle
    return .returned result status
  | .dispatchPanic handle => do
    let (result, status) ← panicEntry untouched handle
    return .returned result status
  | .registerTable table => do
    modify fun session => { session with slot := session.slot.register table }
    return .done
  | .adopt name handle => do
    match CallbackObject.ofSlot? (← get).slot handle with
    | .error cause => return .failed cause
    | .ok object =>
      drop name
      modify fun session => { session with objects := session.objects.insert name object }
      return .handle object.handle
  | .invokeGet name key => do return Reply.ofCall .text (← (invokeGet name key).observe)
  | .invokeSize name => do
    return Reply.ofCall .passed (← (invoke name (sizeEntry (.word .u32 0))).observe)
  | .drop name => do
    drop name
    return .done

end CallbackSession

end Boundary
