import Boundary.Handle.Table
import Boundary.Object.Proxy
import Boundary.Sample.StoreError
import Boundary.Session.Reply

/-!
# A session with counters

A core that keeps counters, which handles may share, and a host that keeps proxies for them.  Every
step is one action of the host.  The core records each handle that it is asked to release.
-/

namespace Boundary

/-- A core with counters and its host. -/
structure CounterSession where
  ledger : Ledger
  counters : Table (Shared UInt32)
  proxies : Proxies
  /-- The handles that were released, in order. -/
  freed : List Handle
  /-- What the clone entry point returns in place of a handle. -/
  cloneAs : Option Handle
  /-- Whether the release entry point refuses to work. -/
  freeFails : Bool
  /-- How the last call from within a call ended. -/
  inner : Option (Reply StoreError)

/-- The actions of the host. -/
inductive CounterStep where
  | create (name : String) (start : UInt32)
  | adopt (name : String) (handle : Handle)
  | clone (name target : String)
  | increment (name : String)
  | subtract (name : String) (amount : Nat)
  /-- A call whose body destroys its own proxy first. -/
  | destroyInside (name : String)
  /-- A call whose body calls again, after destroying its own proxy if so told. -/
  | nest (name : String) (destroy : Bool)
  /-- A call that leaves a status of someone else's choice. -/
  | leave (name : String) (code : Int) (data : Bytes)
  | destroy (name : String)
  | drop (name : String)
  | cloneAs (handle : Handle)
  | freeFails (fails : Bool)

namespace CounterSession

instance : Part CounterSession Ledger where
  get session := session.ledger
  set ledger session := { session with ledger := ledger }
  get_set _ _ := rfl
  set_get _ := rfl
  set_set _ _ _ := rfl

instance : Part CounterSession Proxies where
  get session := session.proxies
  set proxies session := { session with proxies := proxies }
  get_set _ _ := rfl
  set_get _ := rfl
  set_set _ _ _ := rfl

/-- A core without counters, and a host without proxies. -/
def start : CounterSession := ⟨Ledger.empty, Table.named "Counter", [], [], none, false, none⟩

/-- The counter under a handle. -/
def counter (handle : Handle) : Act CounterSession Error (Shared UInt32) := do
  (Act.ofExcept ((← get).counters.get handle)).mapError Error.handle

/-- Sets a counter, under all the handles that share it. -/
def setCounter (counter : Shared UInt32) (value : UInt32) : Act CounterSession Error Unit :=
  modify fun session =>
    { session with counters := session.counters.setShared counter value }

/-- Adds one to a counter, which wraps, and yields it. -/
def increment (handle : Handle) : Act CounterSession Error Output := do
  let counter ← counter handle
  setCounter counter (counter.contents + 1)
  return .word .u32 (counter.contents + 1).toBitVec

/-- Takes an amount from a counter that has it. -/
def subtract (handle : Handle) (amount : Nat) : Act CounterSession StoreError Output := do
  match ← Act.ofTotal (counter handle).observe with
  | .error (.panic payload) => Act.unwind payload
  | .error (.error cause) => Act.fail (.notFound cause.message)
  | .ok counter =>
    if counter.contents.toNat < amount then Act.fail .readOnly
    else
      let rest := UInt32.ofNat (counter.contents.toNat - amount)
      (setCounter counter rest).mapError fun _ => .readOnly
      return .word .u32 rest.toBitVec

/-- The entry point that adds one to a counter. -/
def incrementEntry (handle : Handle) : EntryPoint CounterSession Passed :=
  Envelope.internalOutput (.word .u32) (increment handle)

/-- The entry point that takes an amount from a counter. -/
def subtractEntry (amount : Nat) (handle : Handle) : EntryPoint CounterSession Passed :=
  Envelope.outputOrError (.word .u32) ((subtract handle amount).mapError StoreError.lowering)

/-- The entry point that issues another handle. -/
def cloneEntry (handle : Handle) : StateM CounterSession (Handle × Status) := do
  match (← get).cloneAs with
  | some other => return (other, Status.success)
  | none =>
    Envelope.internal Handle.null do
      let (issued, counters) := (← get).counters.cloneHandle handle
      modify fun session => { session with counters := counters }
      (Act.ofExcept issued).mapError Error.handle

/-- The entry point that releases a handle. -/
def freeEntry (handle : Handle) : StateM CounterSession (Unit × Status) := do
  modify fun session => { session with freed := session.freed ++ [handle] }
  if (← get).freeFails then
    return ((), ← onPart (Status.panic "free refused"))
  else
    Envelope.internal () do
      match (← get).counters.remove handle with
      | .ok (_, counters) => modify fun session => { session with counters := counters }
      | .error cause => Act.fail (.handle cause)

/-- The entry points for counters. -/
def links : ObjectEntryPoints CounterSession := ⟨cloneEntry, freeEntry⟩

/-- The host's caller. -/
def caller : Caller CounterSession := Caller.inProcess

/-- A call of the host through a proxy. -/
def call {τ : Type} (name : String) (entry : Handle → EntryPoint CounterSession τ) :
    StateM CounterSession (Outcome (CallError StoreError) τ) :=
  (Proxies.call caller links StoreError.read name entry).observe

/-- Keeps a proxy for a handle. -/
def adopt (interface name : String) (handle : Handle) :
    StateM CounterSession (Reply StoreError) := do
  match Proxy.ofHandle? interface handle with
  | .error cause => return .failed cause
  | .ok proxy =>
    Proxies.keep caller links name proxy
    return .handle handle

/-- A body that increments after it destroyed its own proxy, if so told, and that tries a call of
its own in between. -/
def nestedEntry (name : String) (destroy : Bool) (handle : Handle) :
    StateM CounterSession (Passed × Status) := do
  if destroy then Proxies.destroy caller links name
  let inner ← call name incrementEntry
  modify fun session => { session with inner := some (Reply.ofCall .passed inner) }
  incrementEntry handle

/-- A body that increments after it destroyed its own proxy. -/
def destroyingEntry (name : String) (handle : Handle) :
    StateM CounterSession (Passed × Status) := do
  Proxies.destroy caller links name
  incrementEntry handle

/-- An entry point that leaves the code and an error buffer with the data. -/
def leavingEntry (code : Int) (data : Bytes) (_ : Handle) :
    StateM CounterSession (Passed × Status) := do
  return (.word .u32 5, ⟨code, ← onPart (Buffer.ofBytes data)⟩)

/-- Runs one action of the host, for proxies of the given interface. -/
def step (interface : String) : CounterStep → StateM CounterSession (Reply StoreError)
  | .create name start => do
    let (issued, counters) := (← get).counters.insertNew start
    modify fun session => { session with counters := counters }
    match issued with
    | .error cause => return .failed (.handle cause)
    | .ok handle => adopt interface name handle
  | .adopt name handle => adopt interface name handle
  | .clone name target => do
    match ← (Proxies.clone caller links name).observe with
    | .error (.error cause) => return .callFailed (Reply.widen cause)
    | .error (.panic payload) => return .unwound payload
    | .ok proxy => do
      Proxies.keep caller links target proxy
      return .handle proxy.handle
  | .increment name => do return Reply.ofCall .passed (← call name incrementEntry)
  | .subtract name amount => do return Reply.ofCall .passed (← call name (subtractEntry amount))
  | .destroyInside name => do return Reply.ofCall .passed (← call name (destroyingEntry name))
  | .nest name destroy => do
    modify fun session => { session with inner := none }
    return Reply.ofCall .passed (← call name (nestedEntry name destroy))
  | .leave name code data => do return Reply.ofCall .passed (← call name (leavingEntry code data))
  | .destroy name => do
    Proxies.destroy caller links name
    return .done
  | .drop name => do
    Proxies.drop caller links name
    return .done
  | .cloneAs handle => do
    modify fun session => { session with cloneAs := some handle }
    return .done
  | .freeFails fails => do
    modify fun session => { session with freeFails := fails }
    return .done

/-- Drops the proxies that are left, in the order of their names. -/
def close : StateM CounterSession Unit := do
  ((← get).proxies.map Prod.fst).forM (Proxies.drop caller links)

end CounterSession

end Boundary
