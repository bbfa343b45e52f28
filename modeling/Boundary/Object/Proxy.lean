import Boundary.Call.Caller
import Boundary.NameMap
import Boundary.Text.Quoted

/-!
# Object proxies

A proxy stands on the host's side for an object of the core and owns one handle to it.  It counts
itself and the calls in flight as references.  Destroying a proxy gives up its own reference, once;
the core's object is released when the last reference is gone, so never under a call in flight.

A call whose body panics does not give its reference back.
-/

namespace Boundary

/-- The entry points of a core for the objects of one interface. -/
structure ObjectEntryPoints (σ : Type) where
  clone : Handle → EntryPoint σ Handle
  free : Handle → EntryPoint σ Unit

/-- A host's stand-in for an object of the core. -/
structure Proxy where
  interface : String
  handle : Handle
  destroyed : Bool
  references : Nat
  deriving DecidableEq, Repr

namespace Proxy

/-- A proxy that owns a handle, which must be one that can name an object. -/
def ofHandle? (interface : String) (handle : Handle) : Except Error Proxy :=
  if handle.isValid then .ok ⟨interface, handle, false, 1⟩
  else .error (.protocol s!"invalid {interface} handle {handle.text}")

/-- Takes a reference for a call.  Refused once the proxy is destroyed. -/
def acquire? (proxy : Proxy) : Except Error Proxy :=
  if proxy.references = 0 ∨ proxy.destroyed then .error (.objectDestroyed proxy.interface)
  else .ok { proxy with references := proxy.references + 1 }

/-- Gives a reference back, and tells whether it was the last. -/
def release (proxy : Proxy) : Bool × Proxy :=
  (proxy.references == 1, { proxy with references := proxy.references - 1 })

/-- Destroys the proxy, and tells whether it gave up the last reference by that. -/
def destroy (proxy : Proxy) : Bool × Proxy :=
  if proxy.destroyed then (false, proxy) else { proxy with destroyed := true }.release

/-- The proxy in diagnostic output. -/
def debugText (proxy : Proxy) : String :=
  s!"NativeObject \x7b interface: {Quoted.encode proxy.interface}, " ++
    s!"handle: {proxy.handle.debugText}, destroyed: {proxy.destroyed} \x7d"

end Proxy

/-- The proxies of a host, by name. -/
abbrev Proxies := NameMap Proxy

namespace Proxies

variable {σ τ ε : Type} [Part σ Ledger] [Part σ Proxies]
variable (caller : Caller σ) (links : ObjectEntryPoints σ)

/-- Releases the core's object.  A failure is not reported to anyone. -/
def freeHandle (handle : Handle) : StateM σ Unit := do
  let _ ← (caller.call (Read.undeclared : Read Empty) (links.free handle)).observe

/-- Changes a proxy in a way that may give up its last reference, and releases the object then. -/
def settle (name : String) (change : Proxy → Bool × Proxy) : StateM σ Unit := do
  match NameMap.get? (Part.get (← get) : Proxies) name with
  | none => pure ()
  | some proxy =>
    let (last, proxy) := change proxy
    modify fun state => Part.set (NameMap.insert name proxy (Part.get state : Proxies)) state
    if last then freeHandle caller links proxy.handle

/-- Destroys a proxy. -/
def destroy (name : String) : StateM σ Unit := settle caller links name Proxy.destroy

/-- Destroys a proxy and forgets it. -/
def drop (name : String) : StateM σ Unit := do
  destroy caller links name
  modify fun state => Part.set (NameMap.erase (Part.get state : Proxies) name) state

/-- Keeps a proxy under a name.  The proxy that had the name is dropped. -/
def keep (name : String) (proxy : Proxy) : StateM σ Unit := do
  drop caller links name
  modify fun state => Part.set (NameMap.insert name proxy (Part.get state : Proxies)) state

/-- Takes a reference for a call, and yields the handle to call with. -/
def acquire (name : String) : Act σ Error Handle := do
  match NameMap.get? (Part.get (← get) : Proxies) name with
  | none => Act.fail (.objectDestroyed name)
  | some proxy =>
    let acquired ← Act.ofExcept proxy.acquire?
    modify fun state => Part.set (NameMap.insert name acquired (Part.get state : Proxies)) state
    return proxy.handle

/-- Calls an entry point with the handle of a proxy. -/
def call (declared : Read ε) (name : String) (entry : Handle → EntryPoint σ τ) :
    Act σ (CallError ε) τ := do
  let handle ← (acquire name).mapError CallError.internal
  match ← Act.ofTotal (caller.call declared (entry handle)).observe with
  | .error (.panic payload) => Act.unwind payload
  | settled => do
    Act.ofTotal (settle caller links name Proxy.release)
    Act.ofOutcome settled

/-- A proxy of its own for the object of a proxy. -/
def clone (name : String) : Act σ (CallError Empty) Proxy := do
  let cloned := NameMap.get? (Part.get (← get) : Proxies) name
  let handle ← call caller links Read.undeclared name links.clone
  let interface := (cloned.map Proxy.interface).getD name
  (Act.ofExcept (Proxy.ofHandle? interface handle)).mapError CallError.internal

end Proxies

end Boundary
