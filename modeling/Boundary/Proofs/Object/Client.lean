import Boundary.Object.Proxy
import Boundary.Proofs.Call.Passage
import Boundary.Proofs.Call.Return
import Boundary.Proofs.NameMap

/-! # A client with proxies of a core

A client keeps proxies for objects of a core, which may be any core that knows nothing of the client
(`Boundary.ObjectClient`). Its users adopt handles, clone, destroy and drop proxies, and call
through them; the body of a call may do all of that as well before it returns
(`Boundary.ObjectClient.Reaches`).

Next to the proxies a client keeps what has to be known to say when an object is released:
the handles that were adopted, those with calls in flight, and for each time that the core was
asked to release one what the client looked like then.
-/

namespace Boundary

/-- The core was asked to release an object, while the host had these calls in flight and these
proxies. -/
structure Release where
  handle : Handle
  inFlight : List Handle
  proxies : Proxies

/-- A core with a host that keeps proxies of its objects. -/
structure ObjectClient (κ : Type) where
  core : κ
  proxies : Proxies
  /-- The handles that were ever adopted. -/
  owned : List Handle
  /-- The handle of each call that has begun and not returned, the latest first. -/
  inFlight : List Handle
  /-- What the core was asked to release, in order. -/
  freed : List Release

namespace ObjectClient

variable {κ τ ε : Type}

instance [Part κ Ledger] : Part (ObjectClient κ) Ledger where
  get client := Part.get client.core
  set ledger client := { client with core := Part.set ledger client.core }
  get_set new client := Part.get_set new client.core
  set_get client := by rw [Part.set_get]
  set_set new old client := by rw [Part.set_set]

instance : Part (ObjectClient κ) Proxies where
  get client := client.proxies
  set proxies client := { client with proxies := proxies }
  get_set _ _ := rfl
  set_get _ := rfl
  set_set _ _ _ := rfl

/-- A host without proxies. -/
def start (core : κ) : ObjectClient κ := ⟨core, [], [], [], []⟩

/-- The proxy of a name. -/
def proxy? (client : ObjectClient κ) (name : String) : Option Proxy :=
  NameMap.get? client.proxies name

/-- The handles that the core was asked to release, in order. -/
def released (client : ObjectClient κ) : List Handle := client.freed.map Release.handle

/-- Runs a function of the core. -/
def onCore {α : Type} (run : StateM κ α) : StateM (ObjectClient κ) α := fun client =>
  ((run client.core).1, { client with core := (run client.core).2 })

/-- The core's functions for buffers, as its host calls them. -/
def calling (caller : Caller κ) : Caller (ObjectClient κ) where
  allocate size := onCore (caller.allocate size)
  fromBytes view := onCore (caller.fromBytes view)
  free buffer := onCore (caller.free buffer)
  reserve buffer additional := onCore (caller.reserve buffer additional)

/-- A call with the handle has begun. -/
def begun (handle : Handle) (client : ObjectClient κ) : ObjectClient κ :=
  { client with inFlight := handle :: client.inFlight }

/-- A call with the handle has returned. -/
def ended (handle : Handle) (client : ObjectClient κ) : ObjectClient κ :=
  { client with inFlight := client.inFlight.erase handle }

/-- Runs a body and notes the call with the handle meanwhile. -/
def during (handle : Handle) (body : EntryPoint (ObjectClient κ) τ) :
    StateM (ObjectClient κ) (τ × Status) := do
  modify (begun handle)
  let returned ← body
  modify (ended handle)
  return returned

/-- The core is asked to release an object. -/
def asked (handle : Handle) (client : ObjectClient κ) : ObjectClient κ :=
  { client with
    freed := client.freed ++ [⟨handle, client.inFlight, client.proxies⟩] }

/-- Notes that the core is asked to release an object, and asks it. -/
def release (links : ObjectEntryPoints κ) (handle : Handle) :
    StateM (ObjectClient κ) (Unit × Status) := do
  modify (asked handle)
  onCore (links.free handle)

/-- The core's entry points for objects, as its host calls them. -/
def linking (links : ObjectEntryPoints κ) : ObjectEntryPoints (ObjectClient κ) where
  clone handle := during handle (onCore (links.clone handle))
  free := release links

/-- There is no call in flight through the proxy of the name. -/
def Idle (client : ObjectClient κ) (name : String) : Prop :=
  ∀ proxy, client.proxy? name = some proxy → proxy.handle ∉ client.inFlight

section

variable [Part κ Ledger] (caller : Caller κ) (links : ObjectEntryPoints κ)

/-- Calls through a proxy. -/
def call (declared : Read ε) (name : String) (body : Handle → EntryPoint (ObjectClient κ) τ) :
    Act (ObjectClient κ) (CallError ε) τ :=
  Proxies.call (calling caller) (linking links) declared name fun handle =>
    during handle (body handle)

/-- Destroys a proxy. -/
def destroy (name : String) : StateM (ObjectClient κ) Unit :=
  Proxies.destroy (calling caller) (linking links) name

/-- Destroys a proxy and forgets it. -/
def drop (name : String) : StateM (ObjectClient κ) Unit :=
  Proxies.drop (calling caller) (linking links) name

/-- Keeps a new proxy under a name, in place of the one that had the name. -/
def keep (name : String) (proxy : Proxy) : StateM (ObjectClient κ) Unit := do
  Proxies.keep (calling caller) (linking links) name proxy
  modify fun client => { client with owned := proxy.handle :: client.owned }

/-- Keeps a proxy for a handle of the core. -/
def adopt (interface name : String) (handle : Handle) : Act (ObjectClient κ) Error Unit := do
  let proxy ← Act.ofExcept (Proxy.ofHandle? interface handle)
  Act.ofTotal (keep caller links name proxy)

/-- Makes a second proxy for the object of a proxy. -/
def copy (name : String) : Act (ObjectClient κ) (CallError Empty) Proxy :=
  Proxies.clone (calling caller) (linking links) name

/-- Keeps a second proxy for the object of a proxy. -/
def clone (name target : String) : Act (ObjectClient κ) (CallError Empty) Unit := do
  let proxy ← copy caller links name
  Act.ofTotal (keep caller links target proxy)

/-- From one state of a client its users get to another. Each proxy has a handle of its own: none
is adopted twice, and the core returns one for a clone that it did not return before. A proxy that
is dropped is not used any more, so no call through it is in flight. The body of a call gets
somewhere itself before it is done, and the call returns. -/
inductive Reaches : ObjectClient κ → ObjectClient κ → Prop
  | refl (client : ObjectClient κ) : Reaches client client
  | adopt {start client : ObjectClient κ} (interface name : String) (handle : Handle) :
      Reaches start client → handle ∉ client.owned → client.Idle name →
      Reaches start ((adopt caller links interface name handle).observe client).2
  | clone {start client : ObjectClient κ} (name target : String) : Reaches start client →
      (∀ proxy after, copy caller links name client = .ok proxy after →
        proxy.handle ∉ after.owned ∧ after.Idle target) →
      Reaches start ((clone caller links name target).observe client).2
  | call {start client : ObjectClient κ} {τ ε : Type} (declared : Read ε) (name : String)
      (body : Handle → EntryPoint (ObjectClient κ) τ) : Reaches start client →
      (∀ handle acquired, Proxies.acquire name client = .ok handle acquired →
        Reaches (acquired.begun handle) (body handle (acquired.begun handle)).2) →
      (∀ payload after, call caller links declared name body client ≠
        .error (.panic payload) after) →
      Reaches start ((call caller links declared name body).observe client).2
  | destroy {start client : ObjectClient κ} (name : String) : Reaches start client →
      Reaches start (destroy caller links name client).2
  | drop {start client : ObjectClient κ} (name : String) : Reaches start client →
      client.Idle name → Reaches start (drop caller links name client).2
  /-- The core does something of its own. -/
  | elsewhere {start client : ObjectClient κ} (core : κ) : Reaches start client →
      Reaches start { client with core := core }

/-- The states in which a client can be seen: its users got there, outside of calls as well as
in their bodies. -/
inductive Reachable (core : κ) : ObjectClient κ → Prop
  | start : Reachable core (start core)
  | onward {client after : ObjectClient κ} : Reachable core client →
      Reaches caller links client after → Reachable core after
  | enter {client acquired : ObjectClient κ} {name : String} {handle : Handle} :
      Reachable core client → Proxies.acquire name client = .ok handle acquired →
      Reachable core (acquired.begun handle)

end

/-! ### What is done, as equations -/

section Equations

variable {caller : Caller κ} {links : ObjectEntryPoints κ} {client : ObjectClient κ}
  {name : String} {handle : Handle} {proxy : Proxy}

/-- The client with a proxy under a name. -/
def put (client : ObjectClient κ) (name : String) (proxy : Proxy) : ObjectClient κ :=
  { client with proxies := NameMap.insert name proxy client.proxies }

theorem proxy?_put (other : String) : (client.put name proxy).proxy? other =
    if other = name then some proxy else client.proxy? other :=
  NameMap.get?_insert client.proxies name other proxy

/-- The client without the proxy of a name. -/
def forget (client : ObjectClient κ) (name : String) : ObjectClient κ :=
  { client with proxies := NameMap.erase client.proxies name }

theorem proxy?_forget (other : String) : (client.forget name).proxy? other =
    if other = name then none else client.proxy? other :=
  NameMap.get?_erase client.proxies name other

theorem proxy?_forget_ne {other : String} (different : other ≠ name) :
    (client.forget name).proxy? other = client.proxy? other :=
  (proxy?_forget other).trans (if_neg different)

/-- A proxy that is found after another was forgotten was found before. -/
theorem proxy?_of_forget {other : String}
    (there : (client.forget name).proxy? other = some proxy) :
    client.proxy? other = some proxy := by
  rw [proxy?_forget] at there
  split at there
  · cases there
  · exact there

/-- The core's functions for buffers change nothing but the core. -/
theorem calling_keeps (base : ObjectClient κ) :
    (calling caller).FreeKeeps fun other => ∃ core, other = { base with core := core } := by
  rintro buffer other ⟨core, rfl⟩
  exact ⟨_, rfl⟩

/-- Taking a reference is up to the proxy of the name. -/
theorem acquire_eq (name : String) (client : ObjectClient κ) : Proxies.acquire name client =
    match client.proxy? name with
    | none => .error (.error (.objectDestroyed name)) client
    | some proxy =>
      match proxy.acquire? with
      | .ok acquired => .ok proxy.handle (client.put name acquired)
      | .error cause => .error (.error cause) client := by
  have ran : Proxies.acquire name client =
      (match client.proxy? name with
        | none => Act.fail (.objectDestroyed name)
        | some proxy => do
          let acquired ← Act.ofExcept proxy.acquire?
          modify fun client => client.put name acquired
          return proxy.handle : Act (ObjectClient κ) Error Handle) client := rfl
  rw [ran]
  cases client.proxy? name with
  | none => rfl
  | some proxy => cases allowed : proxy.acquire? <;> simp only [allowed] <;> rfl

/-- A reference is taken, or the state stays as it is. -/
theorem acquire_cases (name : String) (client : ObjectClient κ) :
    (∃ proxy acquired, client.proxy? name = some proxy ∧ proxy.acquire? = .ok acquired ∧
      Proxies.acquire name client = .ok proxy.handle (client.put name acquired)) ∨
    ∃ cause, Proxies.acquire name client = .error (.error cause) client := by
  rw [acquire_eq]
  cases found : client.proxy? name with
  | none => exact .inr ⟨_, rfl⟩
  | some proxy =>
      cases allowed : proxy.acquire? with
      | ok acquired => exact .inl ⟨proxy, acquired, rfl, allowed, by simp only [allowed]⟩
      | error cause => exact .inr ⟨cause, by simp only [allowed]⟩

variable [Part κ Ledger]

variable (caller) in
/-- A call does nothing to the host but what the body does. -/
theorem observe_call (declared : Read ε) (body : EntryPoint (ObjectClient κ) τ)
    (client : ObjectClient κ) : ∃ core,
    (((calling caller).call declared body).observe client).2 =
      { (body client).2 with core := core } :=
  Caller.call_keeps (calling_keeps (body client).2) declared ⟨_, rfl⟩

/-- Freeing a handle asks the core, and changes nothing else of the client. -/
theorem freeHandle_eq : ∃ core,
    (Proxies.freeHandle (calling caller) (linking links) handle client).2 =
      { client.asked handle with core := core } := by
  have ran : (release links handle client).2 =
      { client.asked handle with core := (links.free handle client.core).2 } := rfl
  obtain ⟨core, freed⟩ :=
    observe_call caller (Read.undeclared : Read Empty) (release links handle) client
  rw [ran] at freed
  exact ⟨core, freed⟩

/-- What a change of a proxy leaves, and the release of the object if it gave up the last
reference. -/
def settled (client : ObjectClient κ) (name : String) (changed : Bool × Proxy) : ObjectClient κ :=
  if changed.1 then (client.put name changed.2).asked changed.2.handle
  else client.put name changed.2

variable (caller links) in
/-- A change to a proxy is settled with the core. -/
theorem settle_of_some (found : client.proxy? name = some proxy)
    (change : Proxy → Bool × Proxy) : ∃ core,
    (Proxies.settle (calling caller) (linking links) name change client).2 =
      { client.settled name (change proxy) with core := core } := by
  have known : NameMap.get? (Part.get client : Proxies) name = some proxy := found
  unfold Proxies.settle settled
  simp only [bind_apply, get_apply, known]
  cases (change proxy).1 with
  | true => exact freeHandle_eq
  | false => exact ⟨client.core, rfl⟩

/-- Where there is no proxy, there is nothing to settle. -/
theorem settle_of_none (absent : client.proxy? name = none) (change : Proxy → Bool × Proxy) :
    (Proxies.settle (calling caller) (linking links) name change client).2 = client := by
  have unknown : NameMap.get? (Part.get client : Proxies) name = none := absent
  unfold Proxies.settle
  simp only [bind_apply, get_apply, unknown]
  rfl

/-- Dropping a proxy is destroying and forgetting it. -/
theorem drop_eq : (drop caller links name client).2 =
    (destroy caller links name client).2.forget name := rfl

variable (caller links) in
/-- What remains of a call that has taken its reference: the body runs, and the reference is given
back when it has returned. -/
def conduct (declared : Read ε) (name : String) (body : EntryPoint (ObjectClient κ) τ) :
    Act (ObjectClient κ) (CallError ε) τ := do
  match ← Act.ofTotal ((calling caller).call declared body).observe with
  | .error (.panic payload) => Act.unwind payload
  | settled => do
    Act.ofTotal (Proxies.settle (calling caller) (linking links) name Proxy.release)
    Act.ofOutcome settled

variable (caller links) in
/-- A call that is not allowed fails before its body runs. -/
theorem call_eq (declared : Read ε) (name : String) (body : Handle → EntryPoint (ObjectClient κ) τ)
    (client : ObjectClient κ) :
    call caller links declared name body client =
      match Proxies.acquire name client with
      | .ok handle acquired =>
        conduct caller links declared name (during handle (body handle)) acquired
      | .error fault after => .error (fault.map CallError.internal) after := by
  unfold call Proxies.call
  cases taken : Proxies.acquire name client with
  | ok handle acquired =>
      rw [Act.bind_of_ok (Act.mapError_of_ok taken CallError.internal)]
      rfl
  | error fault after =>
      rw [Act.bind_of_error (Act.mapError_of_error taken CallError.internal)]

variable (links) in
/-- The state in which a call through a proxy has given its reference back. -/
def givenBack (caller : Caller κ) (name : String) (client : ObjectClient κ) : ObjectClient κ :=
  (Proxies.settle (calling caller) (linking links) name Proxy.release client).2

variable (caller links) in
/-- A call that returns gives its reference back, and one that unwinds does not. -/
theorem conduct_eq (declared : Read ε) (name : String) (body : EntryPoint (ObjectClient κ) τ)
    (client : ObjectClient κ) :
    conduct caller links declared name body client =
      match (calling caller).call declared body client with
      | .ok value after => .ok value (givenBack links caller name after)
      | .error (.error cause) after => .error (.error cause) (givenBack links caller name after)
      | .error (.panic payload) after => .error (.panic payload) after := by
  have ran : conduct caller links declared name body client =
      (match (((calling caller).call declared body).observe client).1 with
        | .error (.panic payload) => Act.unwind payload
        | settled => do
          Act.ofTotal (Proxies.settle (calling caller) (linking links) name Proxy.release)
          Act.ofOutcome settled : Act (ObjectClient κ) (CallError ε) τ)
        (((calling caller).call declared body).observe client).2 := rfl
  cases ended : (calling caller).call declared body client with
  | ok value after =>
      rw [ran, Act.observe_of_ok ended]
      rfl
  | error fault after =>
      rw [ran, Act.observe_of_error ended]
      cases fault <;> rfl

/-- A call that returns gives its reference back in the state that its body left, up to what the
core made of it. -/
theorem observe_conduct {declared : Read ε} {body : EntryPoint (ObjectClient κ) τ}
    (returns : ∀ payload after,
      conduct caller links declared name body client ≠ .error (.panic payload) after) :
    ∃ core, ((conduct caller links declared name body).observe client).2 =
      givenBack links caller name { (body client).2 with core := core } := by
  obtain ⟨core, left⟩ := observe_call caller declared body client
  refine ⟨core, ?_⟩
  rw [← left]
  have ran := conduct_eq caller links declared name body client
  cases ended : (calling caller).call declared body client with
  | ok value after =>
      rw [ended] at ran
      rw [Act.observe_of_ok ended, Act.observe_of_ok ran]
  | error fault after =>
      rw [ended] at ran
      cases fault with
      | error cause => rw [Act.observe_of_error ended, Act.observe_of_error ran]
      | panic payload => exact absurd ran (returns payload after)

/-- A call returns, if the declared error can be lifted without a panic. -/
theorem conduct_returns {declared : Read ε} (never : declared.NeverPanics)
    (body : EntryPoint (ObjectClient κ) τ) :
    (conduct caller links declared name body).Returns := by
  intro client payload after unwound
  rw [conduct_eq] at unwound
  cases ended : (calling caller).call declared body client with
  | ok value between =>
      rw [ended] at unwound
      cases unwound
  | error fault between =>
      rw [ended] at unwound
      cases fault with
      | error cause => cases unwound
      | panic raised => exact (calling caller).call_returns never body _ raised between ended

/-- A call whose errors are read without panics returns. -/
theorem call_returns {declared : Read ε} (never : declared.NeverPanics)
    (body : Handle → EntryPoint (ObjectClient κ) τ) :
    (call caller links declared name body).Returns := by
  intro client payload after unwound
  rw [call_eq] at unwound
  rcases acquire_cases name client with ⟨proxy, acquired, -, -, taken⟩ | ⟨cause, refused⟩
  · rw [taken] at unwound
    exact conduct_returns never _ _ payload after unwound
  · rw [refused] at unwound
    cases unwound

/-- A proxy that owns a handle has its own reference and no other. -/
theorem eq_of_ofHandle? {interface : String}
    (owned : Proxy.ofHandle? interface handle = .ok proxy) :
    proxy = ⟨interface, handle, false, 1⟩ := by
  unfold Proxy.ofHandle? at owned
  split at owned <;> cases owned
  rfl

/-- Adopting a handle keeps a proxy for it, if it can be one. -/
theorem observe_adopt (interface : String) :
    ((adopt caller links interface name handle).observe client).2 =
      match Proxy.ofHandle? interface handle with
      | .ok proxy => (keep caller links name proxy client).2
      | .error _ => client := by
  unfold adopt
  cases Proxy.ofHandle? interface handle <;> rfl

variable (caller links) in
/-- The call of the core that a copy of a proxy begins with. -/
def cloning (name : String) : Act (ObjectClient κ) (CallError Empty) Handle :=
  call caller links Read.undeclared name fun handle => onCore (links.clone handle)

/-- A copy is a proxy for the handle that the core returns, in the state that the call left. -/
theorem copy_cases (name : String) (client : ObjectClient κ) :
    (∃ interface handle after, cloning caller links name client = .ok handle after ∧
      copy caller links name client = .ok ⟨interface, handle, false, 1⟩ after) ∨
    ∃ fault, copy caller links name client =
      .error fault ((cloning caller links name).observe client).2 := by
  let interface := ((client.proxy? name).map Proxy.interface).getD name
  have ran : copy caller links name client = (do
      let handle ← cloning caller links name
      (Act.ofExcept (Proxy.ofHandle? interface handle)).mapError CallError.internal :
      Act (ObjectClient κ) (CallError Empty) Proxy) client := rfl
  cases called : cloning caller links name client with
  | ok handle after =>
      rw [Act.bind_of_ok called] at ran
      rw [Act.observe_of_ok called]
      cases owned : Proxy.ofHandle? interface handle with
      | ok proxy =>
          rw [owned, eq_of_ofHandle? owned] at ran
          exact .inl ⟨interface, handle, after, rfl, ran⟩
      | error cause =>
          rw [owned] at ran
          exact .inr ⟨_, ran⟩
  | error fault after =>
      rw [Act.bind_of_error called] at ran
      rw [Act.observe_of_error called]
      exact .inr ⟨fault, ran⟩

/-- Cloning keeps a proxy for the copy, if the core makes one. -/
theorem observe_clone (target : String) :
    ((clone caller links name target).observe client).2 =
      match copy caller links name client with
      | .ok proxy after => (keep caller links target proxy after).2
      | .error _ after => after := by
  unfold clone Act.observe
  cases copied : copy caller links name client with
  | ok proxy after =>
      rw [Act.bind_of_ok copied]
      rfl
  | error fault after => rw [Act.bind_of_error copied]

end Equations

end ObjectClient

end Boundary
