import Boundary.Proofs.Object.References

/-! # How long the object of a proxy lives

What the users of a client do keeps it sound, and keeps the calls in flight and their proxies
(`Boundary.ObjectClient.Preserves`); the body of a call leaves its proxy where it is
(`Boundary.ObjectClient.Preserves.flying`). So at any time, in the bodies of calls as well as
outside of them, a call through a proxy begins just if the proxy is not destroyed, and the core was
asked to release an object, once, just if its proxy is destroyed and no call through it is in flight
(`Boundary.ObjectClient.objects_are_released_once`).
-/

namespace Boundary

namespace ObjectClient

variable {κ τ ε : Type} {client after : ObjectClient κ} {name : String} {handle : Handle}
  {proxy next : Proxy}

/-! ### What each action leaves -/

/-- What an action, or a whole run, leaves alone: the calls in flight, and which proxies they are
made through. -/
structure Preserves (client after : ObjectClient κ) : Prop where
  inFlight : after.inFlight = client.inFlight
  pinned : ∀ name proxy, client.proxy? name = some proxy → proxy.handle ∈ client.inFlight →
    ∃ next, after.proxy? name = some next ∧ next.handle = proxy.handle

namespace Preserves

theorem refl (client : ObjectClient κ) : Preserves client client :=
  ⟨rfl, fun _ proxy found _ => ⟨proxy, found, rfl⟩⟩

/-- What is preserved twice is preserved. -/
theorem trans {between : ObjectClient κ} (first : Preserves client between)
    (rest : Preserves between after) : Preserves client after := by
  refine ⟨rest.inFlight.trans first.inFlight, fun name proxy found flying => ?_⟩
  obtain ⟨middle, there, same⟩ := first.pinned name proxy found flying
  have stillFlying : middle.handle ∈ between.inFlight := by
    rw [same, first.inFlight]
    exact flying
  obtain ⟨next, last, still⟩ := rest.pinned name middle there stillFlying
  exact ⟨next, last, still.trans same⟩

/-- A proxy that is changed keeps its handle. -/
theorem put (found : client.proxy? name = some proxy) (same : next.handle = proxy.handle) :
    Preserves client (client.put name next) := by
  refine ⟨rfl, fun other old there _ => ?_⟩
  rw [proxy?_put]
  by_cases here : other = name
  · subst here
    rw [found] at there
    cases there
    exact ⟨next, if_pos rfl, same⟩
  · exact ⟨old, (if_neg here).trans there, rfl⟩

/-- The proxies of names that change have no calls in flight. -/
theorem of_others (inFlight : after.inFlight = client.inFlight) (idle : client.Idle name)
    (others : ∀ other ≠ name, after.proxy? other = client.proxy? other) :
    Preserves client after := by
  refine ⟨inFlight, fun other proxy found flying => ?_⟩
  have different : other ≠ name := by
    rintro rfl
    exact idle proxy found flying
  exact ⟨proxy, (others other different).trans found, rfl⟩

end Preserves

section Actions

variable [Part κ Ledger] {caller : Caller κ} {links : ObjectEntryPoints κ}

/-- A change of a proxy keeps the handles that are in flight or owned. -/
theorem settle_preserves (name : String) {change : Proxy → Bool × Proxy}
    (same : ∀ proxy, (change proxy).2.handle = proxy.handle) (client : ObjectClient κ) :
    Preserves client
        (Proxies.settle (calling caller) (linking links) name change client).2 ∧
      (Proxies.settle (calling caller) (linking links) name change client).2.owned =
        client.owned := by
  cases found : client.proxy? name with
  | none =>
      rw [settle_of_none found]
      exact ⟨.refl client, rfl⟩
  | some proxy =>
      obtain ⟨core, left⟩ := settle_of_some caller links found change
      have kept := Preserves.put found (same proxy)
      rw [left, ObjectClient.settled]
      cases (change proxy).1 with
      | true => exact ⟨⟨kept.inFlight, kept.pinned⟩, rfl⟩
      | false => exact ⟨⟨kept.inFlight, kept.pinned⟩, rfl⟩

theorem handle_destroy (proxy : Proxy) : proxy.destroy.2.handle = proxy.handle := by
  unfold Proxy.destroy
  split <;> rfl

/-- Destroying a proxy keeps a client sound: its object is released with the last reference. -/
theorem Sound.destroy (sound : Sound client) (name : String) :
    Sound (destroy caller links name client).2 := by
  cases found : client.proxy? name with
  | none =>
      rw [ObjectClient.destroy, Proxies.destroy, settle_of_none found]
      exact sound
  | some proxy =>
      obtain ⟨core, left⟩ := settle_of_some caller links found Proxy.destroy
      have counted := sound.counted name proxy found
      rw [ObjectClient.destroy, Proxies.destroy, left]
      refine elsewhere ?_ core
      cases destroyed : proxy.destroyed with
      | true =>
          have unchanged : proxy.destroy = (false, proxy) := if_pos destroyed
          rw [unchanged]
          refine sound.settled_replace client.inFlight found rfl counted (fun _ _ => rfl) ?_ id
            client.core
          refine ⟨fun last => ?_, fun change => absurd change.2 change.1⟩
          cases last
      | false =>
          have gaveUp : proxy.destroy = (proxy.references == 1,
              { proxy with destroyed := true, references := proxy.references - 1 }) :=
            if_neg (Bool.eq_false_iff.mp destroyed)
          have same : { proxy with destroyed := true, references := proxy.references - 1 }.handle =
              proxy.handle := rfl
          rw [destroyed] at counted
          rw [gaveUp]
          refine sound.settled_replace client.inFlight found same ?_ (fun _ _ => rfl) ?_ ?_
            client.core
          · exact Nat.sub_eq_of_eq_add counted
          · simp only [beq_iff_eq]
            omega
          · dsimp only
            omega

theorem destroy_preserves (name : String) (client : ObjectClient κ) :
    Preserves client (destroy caller links name client).2 ∧
      (destroy caller links name client).2.owned = client.owned :=
  settle_preserves name handle_destroy client

theorem destroyed_destroy (proxy : Proxy) : proxy.destroy.2.destroyed = true := by
  unfold Proxy.destroy
  split
  · assumption
  · rfl

/-- Each proxy was there before one of them was destroyed. -/
theorem proxy?_destroy (there : (destroy caller links name client).2.proxy? name = some next) :
    ∃ proxy, client.proxy? name = some proxy ∧ next = proxy.destroy.2 := by
  unfold destroy Proxies.destroy at there
  cases found : client.proxy? name with
  | none =>
      rw [settle_of_none found, found] at there
      cases there
  | some proxy =>
      obtain ⟨core, left⟩ := settle_of_some caller links found Proxy.destroy
      have put : (client.put name proxy.destroy.2).proxy? name = some next := by
        rw [left, settled] at there
        cases given : proxy.destroy.1 with
        | true =>
            rw [given] at there
            exact there
        | false =>
            rw [given] at there
            exact there
      rw [proxy?_put, if_pos rfl] at put
      exact ⟨proxy, rfl, (Option.some.inj put).symm⟩

/-- Destroying a proxy puts no call in flight. -/
theorem idle_destroy (idle : client.Idle name) :
    (destroy caller links name client).2.Idle name := by
  intro next there
  obtain ⟨proxy, found, rfl⟩ := proxy?_destroy there
  rw [(destroy_preserves name client).1.inFlight, handle_destroy]
  exact idle proxy found

theorem drop_preserves (idle : client.Idle name) :
    Preserves client (drop caller links name client).2 :=
  (destroy_preserves name client).1.trans
    (.of_others rfl (idle_destroy idle) fun _ different => proxy?_forget_ne different)

/-- A proxy that is dropped was not in use, so it has no references left. -/
theorem Sound.drop (sound : Sound client) (idle : client.Idle name) :
    Sound (drop caller links name client).2 := by
  have destroyed : Sound (ObjectClient.destroy caller links name client).2 := sound.destroy name
  refine destroyed.forget (idle_destroy idle) fun next there => ?_
  have counted := destroyed.counted name next there
  obtain ⟨proxy, -, rfl⟩ := proxy?_destroy there
  rw [destroyed_destroy, List.count_eq_zero.mpr (idle_destroy idle _ there)] at counted
  exact counted

theorem absent_drop : (drop caller links name client).2.proxy? name = none :=
  (proxy?_forget name).trans (if_pos rfl)

/-- Keeping a proxy under a free name leaves the others as they are. -/
theorem keep_preserves (idle : client.Idle name) (proxy : Proxy) :
    Preserves client (keep caller links name proxy client).2 := by
  have free : (drop caller links name client).2.Idle name := by
    intro proxy there
    rw [absent_drop] at there
    cases there
  have put : Preserves (drop caller links name client).2
      (keep caller links name proxy client).2 :=
    .of_others rfl free fun other different => (proxy?_put other).trans (if_neg different)
  exact (drop_preserves idle).trans put

/-- A proxy that is kept has a handle of its own. -/
theorem Sound.keep (sound : Sound client) (idle : client.Idle name)
    (fresh : handle ∉ client.owned) (interface : String) :
    Sound (keep caller links name ⟨interface, handle, false, 1⟩ client).2 := by
  have unowned : handle ∉ (ObjectClient.drop caller links name client).2.owned := by
    rw [drop_eq]
    exact (destroy_preserves name client).2 ▸ fresh
  exact (sound.drop idle).enrolled absent_drop unowned interface

/-! ### Calls -/

/-- A call gets a reference of a proxy that has some and is not destroyed. -/
theorem acquire?_eq_ok {acquired : Proxy} (allowed : proxy.acquire? = .ok acquired) :
    proxy.references ≠ 0 ∧ proxy.destroyed = false ∧
      acquired = { proxy with references := proxy.references + 1 } := by
  unfold Proxy.acquire? at allowed
  split at allowed
  · cases allowed
  · next free =>
    cases allowed
    rw [not_or, Bool.not_eq_true] at free
    exact ⟨free.1, free.2, rfl⟩

omit [Part κ Ledger] in
/-- A call takes a reference when it begins. -/
theorem Sound.begun (sound : Sound client) (found : client.proxy? name = some proxy)
    {acquired : Proxy} (allowed : proxy.acquire? = .ok acquired) :
    Sound ((client.put name acquired).begun proxy.handle) := by
  have counted := sound.counted name proxy found
  obtain ⟨referenced, -, rfl⟩ := acquire?_eq_ok allowed
  have same : { proxy with references := proxy.references + 1 }.handle = proxy.handle := rfl
  refine sound.replace (proxy.handle :: client.inFlight) found same ?_ ?_ ?_
  · rw [List.count_cons_self]
    dsimp only
    omega
  · exact fun handle different => List.count_cons_of_ne different.symm
  · dsimp only
    omega

/-- It gives the reference back when it has returned. -/
theorem Sound.givenBack (sound : Sound client) (found : client.proxy? name = some proxy)
    (flying : proxy.handle ∈ client.inFlight) (core : κ) :
    Sound (givenBack links caller name { client.ended proxy.handle with core := core }) := by
  have counted := sound.counted name proxy found
  have flew := List.count_pos_iff.mpr flying
  have there : ({ client.ended proxy.handle with core := core } : ObjectClient κ).proxy? name =
    some proxy := found
  obtain ⟨after, left⟩ := settle_of_some caller links there Proxy.release
  have same : { proxy with references := proxy.references - 1 }.handle = proxy.handle := rfl
  unfold ObjectClient.givenBack
  rw [left]
  refine elsewhere ?_ after
  refine sound.settled_replace (client.inFlight.erase proxy.handle) found same ?_ ?_ ?_ ?_
    core
  · rw [List.count_erase_self]
    dsimp only
    omega
  · exact fun handle different => List.count_erase_of_ne different
  · simp only [beq_iff_eq]
    omega
  · dsimp only
    omega

omit [Part κ Ledger] in
/-- The body of a call leaves the proxy where it was, since a call through it is in flight. -/
theorem Preserves.flying {inner : ObjectClient κ}
    (preserves : Preserves (client.begun proxy.handle) inner)
    (found : client.proxy? name = some proxy) : ∃ next, inner.proxy? name = some next ∧
      next.handle = proxy.handle ∧ inner.inFlight = next.handle :: client.inFlight := by
  obtain ⟨next, there, same⟩ := preserves.pinned name proxy found List.mem_cons_self
  refine ⟨next, there, same, ?_⟩
  rw [same]
  exact preserves.inFlight

/-- What the body of a call leaves alone is left alone by the call. -/
theorem Preserves.returned {inner : ObjectClient κ}
    (preserves : Preserves (client.begun proxy.handle) inner)
    (core : κ) : Preserves client (ObjectClient.givenBack links caller name
      { inner.ended proxy.handle with core := core }) := by
  have inFlight : inner.inFlight = proxy.handle :: client.inFlight := preserves.inFlight
  have left : inner.inFlight.erase proxy.handle = client.inFlight := by
    rw [inFlight, List.erase_cons_head]
  have kept : Preserves { inner.ended proxy.handle with core := core }
      (ObjectClient.givenBack links caller name { inner.ended proxy.handle with core := core }) :=
    (settle_preserves name (fun _ => rfl) _).1
  refine ⟨kept.inFlight.trans left, fun other old before flies => ?_⟩
  obtain ⟨middle, present, alike⟩ := preserves.pinned other old before
    (List.mem_cons_of_mem _ flies)
  have stillFlies : middle.handle ∈ inner.inFlight.erase proxy.handle := by
    rw [left, alike]
    exact flies
  obtain ⟨last, stays, still⟩ := kept.pinned other middle present stillFlies
  exact ⟨last, stays, still.trans alike⟩

/-- What the body of a call leaves is left by the call, up to the reference of the call. -/
theorem Sound.returned {inner : ObjectClient κ} (sound : Sound inner)
    (preserves : Preserves (client.begun proxy.handle) inner)
    (found : client.proxy? name = some proxy) (core : κ) :
    Sound (ObjectClient.givenBack links caller name
      { inner.ended proxy.handle with core := core }) := by
  obtain ⟨next, there, same, inFlight⟩ := preserves.flying found
  rw [← same]
  refine sound.givenBack there ?_ core
  rw [inFlight]
  exact List.mem_cons_self

section Calls

variable {declared : Read ε} {body : Handle → EntryPoint (ObjectClient κ) τ}
  (returns : ∀ payload after, call caller links declared name body client ≠
    .error (.panic payload) after)

include returns

/-- A call that returns did what its body did and gave its reference back, or did not begin. -/
theorem called_cases :
    (∃ proxy acquired core, client.proxy? name = some proxy ∧ proxy.acquire? = .ok acquired ∧
      acquired.handle = proxy.handle ∧
      Proxies.acquire name client = .ok acquired.handle (client.put name acquired) ∧
      ((call caller links declared name body).observe client).2 =
        givenBack links caller name
          { (body acquired.handle ((client.put name acquired).begun acquired.handle)).2.ended
              acquired.handle with core := core }) ∨
    ((call caller links declared name body).observe client).2 = client := by
  have ran := call_eq caller links declared name body client
  rcases acquire_cases name client with
    ⟨proxy, acquired, found, allowed, taken⟩ | ⟨cause, refused⟩
  · rw [taken] at ran
    rw [ran] at returns
    obtain ⟨core, left⟩ := observe_conduct returns
    have same : acquired.handle = proxy.handle := by
      obtain ⟨-, -, rfl⟩ := acquire?_eq_ok allowed
      rfl
    have observed : ((call caller links declared name body).observe client).2 =
        ((conduct caller links declared name (during proxy.handle (body proxy.handle))).observe
          (client.put name acquired)).2 := by
      unfold Act.observe
      rw [ran]
    rw [← same] at taken observed left
    exact .inl ⟨proxy, acquired, core, found, allowed, same, taken, observed.trans left⟩
  · rw [refused] at ran
    exact .inr (congrArg Prod.snd (Act.observe_of_error ran))

/-- A call leaves alone what its body does. -/
theorem call_preserves (nested : ∀ handle acquired,
      Proxies.acquire name client = .ok handle acquired →
      Preserves (acquired.begun handle) (body handle (acquired.begun handle)).2) :
    Preserves client ((call caller links declared name body).observe client).2 := by
  rcases called_cases returns with
    ⟨proxy, acquired, core, found, -, same, taken, left⟩ | stayed
  · rw [left]
    exact (Preserves.put found same).trans ((nested _ _ taken).returned core)
  · rw [stayed]
    exact .refl client

/-- A call does what its body does, if it begins. -/
theorem Sound.called (sound : Sound client)
    (nested : ∀ handle acquired, Proxies.acquire name client = .ok handle acquired →
      Sound (acquired.begun handle) → Sound (body handle (acquired.begun handle)).2 ∧
        Preserves (acquired.begun handle) (body handle (acquired.begun handle)).2) :
    Sound ((call caller links declared name body).observe client).2 := by
  rcases called_cases returns with
    ⟨proxy, acquired, core, found, allowed, same, taken, left⟩ | stayed
  · have began := sound.begun found allowed
    rw [← same] at began
    obtain ⟨inner, preserves⟩ := nested _ _ taken began
    rw [left]
    exact inner.returned preserves ((proxy?_put name).trans (if_pos rfl)) core
  · rw [stayed]
    exact sound

end Calls

omit [Part κ Ledger] in
/-- The core's clone of a handle leaves the host alone. -/
theorem cloning_body_preserves (handle : Handle) (client : ObjectClient κ) :
    Preserves client (onCore (links.clone handle) client).2 :=
  ⟨rfl, fun _ proxy found _ => ⟨proxy, found, rfl⟩⟩

/-- Cloning leaves the calls in flight and their proxies as they are. -/
theorem cloning_preserves (caller : Caller κ) (links : ObjectEntryPoints κ) (name : String)
    (client : ObjectClient κ) :
    Preserves client ((cloning caller links name).observe client).2 := by
  have never : (Read.undeclared : Read Empty).NeverPanics := .fail _
  exact call_preserves (call_returns never _ client) fun handle _ _ =>
    cloning_body_preserves handle _

theorem Sound.cloned (sound : Sound client) (name : String) :
    Sound ((cloning caller links name).observe client).2 := by
  have never : (Read.undeclared : Read Empty).NeverPanics := .fail _
  exact sound.called (call_returns never _ client) fun handle _ _ begun =>
    ⟨begun.elsewhere _, cloning_body_preserves handle _⟩

/-! ### Whole runs -/

/-- Whatever its users do, calls in flight stay, and so do the proxies they are made through. -/
theorem Reaches.preserves (reaches : Reaches caller links client after) :
    Preserves client after := by
  induction reaches with
  | refl client => exact .refl client
  | @adopt start client interface name handle _ _ idle ih =>
      rw [observe_adopt]
      cases Proxy.ofHandle? interface handle with
      | error _ => exact ih
      | ok proxy => exact ih.trans (keep_preserves idle proxy)
  | @clone start client name target _ fresh ih =>
      have calm := ih.trans (cloning_preserves caller links name client)
      rw [observe_clone]
      rcases copy_cases name client with ⟨interface, handle, after, cloned, copied⟩ |
        ⟨fault, failed⟩
      · rw [Act.observe_of_ok cloned] at calm
        rw [copied]
        exact calm.trans (keep_preserves (fresh _ _ copied).2 _)
      · rw [failed]
        exact calm
  | call declared name body _ _ returns ih nested => exact ih.trans (call_preserves returns nested)
  | destroy name _ ih => exact ih.trans (destroy_preserves name _).1
  | drop name _ idle ih => exact ih.trans (drop_preserves idle)
  | elsewhere core _ ih => exact ⟨ih.inFlight, ih.pinned⟩

/-- Whatever its users do, the proxies of a household count. -/
theorem Reaches.sound (reaches : Reaches caller links client after) (sound : Sound client) :
    Sound after := by
  induction reaches with
  | refl client => exact sound
  | @adopt start client interface name handle _ fresh idle ih =>
      rw [observe_adopt]
      cases owned : Proxy.ofHandle? interface handle with
      | error _ => exact ih sound
      | ok proxy =>
          obtain rfl := eq_of_ofHandle? owned
          exact (ih sound).keep idle fresh interface
  | @clone start client name target _ fresh ih =>
      have called : Sound ((cloning caller links name).observe client).2 :=
        (ih sound).cloned name
      rw [observe_clone]
      rcases copy_cases name client with ⟨interface, handle, after, cloned, copied⟩ |
        ⟨fault, failed⟩
      · obtain ⟨unowned, idle⟩ := fresh _ _ copied
        rw [Act.observe_of_ok cloned] at called
        rw [copied]
        exact called.keep idle unowned interface
      · rw [failed]
        exact called
  | call declared name body _ inner returns ih nested =>
      exact (ih sound).called returns fun handle acquired taken begun =>
        ⟨nested handle acquired taken begun, (inner handle acquired taken).preserves⟩
  | destroy name _ ih => exact (ih sound).destroy name
  | drop name _ idle ih => exact (ih sound).drop idle
  | elsewhere core _ ih => exact (ih sound).elsewhere core

/-- **Every client that can be seen is sound.** -/
theorem Reachable.sound {core : κ} (reachable : Reachable caller links core client) :
    Sound client := by
  induction reachable with
  | start => exact .start core
  | onward _ reaches ih => exact reaches.sound ih
  | @enter client acquired name handle _ taken ih =>
      rcases acquire_cases name client with ⟨proxy, next, found, allowed, took⟩ | ⟨_, refused⟩
      · rw [took] at taken
        cases taken
        exact ih.begun found allowed
      · rw [refused] at taken
        cases taken

end Actions

/-! ### Accounts of objects -/

/-- A proxy that is not destroyed has the handle. -/
def Holds (proxies : Proxies) (handle : Handle) : Prop :=
  ∃ name proxy, NameMap.get? proxies name = some proxy ∧ proxy.handle = handle ∧
    proxy.destroyed = false

/-- There are no references left just if the proxy is destroyed and nothing is in flight. -/
theorem CountsCalls.spent_iff_idle (counts : CountsCalls client) :
    client.Spent handle ↔
      ¬Holds client.proxies handle ∧ handle ∉ client.inFlight := by
  constructor
  · refine fun spent => ⟨fun ⟨name, proxy, found, same, undestroyed⟩ => ?_, fun flying => ?_⟩
    · have counted := counts.counted name proxy found
      rw [spent name proxy found same, undestroyed] at counted
      cases counted
    · obtain ⟨name, proxy, found, same⟩ := counts.busy handle flying
      have counted := counts.counted name proxy found
      have flew := List.count_pos_iff.mpr flying
      rw [spent name proxy found same, same] at counted
      omega
  · rintro ⟨unheld, idle⟩ name proxy found same
    have destroyed : proxy.destroyed = true := by
      cases undestroyed : proxy.destroyed with
      | true => rfl
      | false => exact absurd ⟨name, proxy, found, same, undestroyed⟩ unheld
    rw [counts.counted name proxy found, same, destroyed, List.count_eq_zero.mpr idle]
    rfl

/-- What a host can rely on at any time. -/
structure Accounted [Part κ Ledger] (caller : Caller κ) (links : ObjectEntryPoints κ)
    (client : ObjectClient κ) : Prop where
  /-- A call through a proxy that is not destroyed begins: it takes a reference, and its body
  runs. -/
  begins : ∀ name proxy, client.proxy? name = some proxy → proxy.destroyed = false →
    ∀ {τ ε : Type} (declared : Read ε) (body : Handle → EntryPoint (ObjectClient κ) τ),
      call caller links declared name body client =
        conduct caller links declared name (during proxy.handle (body proxy.handle))
          (client.put name { proxy with references := proxy.references + 1 })
  /-- A call through a proxy that is destroyed fails, whatever its body, and nothing happens. -/
  refuses : ∀ name proxy, client.proxy? name = some proxy → proxy.destroyed = true →
    ∀ {τ ε : Type} (declared : Read ε) (body : Handle → EntryPoint (ObjectClient κ) τ),
      call caller links declared name body client =
        .error (.error (.internal (.objectDestroyed proxy.interface))) client
  /-- The core was asked to release no handle twice. -/
  once : client.released.Nodup
  /-- Whenever it was asked for one, the proxy was destroyed and no call was in flight. -/
  timely : ∀ release ∈ client.freed,
    release.handle ∉ release.inFlight ∧ ¬Holds release.proxies release.handle
  /-- It was asked for those whose proxy is destroyed and has no call in flight. -/
  released : ∀ handle, handle ∈ client.released ↔ handle ∈ client.owned ∧
    ¬Holds client.proxies handle ∧ handle ∉ client.inFlight
  /-- A handle that was not released has a proxy that is not destroyed, or a call in flight. -/
  kept : ∀ handle ∈ client.owned, handle ∉ client.released →
    Holds client.proxies handle ∨ handle ∈ client.inFlight

/-- A sound client accounts for its objects, whatever it does next. -/
theorem Sound.accounts [Part κ Ledger] (sound : Sound client) (caller : Caller κ)
    (links : ObjectEntryPoints κ) : Accounted caller links client := by
  have released (handle : Handle) : handle ∈ client.released ↔ handle ∈ client.owned ∧
      ¬Holds client.proxies handle ∧ handle ∉ client.inFlight := by
    rw [← sound.spent_iff_idle]
    exact ⟨fun member => ⟨sound.known handle member, (sound.settled handle
      (sound.known handle member)).mp member⟩, fun ⟨owned, spent⟩ =>
        (sound.settled handle owned).mpr spent⟩
  refine ⟨?begins, ?refuses, sound.once, ?timely, released, ?kept⟩
  case begins =>
    intro name proxy found undestroyed τ ε declared body
    have counted := sound.counted name proxy found
    rw [undestroyed] at counted
    have referenced : proxy.references ≠ 0 := by
      rw [counted]
      exact Nat.succ_ne_zero _
    have allowed : proxy.acquire? =
        .ok { proxy with references := proxy.references + 1 } := by
      refine if_neg fun refused => ?_
      rcases refused with unreferenced | destroyed
      · exact referenced unreferenced
      · rw [undestroyed] at destroyed
        cases destroyed
    rw [call_eq, acquire_eq, found]
    dsimp only
    rw [allowed]
  case refuses =>
    intro name proxy found destroyed τ ε declared body
    have refused : proxy.acquire? = .error (.objectDestroyed proxy.interface) :=
      if_pos (.inr destroyed)
    rw [call_eq, acquire_eq, found]
    dsimp only
    rw [refused]
    rfl
  case timely =>
    intro release member
    obtain ⟨idle, destroyed⟩ := sound.timely release member
    refine ⟨idle, fun ⟨name, proxy, found, same, undestroyed⟩ => ?_⟩
    rw [destroyed name proxy found same] at undestroyed
    cases undestroyed
  case kept =>
    intro handle owned unreleased
    by_contra neither
    exact unreleased ((released handle).mpr ⟨owned, not_or.mp neither⟩)

/-- **Every object is released once, when its proxy is done with.** Whatever the users of a
client do, in calls and outside of them, a call begins just if its proxy is not destroyed, and
the core was asked to release exactly the objects whose proxies are destroyed and have no calls in
flight. -/
theorem objects_are_released_once [Part κ Ledger] {caller : Caller κ}
    {links : ObjectEntryPoints κ} {core : κ} (reachable : Reachable caller links core client) :
    Accounted caller links client :=
  reachable.sound.accounts caller links

/-- A core whose objects are numbers. -/
def numbering : ObjectEntryPoints Ledger where
  clone handle ledger := ((⟨handle.raw + 1⟩, Status.success), ledger)
  free _ ledger := (((), Status.success), ledger)

/-- A host with a proxy for the seventh object. -/
def adopting : ObjectClient Ledger :=
  ((adopt Caller.inProcess numbering "Widget" "first" ⟨7⟩).observe (start Ledger.empty)).2

/-- A body that destroys the proxy that it is called through. -/
def destroyingBody (_ : Handle) : StateM (ObjectClient Ledger) (Unit × Status) := do
  destroy Caller.inProcess numbering "first"
  return ((), Status.success)

/-- The host after a call with that body. -/
def destroying : ObjectClient Ledger :=
  ((call Caller.inProcess numbering (Read.undeclared : Read Empty) "first"
    destroyingBody).observe adopting).2

/-- An object whose proxy is destroyed during a call, and again after it. -/
theorem destroyed_object_is_released_once :
    Reachable Caller.inProcess numbering Ledger.empty destroying ∧
      Accounted Caller.inProcess numbering destroying := by
  have never : (Read.undeclared : Read Empty).NeverPanics := .fail _
  have adopted : Reaches Caller.inProcess numbering (start Ledger.empty) adopting :=
    .adopt "Widget" "first" ⟨7⟩ (.refl _) List.not_mem_nil fun _ found => nomatch found
  have called : Reaches Caller.inProcess numbering adopting destroying :=
    .call _ "first" destroyingBody (.refl _) (fun _ _ _ => .destroy "first" (.refl _))
      (call_returns never _ adopting)
  have reachable : Reachable Caller.inProcess numbering Ledger.empty destroying :=
    .onward (.onward .start adopted) called
  exact ⟨reachable, objects_are_released_once reachable⟩

/-- The body's destruction did not release the object, the end of the call did. -/
example : destroying.released = [⟨7⟩] := by decide

end ObjectClient

end Boundary
