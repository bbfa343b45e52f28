import Boundary.Proofs.Object.Client
import Mathlib.Data.List.Nodup

/-! # The references that proxies count

A proxy counts the calls in flight through it, and itself until it is destroyed
(`Boundary.ObjectClient.CountsCalls`). A client is sound (`Boundary.ObjectClient.Sound`) if besides
the handles that were released are those without references, none was released twice, and whenever
one was there was no call in flight. A proxy may change in any way that keeps its count, as long as
its object is released when it gives up the last reference
(`Boundary.ObjectClient.Sound.settled_replace`); one without references can be forgotten, and one
with a new handle admitted.
-/

namespace Boundary

namespace ObjectClient

variable {κ : Type} {client : ObjectClient κ} {name : String} {handle : Handle}
  {proxy next : Proxy} {inFlight : List Handle}

/-- The proxies of a client count the calls in flight. -/
structure CountsCalls (client : ObjectClient κ) : Prop where
  /-- A proxy counts the calls in flight, and itself until it is destroyed. -/
  counted : ∀ name proxy, client.proxy? name = some proxy →
    proxy.references = client.inFlight.count proxy.handle + if proxy.destroyed then 0 else 1
  /-- No two proxies have the same handle. -/
  apart : ∀ name other proxy otherProxy, client.proxy? name = some proxy →
    client.proxy? other = some otherProxy → proxy.handle = otherProxy.handle → name = other
  owned : ∀ name proxy, client.proxy? name = some proxy → proxy.handle ∈ client.owned
  /-- A call in flight has its proxy. -/
  busy : ∀ handle ∈ client.inFlight, ∃ name proxy,
    client.proxy? name = some proxy ∧ proxy.handle = handle

/-- There are no references left to the handle. -/
def Spent (client : ObjectClient κ) (handle : Handle) : Prop :=
  ∀ name proxy, client.proxy? name = some proxy → proxy.handle = handle → proxy.references = 0

/-- The client with a proxy in place of another, when other calls are in flight. -/
def replace (client : ObjectClient κ) (name : String) (next : Proxy) (inFlight : List Handle) :
    ObjectClient κ :=
  { client.put name next with inFlight := inFlight }

/-- A proxy that is found after a replacement is the new one, or it was there before. -/
theorem proxy?_replace_eq_some {other : String} {changed : Proxy}
    (there : (client.replace name next inFlight).proxy? other = some changed) :
    other = name ∧ changed = next ∨ other ≠ name ∧ client.proxy? other = some changed := by
  have put : (client.put name next).proxy? other = some changed := there
  rw [proxy?_put] at put
  by_cases here : other = name
  · rw [if_pos here] at put
    cases put
    exact .inl ⟨here, rfl⟩
  · rw [if_neg here] at put
    exact .inr ⟨here, put⟩

theorem proxy?_replace_self : (client.replace name next inFlight).proxy? name = some next :=
  (proxy?_put name).trans (if_pos rfl)

theorem proxy?_replace_ne {other : String} (different : other ≠ name) :
    (client.replace name next inFlight).proxy? other = client.proxy? other :=
  (proxy?_put other).trans (if_neg different)

/-- The references to other handles stay. -/
theorem spent_replace_iff (found : client.proxy? name = some proxy)
    (same : next.handle = proxy.handle) (different : handle ≠ proxy.handle) :
    (client.replace name next inFlight).Spent handle ↔ client.Spent handle := by
  constructor
  · intro spent other otherProxy there alike
    have otherNe : other ≠ name := by
      rintro rfl
      rw [found] at there
      cases there
      exact different alike.symm
    exact spent other otherProxy ((proxy?_replace_ne otherNe).trans there) alike
  · intro spent other changed there alike
    rcases proxy?_replace_eq_some there with ⟨-, rfl⟩ | ⟨-, old⟩
    · exact absurd (alike.symm.trans same) different
    · exact spent other changed old alike

namespace CountsCalls

variable (counts : CountsCalls client) (found : client.proxy? name = some proxy)

include counts found

theorem handle_ne {other : String} {otherProxy : Proxy}
    (there : client.proxy? other = some otherProxy) (different : other ≠ name) :
    otherProxy.handle ≠ proxy.handle :=
  fun same => different (counts.apart other name otherProxy proxy there found same)

/-- An object is spent if its proxy counts no references. -/
theorem spent_iff : client.Spent proxy.handle ↔ proxy.references = 0 := by
  constructor
  · exact fun spent => spent name proxy found rfl
  · intro none other otherProxy there same
    obtain rfl := counts.apart other name otherProxy proxy there found same
    rw [found] at there
    cases there
    exact none

/-- A proxy that keeps its handle may change when it counts what is in flight then. -/
theorem replace (same : next.handle = proxy.handle)
    (counted : next.references = inFlight.count next.handle + if next.destroyed then 0 else 1)
    (others : ∀ handle ≠ proxy.handle, inFlight.count handle = client.inFlight.count handle) :
    CountsCalls (client.replace name next inFlight) := by
  refine ⟨?counted, ?apart, ?owned, ?busy⟩
  case counted =>
    intro other changed there
    rcases proxy?_replace_eq_some there with ⟨-, rfl⟩ | ⟨different, old⟩
    · exact counted
    · have count := others _ (counts.handle_ne found old different)
      exact (counts.counted other changed old).trans (congrArg (· + _) count.symm)
  case apart =>
    intro first second firstProxy secondProxy firstThere secondThere alike
    rcases proxy?_replace_eq_some firstThere with ⟨rfl, rfl⟩ | ⟨firstNe, firstOld⟩
    · rcases proxy?_replace_eq_some secondThere with ⟨rfl, -⟩ | ⟨secondNe, secondOld⟩
      · rfl
      · exact absurd (alike.symm.trans same) (counts.handle_ne found secondOld secondNe)
    · rcases proxy?_replace_eq_some secondThere with ⟨rfl, rfl⟩ | ⟨secondNe, secondOld⟩
      · exact absurd (alike.trans same) (counts.handle_ne found firstOld firstNe)
      · exact counts.apart _ _ _ _ firstOld secondOld alike
  case owned =>
    intro other changed there
    rcases proxy?_replace_eq_some there with ⟨-, rfl⟩ | ⟨-, old⟩
    · exact same ▸ counts.owned name proxy found
    · exact counts.owned other changed old
  case busy =>
    intro handle flying
    by_cases own : handle = proxy.handle
    · exact ⟨name, next, proxy?_replace_self, same.trans own.symm⟩
    · have before : handle ∈ client.inFlight := by
        rw [← List.count_pos_iff, ← others handle own, List.count_pos_iff]
        exact flying
      obtain ⟨other, otherProxy, there, alike⟩ := counts.busy handle before
      have different : other ≠ name := by
        rintro rfl
        rw [found] at there
        cases there
        exact own alike.symm
      exact ⟨other, otherProxy, (proxy?_replace_ne different).trans there, alike⟩

end CountsCalls

/-! ### What is released when -/

/-- What the proxies of a client count, and what was released. -/
structure Sound (client : ObjectClient κ) : Prop extends CountsCalls client where
  known : ∀ handle ∈ client.released, handle ∈ client.owned
  /-- A handle is released when there are no references left. -/
  settled : ∀ handle ∈ client.owned, handle ∈ client.released ↔ client.Spent handle
  once : client.released.Nodup
  /-- When it was released there was no call in flight, and the proxy was destroyed. -/
  timely : ∀ release ∈ client.freed, release.handle ∉ release.inFlight ∧
    ∀ name proxy, NameMap.get? release.proxies name = some proxy →
      proxy.handle = release.handle → proxy.destroyed = true

namespace Sound

/-- A client without proxies is sound. -/
theorem start (core : κ) : Sound (start core) where
  counted _ _ found := nomatch found
  apart _ _ _ _ found := nomatch found
  owned _ _ found := nomatch found
  busy _ member := nomatch member
  known _ member := nomatch member
  settled _ member := nomatch member
  once := List.nodup_nil
  timely _ member := nomatch member

/-- The core may do anything of its own. -/
theorem elsewhere (sound : Sound client) (core : κ) : Sound { client with core := core } :=
  ⟨⟨sound.counted, sound.apart, sound.owned, sound.busy⟩, sound.known, sound.settled, sound.once,
    sound.timely⟩

section Settling

variable (inFlight) (sound : Sound client) (found : client.proxy? name = some proxy)
  (same : next.handle = proxy.handle)
  (counted : next.references = inFlight.count next.handle + if next.destroyed then 0 else 1)
  (others : ∀ handle ≠ proxy.handle, inFlight.count handle = client.inFlight.count handle)

include sound found same counted others

/-- Nothing is to be released when a proxy changes that has references before and after, or has
none. -/
theorem replace (alike : next.references = 0 ↔ proxy.references = 0) :
    Sound (client.replace name next inFlight) := by
  have counts := sound.toCountsCalls.replace found same counted others
  refine ⟨counts, sound.known, fun handle owned => (sound.settled handle owned).trans ?_,
    sound.once, sound.timely⟩
  by_cases own : handle = proxy.handle
  · subst own
    have spent := counts.spent_iff proxy?_replace_self
    rw [same, alike] at spent
    exact (sound.spent_iff found).trans spent.symm
  · exact (spent_replace_iff found same own).symm

/-- The object is released when its proxy has given up the last reference. -/
theorem asked (had : proxy.references ≠ 0) (last : next.references = 0) :
    Sound ((client.replace name next inFlight).asked next.handle) := by
  have counts := sound.toCountsCalls.replace found same counted others
  have owned : next.handle ∈ client.owned := same ▸ sound.owned name proxy found
  have unreleased : next.handle ∉ client.released := by
    rw [sound.settled _ owned, same, sound.spent_iff found]
    exact had
  have idle : next.handle ∉ inFlight := by
    intro flying
    have flew := List.count_pos_iff.mpr flying
    omega
  have destroyed : next.destroyed = true := by
    cases undestroyed : next.destroyed with
    | true => rfl
    | false =>
        rw [undestroyed, last] at counted
        cases counted
  have released : ((client.replace name next inFlight).asked next.handle).released =
      client.released ++ [next.handle] := List.map_append
  refine ⟨⟨counts.counted, counts.apart, counts.owned, counts.busy⟩, ?known, ?settled, ?once,
    ?timely⟩
  case known =>
    rw [released]
    exact List.forall_mem_append.mpr ⟨sound.known, List.forall_mem_singleton.mpr owned⟩
  case settled =>
    intro handle owned
    rw [released, List.mem_append, List.mem_singleton]
    change _ ↔ (client.replace name next inFlight).Spent handle
    by_cases own : handle = proxy.handle
    · have spent := (counts.spent_iff proxy?_replace_self).mpr last
      rw [own, ← same]
      exact ⟨fun _ => spent, fun _ => .inr rfl⟩
    · have other : handle ≠ next.handle := fun alike => own (alike.trans same)
      rw [spent_replace_iff found same own, sound.settled handle owned]
      exact or_iff_left other
  case once =>
    rw [released]
    exact List.nodup_append.mpr ⟨sound.once, List.nodup_singleton _, fun _ member _ new alike =>
      unreleased (List.mem_singleton.mp new ▸ alike ▸ member)⟩
  case timely =>
    refine List.forall_mem_append.mpr ⟨sound.timely, List.forall_mem_singleton.mpr ⟨idle, ?_⟩⟩
    intro other changed listed alike
    have there : (client.replace name next inFlight).proxy? other = some changed := listed
    rcases proxy?_replace_eq_some there with ⟨-, rfl⟩ | ⟨different, old⟩
    · exact destroyed
    · exact absurd (alike.trans same) (sound.handle_ne found old different)

/-- The object is released just if the change gave up the last reference. -/
theorem settled_replace {last : Bool}
    (decides : last = true ↔ proxy.references ≠ 0 ∧ next.references = 0)
    (stays : proxy.references = 0 → next.references = 0) (core : κ) :
    Sound (ObjectClient.settled { client with core := core, inFlight := inFlight } name
      (last, next)) := by
  cases last with
  | true =>
      obtain ⟨had, none⟩ := decides.mp rfl
      exact (sound.asked inFlight found same counted others had none).elsewhere core
  | false =>
      have alike : next.references = 0 ↔ proxy.references = 0 := by
        refine ⟨fun none => ?_, stays⟩
        by_contra had
        cases decides.mpr ⟨had, none⟩
      exact (sound.replace inFlight found same counted others alike).elsewhere core

end Settling

/-- A proxy without references can be forgotten. -/
theorem forget (sound : Sound client) (idle : client.Idle name)
    (spent : ∀ proxy, client.proxy? name = some proxy → proxy.references = 0) :
    Sound (client.forget name) := by
  refine ⟨⟨?counted, ?apart, ?owned, ?busy⟩, sound.known, ?settled, sound.once, sound.timely⟩
  case counted => exact fun other proxy there => sound.counted other proxy (proxy?_of_forget there)
  case apart =>
    exact fun first second _ _ firstThere secondThere alike => sound.apart first second _ _
      (proxy?_of_forget firstThere) (proxy?_of_forget secondThere) alike
  case owned => exact fun other proxy there => sound.owned other proxy (proxy?_of_forget there)
  case busy =>
    intro handle flying
    obtain ⟨other, proxy, there, same⟩ := sound.busy handle flying
    have different : other ≠ name := by
      rintro rfl
      exact idle proxy there (same ▸ flying)
    exact ⟨other, proxy, (proxy?_forget_ne different).trans there, same⟩
  case settled =>
    intro handle owned
    refine (sound.settled handle owned).trans ⟨fun none other proxy there => ?_, ?_⟩
    · exact none other proxy (proxy?_of_forget there)
    · intro none other proxy there same
      by_cases here : other = name
      · exact spent proxy (here ▸ there)
      · exact none other proxy ((proxy?_forget_ne here).trans there) same

/-- A proxy with a new handle has its own reference only. -/
theorem enrolled (sound : Sound client) (absent : client.proxy? name = none)
    (fresh : handle ∉ client.owned) (interface : String) :
    Sound { client.put name ⟨interface, handle, false, 1⟩ with
      owned := handle :: client.owned } := by
  have idle : handle ∉ client.inFlight := by
    intro flying
    obtain ⟨other, proxy, there, same⟩ := sound.busy handle flying
    exact fresh (same ▸ sound.owned other proxy there)
  have others {other : String} {listed : Proxy}
      (there : (client.replace name ⟨interface, handle, false, 1⟩ client.inFlight).proxy?
        other = some listed) :
      other = name ∧ listed = ⟨interface, handle, false, 1⟩ ∨
        listed.handle ≠ handle ∧ client.proxy? other = some listed := by
    rcases proxy?_replace_eq_some there with new | ⟨-, old⟩
    · exact .inl new
    · exact .inr ⟨fun same => fresh (same ▸ sound.owned other listed old), old⟩
  refine ⟨⟨?counted, ?apart, ?owned, ?busy⟩, ?known, ?settled, sound.once, sound.timely⟩
  case counted =>
    intro other listed there
    rcases others there with ⟨-, rfl⟩ | ⟨-, old⟩
    · exact congrArg (· + 1) (List.count_eq_zero.mpr idle).symm
    · exact sound.counted other listed old
  case apart =>
    intro first second firstProxy secondProxy firstThere secondThere alike
    rcases others firstThere with ⟨rfl, rfl⟩ | ⟨firstNe, firstOld⟩
    · rcases others secondThere with ⟨rfl, -⟩ | ⟨secondNe, -⟩
      · rfl
      · exact absurd alike.symm secondNe
    · rcases others secondThere with ⟨-, rfl⟩ | ⟨-, secondOld⟩
      · exact absurd alike firstNe
      · exact sound.apart _ _ _ _ firstOld secondOld alike
  case owned =>
    intro other listed there
    rcases others there with ⟨-, rfl⟩ | ⟨-, old⟩
    · exact List.mem_cons_self
    · exact List.mem_cons_of_mem _ (sound.owned other listed old)
  case busy =>
    intro flown flying
    obtain ⟨other, proxy, there, same⟩ := sound.busy flown flying
    have different : other ≠ name := by
      rintro rfl
      rw [absent] at there
      cases there
    exact ⟨other, proxy, (proxy?_put other).trans ((if_neg different).trans there), same⟩
  case known => exact fun released member => List.mem_cons_of_mem _ (sound.known released member)
  case settled =>
    intro listed member
    rcases List.mem_cons.mp member with rfl | owned
    · have unreleased : listed ∉ client.released := fun released =>
        fresh (sound.known listed released)
      have there : (client.put name ⟨interface, listed, false, 1⟩).proxy? name =
        some ⟨interface, listed, false, 1⟩ := (proxy?_put name).trans (if_pos rfl)
      refine ⟨fun released => absurd released unreleased, fun spent => ?_⟩
      cases spent name _ there rfl
    · have different : listed ≠ handle := fun same => fresh (same ▸ owned)
      refine (sound.settled listed owned).trans ⟨fun spent other proxy there same => ?_, ?_⟩
      · rcases others there with ⟨-, rfl⟩ | ⟨-, old⟩
        · exact absurd same.symm different
        · exact spent other proxy old same
      · intro spent other proxy there same
        have otherNe : other ≠ name := by
          rintro rfl
          rw [absent] at there
          cases there
        exact spent other proxy ((proxy?_put other).trans ((if_neg otherNe).trans there)) same

end Sound

end ObjectClient

end Boundary
