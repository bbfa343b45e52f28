import Boundary.Proofs.Call.Unwinding
import Boundary.Proofs.Object.Lifetime

/-! # References that unwinding calls do not give back

A call through a proxy gives its reference back when it returns. When control unwinds through it,
because its body panics or the error that it declares does as it is read, the reference is not
given back: the proxy counts one call too many from then on, and whatever follows, the core is
never asked to release the object (`Boundary.ObjectClient.reference_is_lost_iff_call_unwinds`). No
error tells of it.
-/

namespace Boundary

namespace Act

variable {σ ε α : Type} {run : Act σ ε α} {finish : StateM σ Unit} {state : σ}

/-- Runs a computation, and something else behind it if it returns. -/
def afterwards (run : Act σ ε α) (finish : StateM σ Unit) : Act σ ε α := do
  match ← Act.ofTotal run.observe with
  | .error (.panic payload) => Act.unwind payload
  | settled => do
    Act.ofTotal finish
    Act.ofOutcome settled

theorem afterwards_of_ok {value : α} {after : σ} (ended : run state = .ok value after) :
    run.afterwards finish state = .ok value (finish after).2 := by
  unfold afterwards
  rw [bind_ofTotal, observe_of_ok ended]
  rfl

/-- What follows an action that fails is run. -/
theorem afterwards_of_error {cause : ε} {after : σ}
    (ended : run state = .error (.error cause) after) :
    run.afterwards finish state = .error (.error cause) (finish after).2 := by
  unfold afterwards
  rw [bind_ofTotal, observe_of_error ended]
  rfl

/-- What follows an action that panics is not run. -/
theorem afterwards_of_panic {payload : PanicPayload} {after : σ}
    (ended : run state = .error (.panic payload) after) :
    run.afterwards finish state = .error (.panic payload) after := by
  unfold afterwards
  rw [bind_ofTotal, observe_of_error ended]
  rfl

/-- What follows an action does not unwind by itself. -/
theorem afterwards_unwinds_iff (finish : StateM σ Unit) :
    (run.afterwards finish).UnwindsFrom state ↔ run.UnwindsFrom state := by
  unfold UnwindsFrom
  match ended : run state with
  | .ok value after =>
      rw [afterwards_of_ok ended]
      exact iff_of_false nofun nofun
  | .error (.error cause) after =>
      rw [afterwards_of_error ended]
      exact iff_of_false nofun nofun
  | .error (.panic payload) after =>
      rw [afterwards_of_panic ended]

theorem observe_afterwards_of_unwinds (unwinds : run.UnwindsFrom state) :
    ((run.afterwards finish).observe state).2 = (run.observe state).2 := by
  obtain ⟨payload, after, ended⟩ := unwinds
  rw [observe_of_error (afterwards_of_panic ended), observe_of_error ended]

/-- After an action that returns, what follows it has been run. -/
theorem observe_afterwards_of_returns (returns : ¬ run.UnwindsFrom state) :
    ((run.afterwards finish).observe state).2 = (finish (run.observe state).2).2 := by
  match ended : run state with
  | .ok value after => rw [observe_of_ok (afterwards_of_ok ended), observe_of_ok ended]
  | .error (.error cause) after =>
      rw [observe_of_error (afterwards_of_error ended), observe_of_error ended]
  | .error (.panic payload) after => exact absurd ⟨payload, after, ended⟩ returns

end Act

namespace Proxy

variable {proxy acquired : Proxy}

/-- The references that a proxy counts, and its own if it gave that up. -/
def total (proxy : Proxy) : Nat := proxy.references + if proxy.destroyed then 1 else 0

theorem total_of_destroyed (destroyed : proxy.destroyed = true) :
    proxy.total = proxy.references + 1 := by
  unfold total
  rw [destroyed]
  rfl

theorem total_of_not_destroyed (undestroyed : proxy.destroyed = false) :
    proxy.total = proxy.references := by
  unfold total
  rw [undestroyed]
  rfl

/-- The total is at most one more than the references. -/
theorem total_le (proxy : Proxy) : proxy.total ≤ proxy.references + 1 := by
  unfold total
  split <;> omega

/-- A call adds one to the total. -/
theorem total_acquire? (allowed : proxy.acquire? = .ok acquired) :
    acquired.total = proxy.total + 1 := by
  obtain ⟨-, -, rfl⟩ := ObjectClient.acquire?_eq_ok allowed
  unfold total
  dsimp only
  omega

/-- Destroying a proxy that counts another reference does not give up the last one. -/
theorem destroy_of_total (excess : 1 < proxy.total) :
    proxy.destroy.1 = false ∧ proxy.destroy.2.total = proxy.total := by
  by_cases destroyed : proxy.destroyed
  · have unchanged : proxy.destroy = (false, proxy) := if_pos destroyed
    rw [unchanged]
    exact ⟨rfl, rfl⟩
  · have gaveUp : proxy.destroy = (proxy.references == 1,
        { proxy with destroyed := true, references := proxy.references - 1 }) := if_neg destroyed
    have given : ({ proxy with destroyed := true, references := proxy.references - 1 } :
        Proxy).total = proxy.references - 1 + 1 := total_of_destroyed rfl
    rw [total_of_not_destroyed (Bool.eq_false_iff.mpr destroyed)] at excess ⊢
    rw [gaveUp]
    refine ⟨beq_false_of_ne (Nat.ne_of_gt excess), given.trans ?_⟩
    exact Nat.sub_add_cancel (Nat.le_of_lt excess)

/-- Nor does the end of a call through it. -/
theorem release_of_total (excess : 2 < proxy.total) :
    proxy.release.1 = false ∧ proxy.release.2.total + 1 = proxy.total := by
  have counted := proxy.total_le
  refine ⟨beq_false_of_ne (by omega), ?_⟩
  unfold release total at *
  dsimp only
  omega

end Proxy

/-- Calls what may panic with the handle of a proxy. -/
def Proxies.attempt {σ τ ε : Type} [Part σ Ledger] [Part σ Proxies] (caller : Caller σ)
    (links : ObjectEntryPoints σ) (declared : Read ε) (name : String)
    (body : Handle → Act σ Empty (τ × Status)) : Act σ (CallError ε) τ := do
  let handle ← (acquire name).mapError CallError.internal
  (caller.attempt declared (body handle)).afterwards (settle caller links name Proxy.release)

/-- An entry point does not panic. -/
theorem Proxies.attempt_ofTotal {σ τ ε : Type} [Part σ Ledger] [Part σ Proxies] (caller : Caller σ)
    (links : ObjectEntryPoints σ) (declared : Read ε) (name : String)
    (entry : Handle → EntryPoint σ τ) :
    attempt caller links declared name (fun handle => Act.ofTotal (entry handle)) =
      call caller links declared name entry := by
  unfold attempt call Act.afterwards
  congr 1
  funext handle
  rw [Caller.attempt_ofTotal]
  congr 1
  funext settled
  rcases settled with (cause | payload) | value <;> rfl

namespace ObjectClient

variable {κ τ ε : Type} {client after : ObjectClient κ} {name : String} {handle : Handle}
  {proxy next : Proxy}

/-! ### Calls that may unwind -/

/-- Runs a body that may panic, and notes the call with the handle meanwhile. -/
def meanwhile (handle : Handle) (body : Act (ObjectClient κ) Empty (τ × Status)) :
    Act (ObjectClient κ) Empty (τ × Status) := fun client =>
  match body (client.begun handle) with
  | .ok returned after => .ok returned (after.ended handle)
  | .error fault after => .error fault (after.ended handle)

section

variable {body : Act (ObjectClient κ) Empty (τ × Status)}

theorem meanwhile_of_ok {returned : τ × Status}
    (ran : body (client.begun handle) = .ok returned after) :
    meanwhile handle body client = .ok returned (after.ended handle) := by
  unfold meanwhile
  rw [ran]

theorem meanwhile_of_panic {payload : PanicPayload}
    (ran : body (client.begun handle) = .error (.panic payload) after) :
    meanwhile handle body client = .error (.panic payload) (after.ended handle) := by
  unfold meanwhile
  rw [ran]

/-- Whether it returns or panics, a body that is left is not in flight any more. -/
theorem observe_meanwhile (handle : Handle) (body : Act (ObjectClient κ) Empty (τ × Status))
    (client : ObjectClient κ) : ((meanwhile handle body).observe client).2 =
      ((body.observe (client.begun handle)).2).ended handle := by
  rcases Caller.body_cases body (client.begun handle) with
    ⟨value, status, after, ran⟩ | ⟨payload, after, ran⟩
  · rw [Act.observe_of_ok (meanwhile_of_ok ran), Act.observe_of_ok ran]
  · rw [Act.observe_of_error (meanwhile_of_panic ran), Act.observe_of_error ran]

end

section

variable [Part κ Ledger]

/-- Calls what may panic through a proxy. -/
def attempt (caller : Caller κ) (links : ObjectEntryPoints κ) (declared : Read ε) (name : String)
    (body : Handle → Act (ObjectClient κ) Empty (τ × Status)) :
      Act (ObjectClient κ) (CallError ε) τ :=
  Proxies.attempt (calling caller) (linking links) declared name fun handle =>
    meanwhile handle (body handle)

/-- A body that does not panic is an entry point. -/
theorem attempt_ofTotal (caller : Caller κ) (links : ObjectEntryPoints κ) (declared : Read ε)
    (name : String) (body : Handle → EntryPoint (ObjectClient κ) τ) :
    attempt caller links declared name (fun handle => Act.ofTotal (body handle)) =
      call caller links declared name body := by
  unfold attempt call
  rw [← Proxies.attempt_ofTotal]
  congr 1

/-- A call through the proxy begins, and control unwinds through it. -/
def Unwinds (declared : Read ε) (name : String)
    (body : Handle → Act (ObjectClient κ) Empty (τ × Status)) (client : ObjectClient κ) : Prop :=
  ∃ handle acquired, Proxies.acquire name client = .ok handle acquired ∧
    Caller.Unwinds declared (body handle) (acquired.begun handle)

variable {caller : Caller κ} {links : ObjectEntryPoints κ} {declared : Read ε}
  {body : Handle → Act (ObjectClient κ) Empty (τ × Status)}

/-- A body unwinds just if it does so in flight. -/
theorem meanwhile_unwinds_iff {body : Act (ObjectClient κ) Empty (τ × Status)} :
    Caller.Unwinds declared (meanwhile handle body) client ↔
      Caller.Unwinds declared body (client.begun handle) := by
  rcases Caller.body_cases body (client.begun handle) with
    ⟨value, status, after, ran⟩ | ⟨payload, after, ran⟩
  · have noted := meanwhile_of_ok ran
    constructor
    · rintro (unwound | ⟨returned, failed, panicked⟩)
      · cases noted.symm.trans unwound
      · cases noted.symm.trans returned
        exact .report ran failed panicked
    · rintro (unwound | ⟨returned, failed, panicked⟩)
      · cases ran.symm.trans unwound
      · cases ran.symm.trans returned
        exact .report noted failed panicked
  · exact iff_of_true (.body (meanwhile_of_panic ran)) (.body ran)

section

variable {acquired : ObjectClient κ} (taken : Proxies.acquire name client = .ok handle acquired)

include taken

theorem attempt_of_taken : attempt caller links declared name body client =
    ((calling caller).attempt declared (meanwhile handle (body handle))).afterwards
      (Proxies.settle (calling caller) (linking links) name Proxy.release) acquired :=
  Act.bind_of_ok (Act.mapError_of_ok taken CallError.internal)

/-- A call that gets its reference unwinds just if its body does. -/
theorem unwinds_iff_of_taken : Unwinds declared name body client ↔
    Caller.Unwinds declared (body handle) (acquired.begun handle) := by
  constructor
  · rintro ⟨_, _, took, unwinds⟩
    cases taken.symm.trans took
    exact unwinds
  · exact fun unwinds => ⟨handle, acquired, taken, unwinds⟩

end

section

variable {cause : Error}
  (refused : Proxies.acquire name client = .error (.error cause) client)

include refused

/-- A call that gets no reference answers why, and does nothing. -/
theorem attempt_of_refused : attempt caller links declared name body client =
    .error (.error (.internal cause)) client :=
  Act.bind_of_error (Act.mapError_of_error refused CallError.internal)

/-- A call that gets no reference does not unwind. -/
theorem not_unwinds_of_refused : ¬ Unwinds declared name body client := by
  rintro ⟨_, _, took, _⟩
  cases refused.symm.trans took

end

/-- **Control unwinds through a call through a proxy in two cases.** The call begins, and its body
panics or reports an error that panics as it is read. -/
theorem attempt_unwinds_iff (caller : Caller κ) (links : ObjectEntryPoints κ) (declared : Read ε)
    (name : String) (body : Handle → Act (ObjectClient κ) Empty (τ × Status))
    (client : ObjectClient κ) :
    (attempt caller links declared name body).UnwindsFrom client ↔
      Unwinds declared name body client := by
  rcases acquire_cases name client with ⟨proxy, acquired, -, -, taken⟩ | ⟨cause, refused⟩
  · rw [unwinds_iff_of_taken taken, ← meanwhile_unwinds_iff,
      ← Caller.attempt_unwinds_iff (calling caller)]
    refine Iff.trans ?_ (Act.afterwards_unwinds_iff
      (Proxies.settle (calling caller) (linking links) name Proxy.release))
    unfold Act.UnwindsFrom
    rw [attempt_of_taken taken]
  · refine iff_of_false ?_ (not_unwinds_of_refused refused)
    rintro ⟨payload, after, unwound⟩
    cases (attempt_of_refused refused).symm.trans unwound

/-- A call that begins does what its body does, and gives its reference back unless it unwinds. One
that does not begin leaves everything as it is. -/
theorem attempted_cases (caller : Caller κ) (links : ObjectEntryPoints κ) (declared : Read ε)
    (name : String) (body : Handle → Act (ObjectClient κ) Empty (τ × Status))
    (client : ObjectClient κ) :
    (∃ proxy acquired core, client.proxy? name = some proxy ∧ proxy.acquire? = .ok acquired ∧
      acquired.handle = proxy.handle ∧
      Proxies.acquire name client = .ok acquired.handle (client.put name acquired) ∧
      let inner := ((body acquired.handle).observe
        ((client.put name acquired).begun acquired.handle)).2
      let left := { inner.ended acquired.handle with core := core }
      (Unwinds declared name body client →
        ((attempt caller links declared name body).observe client).2 = left) ∧
      (¬ Unwinds declared name body client →
        ((attempt caller links declared name body).observe client).2 =
          givenBack links caller name left)) ∨
    ¬ Unwinds declared name body client ∧
      ((attempt caller links declared name body).observe client).2 = client := by
  rcases acquire_cases name client with
    ⟨proxy, acquired, found, allowed, taken⟩ | ⟨cause, refused⟩
  · have same : acquired.handle = proxy.handle := by
      obtain ⟨-, -, rfl⟩ := acquire?_eq_ok allowed
      rfl
    rw [← same] at taken
    let run := (calling caller).attempt declared
      (meanwhile acquired.handle (body acquired.handle))
    have unwinds : run.UnwindsFrom (client.put name acquired) ↔
        Unwinds declared name body client := by
      rw [unwinds_iff_of_taken taken, ← meanwhile_unwinds_iff]
      exact Caller.attempt_unwinds_iff _
    obtain ⟨core, left⟩ := Caller.attempt_keeps (calling_keeps
      ((meanwhile acquired.handle (body acquired.handle)).observe (client.put name acquired)).2)
      declared ⟨_, rfl⟩
    rw [observe_meanwhile] at left
    have ran : ((attempt caller links declared name body).observe client).2 = ((run.afterwards
        (Proxies.settle (calling caller) (linking links) name Proxy.release)).observe
          (client.put name acquired)).2 := by
      unfold Act.observe
      rw [attempt_of_taken taken]
    refine .inl ⟨proxy, acquired, core, found, allowed, same, taken, fun unwound => ?_,
      fun returned => ?_⟩
    · rw [ran, Act.observe_afterwards_of_unwinds (unwinds.mpr unwound)]
      exact left
    · rw [ran, Act.observe_afterwards_of_returns (mt unwinds.mp returned)]
      exact congrArg (givenBack links caller name) left
  · exact .inr ⟨not_unwinds_of_refused refused,
      congrArg Prod.snd (Act.observe_of_error (attempt_of_refused refused))⟩

/-! ### Handles that are never released -/

omit [Part κ Ledger] in
/-- The references that a proxy counts and gave up are the calls in flight, and its own. -/
theorem CountsCalls.total_eq (counts : CountsCalls client)
    (found : client.proxy? name = some proxy) :
    proxy.total = client.inFlight.count proxy.handle + 1 := by
  have counted := counts.counted name proxy found
  unfold Proxy.total
  cases destroyed : proxy.destroyed with
  | true =>
      rw [destroyed] at counted
      exact congrArg (· + 1) counted
  | false =>
      rw [destroyed] at counted
      exact counted

/-- A handle that has not been released, and whose proxy counts more references than there are. -/
structure Stranded (handle : Handle) (client : ObjectClient κ) : Prop where
  owned : handle ∈ client.owned
  unreleased : handle ∉ client.released
  /-- No two proxies have the handle. -/
  apart : ∀ name other proxy otherProxy, client.proxy? name = some proxy →
    client.proxy? other = some otherProxy → proxy.handle = handle →
    otherProxy.handle = handle → name = other
  excess : ∀ name proxy, client.proxy? name = some proxy → proxy.handle = handle →
    client.inFlight.count handle + 1 < proxy.total

namespace Stranded

omit [Part κ Ledger] in
theorem elsewhere (stranded : Stranded handle client) (core : κ) :
    Stranded handle { client with core := core } :=
  ⟨stranded.owned, stranded.unreleased, stranded.apart, stranded.excess⟩

omit [Part κ Ledger] in
/-- A call that is done makes the excess no less. -/
theorem ended (stranded : Stranded handle client) (other : Handle) :
    Stranded handle (client.ended other) := by
  refine ⟨stranded.owned, stranded.unreleased, stranded.apart, fun name proxy found same => ?_⟩
  have fewer : (client.inFlight.erase other).count handle ≤ client.inFlight.count handle :=
    List.erase_sublist.count_le handle
  have excess := stranded.excess name proxy found same
  exact Nat.lt_of_le_of_lt (Nat.succ_le_succ fewer) excess

omit [Part κ Ledger] in
/-- A proxy may change in any way that leaves it an excess. -/
theorem replace (stranded : Stranded handle client)
    (found : client.proxy? name = some proxy) (same : next.handle = proxy.handle)
    {inFlight : List Handle}
    (own : proxy.handle = handle → inFlight.count handle + 1 < next.total)
    (others : proxy.handle ≠ handle → inFlight.count handle = client.inFlight.count handle) :
    Stranded handle (client.replace name next inFlight) := by
  refine ⟨stranded.owned, stranded.unreleased, ?apart, ?excess⟩
  case apart =>
    intro first second firstProxy secondProxy firstThere secondThere firstSame secondSame
    have before {other : String} {changed : Proxy}
        (there : (client.replace name next inFlight).proxy? other = some changed)
        (alike : changed.handle = handle) :
        ∃ old, client.proxy? other = some old ∧ old.handle = handle := by
      rcases proxy?_replace_eq_some there with ⟨rfl, rfl⟩ | ⟨-, old⟩
      · exact ⟨proxy, found, same.symm.trans alike⟩
      · exact ⟨changed, old, alike⟩
    obtain ⟨firstOld, firstFound, firstAlike⟩ := before firstThere firstSame
    obtain ⟨secondOld, secondFound, secondAlike⟩ := before secondThere secondSame
    exact stranded.apart _ _ _ _ firstFound secondFound firstAlike secondAlike
  case excess =>
    intro other changed there alike
    rcases proxy?_replace_eq_some there with ⟨-, rfl⟩ | ⟨different, old⟩
    · exact own (same.symm.trans alike)
    · have distinct : proxy.handle ≠ handle := fun shared =>
        different (stranded.apart _ _ _ _ old found alike shared)
      have excess := stranded.excess other changed old alike
      rw [← others distinct] at excess
      exact excess

/-- The object is not released by a change of a proxy that leaves it an excess. -/
theorem settle (stranded : Stranded handle client) {change : Proxy → Bool × Proxy}
    (same : ∀ proxy, (change proxy).2.handle = proxy.handle)
    (own : ∀ proxy, client.proxy? name = some proxy → proxy.handle = handle →
      (change proxy).1 = false ∧ client.inFlight.count handle + 1 < (change proxy).2.total) :
    Stranded handle (Proxies.settle (calling caller) (linking links) name change client).2 := by
  cases found : client.proxy? name with
  | none =>
      rw [settle_of_none found]
      exact stranded
  | some proxy =>
      obtain ⟨core, left⟩ := settle_of_some caller links found change
      have changed : Stranded handle (client.put name (change proxy).2) :=
        stranded.replace found (same proxy) (fun shared => (own proxy found shared).2) fun _ => rfl
      rw [left]
      refine elsewhere ?_ core
      unfold settled
      split
      · next last =>
        refine ⟨changed.owned, ?_, changed.apart, changed.excess⟩
        have released : ((client.put name (change proxy).2).asked
            (change proxy).2.handle).released =
            client.released ++ [(change proxy).2.handle] := List.map_append
        rw [released, List.mem_append, List.mem_singleton, same]
        rintro (before | shared)
        · exact stranded.unreleased before
        · rw [(own proxy found shared.symm).1] at last
          cases last
      · exact changed

/-- Destroying a proxy leaves an object stranded, also the object of that proxy. -/
theorem destroy (stranded : Stranded handle client) (name : String) :
    Stranded handle (destroy caller links name client).2 := by
  refine stranded.settle handle_destroy fun proxy found same => ?_
  have excess := stranded.excess name proxy found same
  obtain ⟨kept, total⟩ := proxy.destroy_of_total (Nat.lt_of_le_of_lt (Nat.le_add_left 1 _) excess)
  exact ⟨kept, Nat.lt_of_lt_of_eq excess total.symm⟩

/-- Dropping a proxy leaves an object stranded. -/
theorem drop (stranded : Stranded handle client) (name : String) :
    Stranded handle (drop caller links name client).2 := by
  have destroyed : Stranded handle (ObjectClient.destroy caller links name client).2 :=
    stranded.destroy name
  exact ⟨destroyed.owned, destroyed.unreleased,
    fun first second _ _ firstThere secondThere => destroyed.apart first second _ _
      (proxy?_of_forget firstThere) (proxy?_of_forget secondThere),
    fun other proxy there => destroyed.excess other proxy (proxy?_of_forget there)⟩

/-- A proxy that is kept has another handle. -/
theorem keep (stranded : Stranded handle client) (fresh : next.handle ∉ client.owned) :
    Stranded handle (keep caller links name next client).2 := by
  have dropped : Stranded handle (ObjectClient.drop caller links name client).2 :=
    stranded.drop name
  have different : next.handle ≠ handle := fun same => fresh (same ▸ stranded.owned)
  have old {other : String} {proxy : Proxy} (same : proxy.handle = handle)
      (there : (ObjectClient.keep caller links name next client).2.proxy? other = some proxy) :
      (ObjectClient.drop caller links name client).2.proxy? other = some proxy := by
    have put : ((ObjectClient.drop caller links name client).2.put name next).proxy? other =
      some proxy := there
    rw [proxy?_put] at put
    split at put
    · cases put
      exact absurd same different
    · exact put
  exact ⟨List.mem_cons_of_mem _ dropped.owned, dropped.unreleased,
    fun first second _ _ firstThere secondThere firstSame secondSame => dropped.apart first second
      _ _ (old firstSame firstThere) (old secondSame secondThere) firstSame secondSame,
    fun other proxy there same => dropped.excess other proxy (old same there) same⟩

omit [Part κ Ledger] in
/-- A call that begins leaves an object stranded. -/
theorem begun {acquired : Proxy} (stranded : Stranded handle client)
    (found : client.proxy? name = some proxy) (allowed : proxy.acquire? = .ok acquired)
    (same : acquired.handle = proxy.handle) :
    Stranded handle ((client.put name acquired).begun acquired.handle) := by
  refine stranded.replace found same (fun shared => ?_) fun distinct => ?_
  · have excess := stranded.excess name proxy found shared
    rw [same, shared, List.count_cons_self, Proxy.total_acquire? allowed]
    exact Nat.succ_lt_succ excess
  · rw [same]
    exact List.count_cons_of_ne distinct

/-- The call that ends is one of those that the proxy counts. -/
theorem givenBack (stranded : Stranded handle client) (caller : Caller κ)
    (links : ObjectEntryPoints κ) (found : client.proxy? name = some proxy)
      (flying : proxy.handle ∈ client.inFlight)
    (core : κ) : Stranded handle (ObjectClient.givenBack links caller name
      { client.ended proxy.handle with core := core }) := by
  refine ((stranded.ended _).elsewhere core).settle (fun _ => rfl) fun same there shared => ?_
  cases found.symm.trans there
  have excess := stranded.excess name proxy found shared
  have flew := List.count_pos_iff.mpr flying
  rw [shared] at flew
  obtain ⟨kept, total⟩ := proxy.release_of_total (by omega)
  refine ⟨kept, ?_⟩
  have fewer : (client.inFlight.erase proxy.handle).count handle + 1 =
      client.inFlight.count handle := by
    rw [shared, List.count_erase_self]
    omega
  change (client.inFlight.erase proxy.handle).count handle + 1 < _
  omega

/-- A call does what its body does, if it begins. -/
theorem called {body : Handle → EntryPoint (ObjectClient κ) τ} (stranded : Stranded handle client)
    (returns : ∀ payload after, call caller links declared name body client ≠
      .error (.panic payload) after)
    (nested : ∀ other acquired, Proxies.acquire name client = .ok other acquired →
      Stranded handle (acquired.begun other) →
      Stranded handle (body other (acquired.begun other)).2 ∧
        Preserves (acquired.begun other) (body other (acquired.begun other)).2) :
    Stranded handle ((call caller links declared name body).observe client).2 := by
  rcases called_cases returns with
    ⟨proxy, acquired, core, found, allowed, same, taken, left⟩ | stayed
  · obtain ⟨inner, preserves⟩ := nested _ _ taken (stranded.begun found allowed same)
    obtain ⟨next, there, alike, inFlight⟩ :=
      preserves.flying ((proxy?_put name).trans (if_pos rfl))
    have flying := List.mem_of_mem_head? (congrArg List.head? inFlight)
    have kept := inner.givenBack caller links there flying core
    rw [alike] at kept
    rw [left]
    exact kept
  · rw [stayed]
    exact stranded

theorem cloned (stranded : Stranded handle client) (name : String) :
    Stranded handle ((cloning caller links name).observe client).2 := by
  have never : (Read.undeclared : Read Empty).NeverPanics := .fail _
  exact stranded.called (call_returns never _ client) fun other _ _ begun =>
    ⟨begun.elsewhere _, cloning_body_preserves other _⟩

end Stranded

/-- Whatever its users do, a stranded handle is not released. -/
theorem Reaches.stranded (reaches : Reaches caller links client after)
    (stranded : Stranded handle client) : Stranded handle after := by
  induction reaches with
  | refl client => exact stranded
  | @adopt start client interface name other _ fresh _ ih =>
      rw [observe_adopt]
      cases owned : Proxy.ofHandle? interface other with
      | error _ => exact ih stranded
      | ok proxy =>
          obtain rfl := eq_of_ofHandle? owned
          exact (ih stranded).keep fresh
  | @clone start client name target _ fresh ih =>
      have called : Stranded handle ((cloning caller links name).observe client).2 :=
        (ih stranded).cloned name
      rw [observe_clone]
      rcases copy_cases name client with ⟨interface, other, after, cloned, copied⟩ |
        ⟨fault, failed⟩
      · rw [Act.observe_of_ok cloned] at called
        rw [copied]
        exact called.keep (fresh _ _ copied).1
      · rw [failed]
        exact called
  | call declared name body _ inner returns ih nested =>
      exact (ih stranded).called returns fun other acquired taken begun =>
        ⟨nested other acquired taken begun, (inner other acquired taken).preserves⟩
  | destroy name _ ih => exact (ih stranded).destroy name
  | drop name _ _ ih => exact (ih stranded).drop name
  | elsewhere core _ ih => exact (ih stranded).elsewhere core

/-! ### What a call that unwinds costs -/

/-- A proxy that gave a reference back counts one less. -/
theorem proxy?_givenBack (found : client.proxy? name = some proxy) :
    (ObjectClient.givenBack links caller name client).proxy? name = some proxy.release.2 := by
  obtain ⟨core, left⟩ := settle_of_some caller links found Proxy.release
  have put : (client.put name proxy.release.2).proxy? name = some proxy.release.2 :=
    (proxy?_put name).trans (if_pos rfl)
  unfold ObjectClient.givenBack
  rw [left, settled]
  cases proxy.release.1 with
  | true => exact put
  | false => exact put

omit [Part κ Ledger] in
/-- A call that does not give its reference back strands its handle. -/
theorem Sound.stranded {inner : ObjectClient κ} (sound : Sound inner)
    (there : inner.proxy? name = some next)
    (inFlight : inner.inFlight = next.handle :: client.inFlight) (core : κ) :
    Stranded next.handle { inner.ended next.handle with core := core } := by
  have total := sound.total_eq there
  rw [inFlight, List.count_cons_self] at total
  have left : inner.inFlight.erase next.handle = client.inFlight := by
    rw [inFlight, List.erase_cons_head]
  refine ⟨sound.owned name next there, ?unreleased, ?apart, ?excess⟩
  case unreleased =>
    change next.handle ∉ inner.released
    have counted := next.total_le
    rw [sound.settled _ (sound.owned name next there), sound.spent_iff there]
    omega
  case apart =>
    exact fun first second _ _ firstThere secondThere firstSame secondSame =>
      sound.apart first second _ _ firstThere secondThere (firstSame.trans secondSame.symm)
  case excess =>
    intro other proxy found same
    obtain rfl := sound.apart other name proxy next found there same
    cases there.symm.trans found
    change (inner.inFlight.erase next.handle).count next.handle + 1 < next.total
    rw [left, total]
    exact Nat.lt_succ_self _

/-- A call that returns leaves its proxy with its own reference, and one for each call that is still
in flight. -/
theorem Sound.total_returned {inner : ObjectClient κ} (sound : Sound inner)
    (preserves : Preserves (client.begun proxy.handle) inner)
    (found : client.proxy? name = some proxy) (core : κ) :
    ∃ next, (ObjectClient.givenBack links caller name
        { inner.ended proxy.handle with core := core }).proxy? name = some next ∧
      next.handle = proxy.handle ∧ next.total = client.inFlight.count proxy.handle + 1 := by
  obtain ⟨next, stays, alike, -⟩ := preserves.flying found
  have quiet : (ObjectClient.givenBack links caller name
      { inner.ended proxy.handle with core := core }).inFlight = client.inFlight :=
    (preserves.returned core).inFlight
  have released : (ObjectClient.givenBack links caller name
      { inner.ended proxy.handle with core := core }).proxy? name = some next.release.2 :=
    proxy?_givenBack stays
  have counted := (sound.returned preserves found core).total_eq released
  rw [quiet] at counted
  exact ⟨next.release.2, released, alike,
    counted.trans (congrArg (client.inFlight.count · + 1) alike)⟩

omit [Part κ Ledger] in
/-- A call that unwinds leaves its proxy with one reference more. -/
theorem Sound.total_unwound {inner : ObjectClient κ} (sound : Sound inner)
    (preserves : Preserves (client.begun proxy.handle) inner)
    (found : client.proxy? name = some proxy) (core : κ) :
    (∃ next, inner.proxy? name = some next ∧ next.handle = proxy.handle ∧
      next.total = client.inFlight.count proxy.handle + 1 + 1) ∧
    Stranded proxy.handle { inner.ended proxy.handle with core := core } := by
  obtain ⟨next, stays, alike, inFlight⟩ := preserves.flying found
  have counted := sound.total_eq stays
  rw [inFlight, List.count_cons_self, alike] at counted
  have stranded := sound.stranded stays inFlight core
  rw [alike] at stranded
  exact ⟨⟨next, stays, alike, counted⟩, stranded⟩

/-- **A call gives its reference back unless control unwinds through it.** In whatever state a host
was seen before, and whatever the body of a call does before it ends: if the call returns, its
proxy counts what it counted before, and from then on the core is asked for each object once, when
its proxy is destroyed and no call is in flight. If control unwinds through the call, the proxy
counts one reference more, and the core is never asked to release its object. -/
theorem reference_is_lost_iff_call_unwinds {core : κ} (declared : Read ε)
    (body : Handle → Act (ObjectClient κ) Empty (τ × Status))
    (reachable : Reachable caller links core client)
    (found : client.proxy? name = some proxy)
    (nested : ∀ handle acquired, Proxies.acquire name client = .ok handle acquired →
      Reaches caller links (acquired.begun handle)
        ((body handle).observe (acquired.begun handle)).2) :
    let after := ((attempt caller links declared name body).observe client).2
    (¬ Unwinds declared name body client →
      (∃ next, after.proxy? name = some next ∧ next.handle = proxy.handle ∧
        next.total = proxy.total) ∧
      ∀ later, Reaches caller links after later → Accounted caller links later) ∧
    (Unwinds declared name body client →
      (∃ next, after.proxy? name = some next ∧ next.handle = proxy.handle ∧
        next.total = proxy.total + 1) ∧
      ∀ later, Reaches caller links after later → proxy.handle ∉ later.released) := by
  intro after
  have sound := reachable.sound
  have total := sound.total_eq found
  rcases attempted_cases caller links declared name body client with
    ⟨known, acquired, core, there, allowed, same, taken, unwound, returned⟩ | ⟨calm, stayed⟩
  · cases found.symm.trans there
    have began : Sound ((client.put name acquired).begun acquired.handle) :=
      same ▸ sound.begun found allowed
    have inner := (nested _ _ taken).sound began
    have preserves := (nested _ _ taken).preserves
    have put : (client.put name acquired).proxy? name = some acquired :=
      (proxy?_put name).trans (if_pos rfl)
    constructor
    · intro calm
      have left : after = _ := returned calm
      have counts : Sound after := left ▸ inner.returned preserves put core
      obtain ⟨next, released, own, counted⟩ := inner.total_returned preserves put core
      refine ⟨⟨next, left ▸ released, own.trans same, ?_⟩, fun later reaches =>
        (reaches.sound counts).accounts caller links⟩
      rw [counted, same, total]
      rfl
    · intro unwinds
      have left : after = _ := unwound unwinds
      obtain ⟨⟨next, stays, own, counted⟩, stranded⟩ := inner.total_unwound preserves put core
      rw [left, ← same]
      refine ⟨⟨next, stays, own, ?_⟩, fun later reaches =>
        (reaches.stranded stranded).unreleased⟩
      rw [counted, total, same]
      rfl
  · have left : after = client := stayed
    rw [left]
    exact ⟨fun _ => ⟨⟨proxy, found, rfl, rfl⟩, fun later reaches =>
      (reaches.sound sound).accounts caller links⟩, fun unwinds => absurd unwinds calm⟩

end

/-- A body that panics. -/
def panickingBody (_ : Handle) : Act (ObjectClient Ledger) Empty (Unit × Status) :=
  Act.unwind (.text "boom")

/-- A body that reports an error of twelve bytes. -/
def reportingBody (error : Bytes) (_ : Handle) : Act (ObjectClient Ledger) Empty (Unit × Status) :=
  fun client => .ok ((), ⟨1, ⟨12, 12, some 1⟩⟩)
    { client with core := ⟨[(1, ⟨12, .ofBytes error⟩)], [], 2⟩ }

/-- The host after a call that declares durations as its errors. -/
def attempting (body : Handle → Act (ObjectClient Ledger) Empty (Unit × Status)) :
    ObjectClient Ledger :=
  ((attempt Caller.inProcess numbering Duration.read "first" body).observe adopting).2

/-- A call that panics costs the object. One that reports an error which can be read does not. -/
theorem reference_is_lost_in_panicking_call :
    let second : Bytes := [0, 0, 0, 0, 0, 0, 0, 1, 0, 0, 0, 0]
    Reachable Caller.inProcess numbering Ledger.empty adopting ∧
      adopting.proxy? "first" = some ⟨"Widget", ⟨7⟩, false, 1⟩ ∧
      (∀ later, Reaches Caller.inProcess numbering (attempting panickingBody) later →
        ⟨7⟩ ∉ later.released) ∧
      ∀ later, Reaches Caller.inProcess numbering (attempting (reportingBody second)) later →
        Accounted Caller.inProcess numbering later := by
  intro second
  have adopted : Reaches Caller.inProcess numbering (start Ledger.empty) adopting :=
    .adopt "Widget" "first" ⟨7⟩ (.refl _) List.not_mem_nil fun _ found => nomatch found
  have reachable : Reachable Caller.inProcess numbering Ledger.empty adopting :=
    .onward .start adopted
  have found : adopting.proxy? "first" = some ⟨"Widget", ⟨7⟩, false, 1⟩ := by decide
  have panicked := reference_is_lost_iff_call_unwinds Duration.read panickingBody reachable found
    fun _ _ _ => .refl _
  have reported := reference_is_lost_iff_call_unwinds Duration.read (reportingBody second) reachable
    found fun _ _ _ => .elsewhere _ (.refl _)
  have unwinds : Unwinds Duration.read "first" panickingBody adopting :=
    ⟨⟨7⟩, _, rfl, .body rfl⟩
  have calm : ¬ Unwinds Duration.read "first" (reportingBody second) adopting := by
    rw [← attempt_unwinds_iff Caller.inProcess numbering]
    rintro ⟨payload, after, unwound⟩
    have reads : ((attempt Caller.inProcess numbering Duration.read "first"
      (reportingBody second)).observe adopting).1 =
        .error (.error (.declared ⟨1000000000, by decide⟩)) := by decide
    rw [Act.observe_of_error unwound] at reads
    cases reads
  exact ⟨reachable, found, (panicked.2 unwinds).2, (reported.1 calm).2⟩

/-- An error that panics as it is read costs the object as well as a body that panics does: the
proxy counts two references without a call in flight, and destroying it releases nothing. -/
theorem unwinding_calls_lose_their_reference :
    let overlong : Bytes := [255, 255, 255, 255, 255, 255, 255, 255, 59, 154, 202, 0]
    adopting.proxy? "first" = some ⟨"Widget", ⟨7⟩, false, 1⟩ ∧
      ∀ body ∈ [panickingBody, reportingBody overlong],
        (attempting body).inFlight = [] ∧
        (attempting body).proxy? "first" = some ⟨"Widget", ⟨7⟩, false, 2⟩ ∧
        (destroy Caller.inProcess numbering "first" (attempting body)).2.released = [] := by
  intro overlong
  refine ⟨by decide, List.forall_mem_cons.mpr ⟨⟨rfl, by decide, by decide⟩,
    List.forall_mem_singleton.mpr ⟨?_, ?_, ?_⟩⟩⟩
  · decide
  · decide
  · decide

end ObjectClient

end Boundary
