import Boundary.Proofs.Callback.Host

/-! # What the steps of a callback host keep

Whatever the users of a host do, what is noted of it stays (`Boundary.CallbackHost.Reaches.keeps`):
a handle that loses its object was freed, and a callback that is called later finds freed what was
freed before. Most of what they do leaves the registry and the notes alone altogether
(`Boundary.CallbackHost.Quiet`).
-/

namespace Boundary

/-- Inserting an object takes no other away. -/
theorem Table.contains_insert {α : Type} {table : Table α} {handle : Handle}
    (known : table.contains handle = true) (object : α) :
    (table.insert object).2.contains handle = true := by
  rcases inserted : table.insert object with ⟨cause | fresh, after⟩
  · rw [insert_eq_error inserted]
    exact known
  · obtain ⟨-, rfl⟩ := insert_eq_ok inserted
    obtain ⟨found, looked⟩ := Option.isSome_iff_exists.mp known
    change (List.lookup handle (table.entries ++ [(fresh, object)])).isSome = true
    rw [List.lookup_append, show table.entries.lookup handle = some found from looked]
    rfl

namespace CallbackHost

variable {α ω ρ : Type} {work : ω → Act (CallbackHost α ω ρ) Lowering Output}
  {first before after state : CallbackHost α ω ρ} {channel : Channel} {recipient : ρ}
  {handle job : Handle}

/-! ### What is noted stays -/

/-- What is noted is noted for good, no handle loses its object without being freed, and the
callbacks that are called meanwhile find freed what was freed before. -/
structure Keeps (before after : CallbackHost α ω ρ) : Prop where
  origins : before.origins ⊆ after.origins
  freed : before.freed ⊆ after.freed
  held : ∀ handle, before.holds handle = true → after.holds handle = true ∨ handle ∈ after.freed
  answers : ∃ more, after.answers = before.answers ++ more ∧
    ∀ answer ∈ more, before.freed ⊆ answer.freed

theorem Keeps.refl (state : CallbackHost α ω ρ) : state.Keeps state :=
  ⟨List.Subset.refl _, List.Subset.refl _, fun _ => .inl,
    [], (List.append_nil _).symm, List.forall_mem_nil _⟩

/-- What is kept twice is kept. -/
theorem Keeps.trans (sooner : first.Keeps before) (later : before.Keeps after) :
    first.Keeps after := by
  obtain ⟨early, called, seen⟩ := sooner.answers
  obtain ⟨late, calledLater, seenLater⟩ := later.answers
  refine ⟨List.Subset.trans sooner.origins later.origins,
    List.Subset.trans sooner.freed later.freed,
    fun handle held => ?_, early ++ late, ?_, ?_⟩
  · rcases sooner.held handle held with still | gone
    · exact later.held handle still
    · exact .inr (later.freed gone)
  · rw [calledLater, called, List.append_assoc]
  · exact List.forall_mem_append.mpr
      ⟨seen, fun answer member => List.Subset.trans sooner.freed (seenLater answer member)⟩

/-- The registry and the notes are left alone. No job becomes pending again, and if a callback is
called for a job, then this job was pending. -/
structure Quiet (before after : CallbackHost α ω ρ) : Prop where
  registry : after.registry = before.registry
  origins : after.origins = before.origins
  freed : after.freed = before.freed
  orderly : before.jobs.Orderly → after.jobs.Orderly
  next : before.jobs.pending.next ≤ after.jobs.pending.next
  pending : ∀ job, job.raw.toNat < before.jobs.pending.next →
    after.jobs.isPending job = true → before.jobs.isPending job = true
  answers : ∃ more, after.answers = before.answers ++ more ∧
    ∀ answer ∈ more, answer.freed = before.freed ∧
      ∀ job, answer.job = some job → before.jobs.isPending job = true

namespace Quiet

/-- What leaves the registry and the notes alone keeps them. -/
theorem keeps (quiet : before.Quiet after) : before.Keeps after := by
  obtain ⟨more, called, seen⟩ := quiet.answers
  refine ⟨fun entry member => quiet.origins ▸ member, fun freed member => quiet.freed ▸ member,
    fun handle held => .inl ?_, more, called,
    fun answer member => (seen answer member).1 ▸ List.Subset.refl _⟩
  unfold holds at held ⊢
  rw [quiet.registry]
  exact held

/-- Only the jobs change. -/
theorem of_jobs (jobs : Jobs ω ρ) (orderly : state.jobs.Orderly → jobs.Orderly)
    (next : state.jobs.pending.next ≤ jobs.pending.next)
    (pending : ∀ job, job.raw.toNat < state.jobs.pending.next →
      jobs.isPending job = true → state.jobs.isPending job = true) :
    state.Quiet { state with jobs := jobs } :=
  ⟨rfl, rfl, rfl, orderly, next, pending, [], (List.append_nil _).symm, List.forall_mem_nil _⟩

theorem refl (state : CallbackHost α ω ρ) : state.Quiet state :=
  of_jobs _ id (Nat.le_refl _) fun _ _ => id

/-- Starting a job that belongs to no object is quiet. -/
theorem start (state : CallbackHost α ω ρ) (channel : Channel) (ending : ω) (recipient : ρ) :
    state.Quiet
      { state with jobs := (Jobs.start channel ending recipient state.jobs).2 } := by
  refine of_jobs _ (fun orderly => orderly.start channel ending recipient) ?_ ?_
  · exact Nat.le_of_lt (Jobs.next_start state.jobs channel ending recipient ▸ Nat.lt_succ_self _)
  · intro job issued pending
    exact (Jobs.start_of_issued state.jobs job issued channel ending recipient).1 ▸ pending

theorem elsewhere (state : CallbackHost α ω ρ) (use : StateM Ledger Unit) :
    state.Quiet (onPart use state).2 :=
  ⟨rfl, rfl, rfl, id, Nat.le_refl _, fun _ _ => id, [], (List.append_nil _).symm,
    List.forall_mem_nil _⟩

theorem enter (state : CallbackHost α ω ρ) (job : Handle) (progress : JobProgress ω) :
    state.Quiet { state with jobs := (Jobs.enter job progress state.jobs).2 } :=
  of_jobs _ (fun orderly => orderly.enter job progress) (Nat.le_refl _) fun _ _ => id

/-- Cancelling a job is quiet. -/
theorem cancel (state : CallbackHost α ω ρ) (job : Handle) :
    state.Quiet (CallbackHost.cancel job state).2 := by
  refine of_jobs (Jobs.cancel job state.jobs).2 (fun orderly => orderly.cancel job) ?_ ?_
  · exact Nat.le_of_eq (Jobs.next_cancel state.jobs job).symm
  · intro other _ pending
    rw [Jobs.isPending_cancel] at pending
    split at pending
    · cases pending
    · exact pending

/-- Answering a request that cannot be served is quiet. -/
theorem refuse (state : CallbackHost α ω ρ) (channel : Channel) (recipient : ρ)
    (cause : HandleError) :
    state.Quiet (Jobs.refuse (host work none) channel recipient cause state).2 := by
  rw [refuse_eq]
  refine ⟨rfl, rfl, rfl, id, Nat.le_refl _, fun _ _ => id, [_], rfl,
    List.forall_mem_singleton.mpr ⟨rfl, fun job named => ?_⟩⟩
  cases named

/-- Completing a job is quiet. -/
theorem settle (state : CallbackHost α ω ρ) (job : Handle) :
    state.Quiet (Jobs.settle (host work (some job)) job state).2 := by
  have fewer : ∀ other, other.raw.toNat < state.jobs.pending.next →
      (state.jobs.without job).isPending other = true →
      state.jobs.isPending other = true := by
    intro other _ pending
    rw [Jobs.isPending_without] at pending
    split at pending
    · cases pending
    · exact pending
  rw [settle_eq]
  split
  case h_2 => exact refl state
  case h_1 found _ =>
    by_cases working : found.isWorking = true
    · rw [if_pos working]
      exact refl state
    · rw [if_neg working]
      by_cases pending : state.jobs.isPending job = true
      · rw [if_pos pending]
        refine ⟨rfl, rfl, rfl, fun orderly => orderly.without job, Nat.le_refl _, fewer, [_], rfl,
          List.forall_mem_singleton.mpr ⟨rfl, fun other named => ?_⟩⟩
        cases named
        exact pending
      · rw [if_neg pending]
        exact of_jobs _ (fun orderly => orderly.without job) (Nat.le_refl _) fewer

end Quiet

/-- Objects may be added. -/
theorem Keeps.of_objects {objects : Table α}
    (grown : ∀ handle, state.registry.objects.contains handle = true →
      objects.contains handle = true) :
    state.Keeps { state with registry := { state.registry with objects := objects } } :=
  ⟨List.Subset.refl _, List.Subset.refl _, fun handle held => .inl (grown handle held),
    [], (List.append_nil _).symm, List.forall_mem_nil _⟩

/-- Freeing a handle takes its object away, and no other. -/
theorem holds_free (handle other : Handle) (state : CallbackHost α ω ρ) :
    (free handle state).2.holds other =
      if other = handle then false else state.holds other := by
  rw [free_eq]
  change ((state.registry.objects.erase handle).find? other).isSome = _
  rw [Table.find?_erase]
  split <;> rfl

/-- A handle with an object is held. -/
theorem holds_of_get {object : α} (found : state.registry.get handle = .ok object) :
    state.holds handle = true := by
  unfold CallbackRegistry.get Table.get at found
  unfold holds Table.contains
  rcases looked : state.registry.objects.find? handle with _ | known
  · rw [looked] at found
    cases found
  · rfl

/-- Freeing a handle is noted, and keeps the rest. -/
theorem Keeps.free (handle : Handle) (state : CallbackHost α ω ρ) :
    state.Keeps (free handle state).2 := by
  have noted : (CallbackHost.free handle state).2.freed =
      if state.holds handle then handle :: state.freed else state.freed := by
    rw [free_eq]
  refine ⟨?_, ?_, ?_, [], ?_, List.forall_mem_nil _⟩
  · rw [free_eq]
    exact List.Subset.refl _
  · rw [noted]
    split
    · exact List.subset_cons_self _ _
    · exact List.Subset.refl _
  · intro other held
    by_cases same : other = handle
    · rw [noted, if_pos (same ▸ held)]
      exact .inr (same ▸ List.mem_cons_self)
    · rw [holds_free, if_neg same]
      exact .inl held
  · rw [free_eq]
    exact (List.append_nil _).symm

/-- Starting the job of a method keeps what is noted. -/
theorem Keeps.started (state : CallbackHost α ω ρ) (channel : Channel) (recipient : ρ)
    (handle : Handle) (ending : ω) :
    state.Keeps (started work channel recipient handle ending state) := by
  have quiet := Quiet.start state channel ending recipient
  rcases begun : Jobs.start channel ending recipient state.jobs with ⟨cause | job, jobs⟩
  · rw [begun] at quiet
    rw [started_of_error begun]
    exact quiet.keeps.trans (Quiet.refuse _ channel recipient cause).keeps
  · by_cases held : state.holds handle = true
    · rw [started_of_holds begun held]
      exact ⟨List.subset_cons_self _ _, List.Subset.refl _, fun _ => .inl,
        [], (List.append_nil _).symm, List.forall_mem_nil _⟩
    · rw [started_of_not_holds begun held]
      exact ⟨List.subset_cons_self _ _, List.Subset.refl _, fun _ => .inl,
        [], (List.append_nil _).symm, List.forall_mem_nil _⟩

/-- A call for work keeps what is noted, if the method does. -/
theorem Keeps.dispatch {method : α → StateM (CallbackHost α ω ρ) ω}
    (made : ∀ object, state.registry.get handle = .ok object →
      state.Keeps (method object state).2) :
    state.Keeps (dispatch work channel recipient handle method state).2 := by
  rcases found : state.registry.get handle with cause | object
  · rw [dispatch_of_error found]
    exact (Quiet.refuse state channel recipient cause).keeps
  · rw [dispatch_of_ok found]
    exact (made object found).trans (Keeps.started _ channel recipient handle _)

/-- Running the work of a job keeps what is noted, if the work does. -/
theorem Keeps.perform
    (worked : ∀ channel recipient ending,
      state.jobs.find? job = some ⟨channel, recipient, .working ending, false⟩ →
      state.Keeps ((work ending).observe state).2) :
    state.Keeps (Jobs.perform (host work (some job)) job state).2 := by
  rw [perform_eq]
  split
  case h_2 => exact .refl state
  case h_1 channel recipient ending unwanted found =>
    cases unwanted with
    | true => exact (Quiet.enter state job .aborted).keeps
    | false => exact (worked channel recipient ending found).trans (Quiet.enter _ job _).keeps

/-- The registry grows by the objects that are registered and cloned. -/
theorem cloneHandle_eq (handle : Handle) (registry : CallbackRegistry α) :
    (CallbackRegistry.cloneHandle handle registry).2 = registry ∨
      ∃ object, (CallbackRegistry.cloneHandle handle registry).2 =
        { registry with objects := (registry.objects.insert object).2 } := by
  unfold CallbackRegistry.cloneHandle Table.cloneHandle
  rcases registry.objects.get handle with cause | object
  · exact .inl rfl
  · refine .inr ⟨object, ?_⟩
    simp only
    rcases registry.objects.insert object with ⟨cause | issued, objects⟩ <;> rfl

/-- Cloning a handle keeps what is noted. -/
theorem Keeps.clone (handle : Handle) (state : CallbackHost α ω ρ) :
    state.Keeps { state with
      registry := (CallbackRegistry.cloneHandle handle state.registry).2 } := by
  rcases cloneHandle_eq handle state.registry with same | ⟨object, grown⟩
  · rw [same]
    exact .refl state
  · rw [grown]
    exact .of_objects fun handle held => Table.contains_insert held object

/-- From one state of a host to another, what is noted stays. -/
theorem Reaches.keeps (reached : Reaches work first state) : first.Keeps state := by
  induction reached with
  | refl state => exact .refl state
  | register object _ ih =>
      exact ih.trans (.of_objects fun handle held => Table.contains_insert held object)
  | @clone _ state handle _ ih =>
      exact ih.trans (.clone handle state)
  | free handle _ ih => exact ih.trans (.free handle _)
  | dispatch channel recipient handle method _ _ ih made => exact ih.trans (.dispatch made)
  | start channel ending recipient _ ih =>
      exact ih.trans (Quiet.start _ channel ending recipient).keeps
  | perform job _ _ ih worked => exact ih.trans (.perform worked)
  | settle job _ ih => exact ih.trans (Quiet.settle _ job).keeps
  | cancel job _ ih => exact ih.trans (Quiet.cancel _ job).keeps
  | @elsewhere _ state use _ ih => exact ih.trans (Quiet.elsewhere state use).keeps

end CallbackHost

end Boundary
