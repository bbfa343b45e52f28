import Boundary.Proofs.Callback.HostRun

/-! # Freeing a handle ends its jobs

The registry lists under every handle the jobs that were started through it, and forgets those
that are no longer pending when it notes another one. That is enough: while a handle has an object,
every pending job that was started through it is on its list, and a handle without an object has no
list (`Boundary.CallbackHost.Sound`).

**When a handle is freed, the jobs that were started through it end, also the one that is just
being started; their callbacks are not called any more, and no other job is affected**
(`Boundary.CallbackHost.free_ends_its_jobs`).
-/

namespace Boundary

namespace CallbackHost

variable {α ω ρ : Type} {work : ω → Act (CallbackHost α ω ρ) Lowering Output}
  {first before after state : CallbackHost α ω ρ} {channel : Channel} {recipient : ρ}
  {handle job : Handle}

/-! ### What holds of the tables -/

/-- What holds of a host whatever its users did. -/
structure Sound (state : CallbackHost α ω ρ) : Prop where
  objects : state.registry.objects.Orderly
  jobs : state.jobs.Orderly
  issued : ∀ job handle, (job, handle) ∈ state.origins →
    job.raw.toNat < state.jobs.pending.next
  single : ∀ job handle other, (job, handle) ∈ state.origins → (job, other) ∈ state.origins →
    handle = other
  /-- The lists name jobs that were started through their handle. -/
  listed : ∀ handle, ∀ job ∈ state.registry.jobsOf handle, (job, handle) ∈ state.origins
  /-- A job that is pending is on the list of its handle. -/
  kept : ∀ job handle, (job, handle) ∈ state.origins → state.jobs.isPending job = true →
    job ∈ state.registry.jobsOf handle
  /-- A handle without an object has no list. -/
  tidy : ∀ handle, ¬ state.holds handle = true → state.registry.jobs.lookup handle = none
  known : ∀ job handle, (job, handle) ∈ state.origins →
    state.holds handle = true ∨ handle ∈ state.freed
  /-- A handle that was freed does not get an object again. -/
  gone : ∀ handle ∈ state.freed, ¬ state.holds handle = true ∧
    handle.raw.toNat < state.registry.objects.next
  answered : ∀ answer ∈ state.answers, ∀ job, answer.job = some job →
    job.raw.toNat < state.jobs.pending.next
  /-- No callback was called for a job whose handle had been freed before. -/
  silent : ∀ answer ∈ state.answers, ∀ job handle, answer.job = some job →
    (job, handle) ∈ state.origins → handle ∉ answer.freed

namespace Sound

/-- A job that is pending was issued its handle. -/
theorem isPending_lt (sound : state.Sound) (pending : state.jobs.isPending job = true) :
    job.raw.toNat < state.jobs.pending.next := by
  apply Nat.lt_of_not_le
  intro unissued
  have absent := sound.jobs.pending.find?_eq_none unissued
  obtain ⟨_, found⟩ := Option.isSome_iff_exists.mp pending
  exact absurd (found.symm.trans absent) (Option.some_ne_none _)

/-- A job that is pending was started through a handle that has an object. -/
theorem holds_of_isPending (sound : state.Sound) (origin : (job, handle) ∈ state.origins)
    (pending : state.jobs.isPending job = true) : state.holds handle = true := by
  have listed := sound.kept job handle origin pending
  by_cases held : state.holds handle = true
  · exact held
  · unfold CallbackRegistry.jobsOf at listed
    rw [sound.tidy handle held] at listed
    exact absurd listed List.not_mem_nil

theorem not_isPending_of_freed (sound : state.Sound) (origin : (job, handle) ∈ state.origins)
    (freed : handle ∈ state.freed) : state.jobs.isPending job = false := by
  apply eq_false_of_ne_true
  intro pending
  exact (sound.gone handle freed).1 (sound.holds_of_isPending origin pending)

/-- A host that starts without objects is sound. -/
theorem initial (interface : String) {jobs : Jobs ω ρ} (orderly : jobs.Orderly) (ledger : Ledger) :
    (⟨.named interface, jobs, ledger, [], [], []⟩ : CallbackHost α ω ρ).Sound where
  objects := .named _
  jobs := orderly
  issued := fun _ _ origin => absurd origin List.not_mem_nil
  single := fun _ _ _ origin => absurd origin List.not_mem_nil
  listed := fun _ => List.forall_mem_nil _
  kept := fun _ _ origin => absurd origin List.not_mem_nil
  tidy := fun _ _ => rfl
  known := fun _ _ origin => absurd origin List.not_mem_nil
  gone := List.forall_mem_nil _
  answered := List.forall_mem_nil _
  silent := List.forall_mem_nil _

/-- What leaves the registry and the notes alone keeps a host sound. -/
theorem quiet (sound : before.Sound) (quiet : before.Quiet after) : after.Sound := by
  obtain ⟨registry, origins, freed, orderly, next, pending, more, called, seen⟩ := quiet
  have earlier : ∀ job handle, (job, handle) ∈ after.origins →
      job.raw.toNat < before.jobs.pending.next :=
    fun job handle origin => sound.issued job handle (origins ▸ origin)
  have holds : ∀ handle, after.holds handle = before.holds handle := by
    intro handle
    unfold CallbackHost.holds
    rw [registry]
  constructor
  case objects => exact registry ▸ sound.objects
  case jobs => exact orderly sound.jobs
  case issued =>
    intro job handle origin
    exact Nat.lt_of_lt_of_le (earlier job handle origin) next
  case single =>
    rw [origins]
    exact sound.single
  case listed =>
    rw [origins, registry]
    exact sound.listed
  case kept =>
    intro job handle origin still
    rw [registry]
    rw [origins] at origin
    exact sound.kept job handle origin (pending job (sound.issued job handle origin) still)
  case tidy =>
    intro handle absent
    rw [registry]
    exact sound.tidy handle (holds handle ▸ absent)
  case known =>
    intro job handle origin
    rw [holds, freed]
    exact sound.known job handle (origins ▸ origin)
  case gone =>
    intro handle member
    rw [holds, registry]
    exact sound.gone handle (freed ▸ member)
  case answered =>
    rw [called]
    refine List.forall_mem_append.mpr ⟨?_, ?_⟩
    · intro answer member job named
      exact Nat.lt_of_lt_of_le (sound.answered answer member job named) next
    · intro answer member job named
      exact Nat.lt_of_lt_of_le (sound.isPending_lt ((seen answer member).2 job named)) next
  case silent =>
    rw [called, origins]
    refine List.forall_mem_append.mpr ⟨sound.silent, ?_⟩
    intro answer member job handle named origin
    obtain ⟨view, ready⟩ := seen answer member
    rw [view]
    intro gone
    exact (sound.gone handle gone).1 (sound.holds_of_isPending origin (ready job named))

/-- Objects may be added under new handles. -/
theorem of_insert (sound : state.Sound) (object : α) :
    Sound { state with
      registry := { state.registry with
        objects := (state.registry.objects.insert object).2 } } := by
  have grown : ∀ handle, state.holds handle = true →
      (state.registry.objects.insert object).2.contains handle = true :=
    fun handle held => Table.contains_insert held object
  refine ⟨sound.objects.insert object, sound.jobs, sound.issued, sound.single, sound.listed,
    sound.kept, ?_, ?_, ?_, sound.answered, sound.silent⟩
  · intro handle absent
    exact sound.tidy handle (mt (grown handle) absent)
  · intro job handle origin
    exact (sound.known job handle origin).imp_left (grown handle)
  · intro handle freed
    obtain ⟨absent, issued⟩ := sound.gone handle freed
    have same := Table.find?_insert_of_issued issued object
    refine ⟨?_, ?_⟩
    · change ¬ ((state.registry.objects.insert object).2.find? handle).isSome = true
      rw [same]
      exact absent
    · exact Table.next_insert state.registry.objects object ▸ Nat.lt_succ_of_lt issued

/-- Cloning a handle keeps a host sound. -/
theorem clone (sound : state.Sound) (handle : Handle) :
    Sound { state with
      registry := (CallbackRegistry.cloneHandle handle state.registry).2 } := by
  rcases cloneHandle_eq handle state.registry with same | ⟨object, grown⟩
  · rw [same]
    exact sound
  · rw [grown]
    exact sound.of_insert object

/-- A handle that is held was issued. -/
theorem lt_of_holds (sound : state.Sound) (held : state.holds handle = true) :
    handle.raw.toNat < state.registry.objects.next := by
  apply Nat.lt_of_not_le
  intro unissued
  have absent := congrArg Option.isSome (sound.objects.find?_eq_none unissued)
  exact Bool.false_ne_true (absent.symm.trans held)

/-- A job that is pending when a handle was freed is on the list of another one. -/
theorem kept_free (sound : state.Sound) {other : Handle} (origin : (job, other) ∈ state.origins)
    (pending : (free handle state).2.jobs.isPending job = true) :
    job ∈ (free handle state).2.registry.jobsOf other := by
  rw [free_eq] at pending ⊢
  change (state.jobs.cancelAll (state.registry.jobsOf handle)).isPending job = true at pending
  change job ∈ (CallbackRegistry.remove handle state.registry).2.jobsOf other
  rw [Jobs.isPending_cancelAll] at pending
  split at pending
  · cases pending
  · next unlisted =>
    have member := sound.kept job other origin pending
    have differs : other ≠ handle := by
      intro same
      exact unlisted (same ▸ member)
    rw [CallbackRegistry.jobsOf_remove, if_neg differs]
    exact member

/-- A handle that was freed has no object. -/
theorem gone_free (sound : state.Sound) {other : Handle}
    (freed : other ∈ (free handle state).2.freed) :
    ¬ (free handle state).2.holds other = true ∧
      other.raw.toNat < state.registry.objects.next := by
  rw [free_eq] at freed
  rw [holds_free]
  by_cases same : other = handle
  · rw [if_pos same]
    refine ⟨Bool.false_ne_true, ?_⟩
    by_cases held : state.holds handle = true
    · exact same ▸ sound.lt_of_holds held
    · simp only [held, Bool.false_eq_true, ↓reduceIte] at freed
      exact (sound.gone other freed).2
  · rw [if_neg same]
    by_cases held : state.holds handle = true
    · simp only [held, ↓reduceIte, List.mem_cons, same, false_or] at freed
      exact sound.gone other freed
    · simp only [held, Bool.false_eq_true, ↓reduceIte] at freed
      exact sound.gone other freed

/-- The jobs of a handle that is freed are on its list, so all of them are cancelled. -/
theorem free (sound : state.Sound) (handle : Handle) : (free handle state).2.Sound := by
  have next := Jobs.next_cancelAll state.jobs (state.registry.jobsOf handle)
  have keeps := Keeps.free handle state
  have leaves := free_eq handle state
  have origins : (CallbackHost.free handle state).2.origins = state.origins := by rw [leaves]
  constructor
  case objects =>
    rw [leaves]
    exact sound.objects.erase handle
  case jobs =>
    rw [leaves]
    exact sound.jobs.cancelAll _
  case issued =>
    rw [leaves]
    intro job other origin
    exact next ▸ sound.issued job other origin
  case single =>
    rw [leaves]
    exact sound.single
  case listed =>
    rw [leaves]
    intro other job member
    change job ∈ (CallbackRegistry.remove handle state.registry).2.jobsOf other at member
    rw [CallbackRegistry.jobsOf_remove] at member
    split at member
    · exact absurd member List.not_mem_nil
    · exact sound.listed other job member
  case kept =>
    intro job other origin pending
    exact sound.kept_free (origins ▸ origin) pending
  case tidy =>
    intro other absent
    rw [holds_free] at absent
    rw [leaves]
    change (CallbackRegistry.remove handle state.registry).2.jobs.lookup other = none
    rw [CallbackRegistry.lookup_remove]
    by_cases same : other = handle
    · exact if_pos same
    · rw [if_neg same] at absent ⊢
      exact sound.tidy other absent
  case known =>
    intro job other origin
    have before : (job, other) ∈ state.origins := origins ▸ origin
    rcases sound.known job other before with held | freed
    · exact keeps.held other held
    · exact .inr (keeps.freed freed)
  case gone =>
    intro other freed
    obtain ⟨absent, issued⟩ := sound.gone_free freed
    exact ⟨absent, leaves ▸ issued⟩
  case answered =>
    rw [leaves]
    intro answer member job named
    exact next ▸ sound.answered answer member job named
  case silent =>
    rw [leaves]
    exact sound.silent

/-- A job that was started is new to the notes. -/
theorem fresh (sound : state.Sound) {ending : ω} {jobs : Jobs ω ρ}
    (begun : Jobs.start channel ending recipient state.jobs = (.ok job, jobs)) :
    (∀ other, (job, other) ∉ state.origins) ∧
      ∀ answer ∈ state.answers, answer.job ≠ some job := by
  have number := Jobs.start_eq_ok begun
  refine ⟨fun other origin => ?_, fun answer member named => ?_⟩
  · exact Nat.ne_of_lt (sound.issued job other origin) number
  · exact Nat.ne_of_lt (sound.answered answer member job named) number

/-- A job that is noted for the first time belongs to one handle. -/
theorem single_cons (sound : state.Sound) (unknown : ∀ other, (job, other) ∉ state.origins)
    {entry one other : Handle} (first : (entry, one) ∈ (job, handle) :: state.origins)
    (second : (entry, other) ∈ (job, handle) :: state.origins) : one = other := by
  rcases List.mem_cons.mp first with new | old
  · cases new
    rcases List.mem_cons.mp second with again | before
    · cases again
      rfl
    · exact absurd before (unknown other)
  · rcases List.mem_cons.mp second with new | before
    · cases new
      exact absurd old (unknown one)
    · exact sound.single entry one other old before

/-- A job that is started is noted with its handle. The registry may change by what the notes ask
for: the new job is on the list of the handle, unless it is cancelled at once. -/
theorem of_start (sound : state.Sound) (jobs : Jobs ω ρ)
    (lists : List (Handle × List Handle)) {ending : ω} {begun : Jobs ω ρ}
    (started : Jobs.start channel ending recipient state.jobs = (.ok job, begun))
    (known : state.holds handle = true ∨ handle ∈ state.freed)
    (orderly : jobs.Orderly) (next : jobs.pending.next = begun.pending.next)
    (pending : ∀ other, jobs.isPending other = true → begun.isPending other = true)
    (listed : ∀ other, ∀ member ∈ (lists.lookup other).getD [],
      member ∈ state.registry.jobsOf other ∨ member = job ∧ other = handle)
    (kept : ∀ other, ∀ member ∈ state.registry.jobsOf other, begun.isPending member = true →
      member ∈ (lists.lookup other).getD [])
    (noted : jobs.isPending job = true → job ∈ (lists.lookup handle).getD [])
    (tidy : ∀ other, ¬ state.holds other = true → lists.lookup other = none) :
    Sound { state with
      registry := { state.registry with jobs := lists }
      jobs := jobs
      origins := (job, handle) :: state.origins } := by
  obtain ⟨unknown, unanswered⟩ := sound.fresh started
  have later : state.jobs.pending.next < jobs.pending.next := by
    have counted := Jobs.next_start state.jobs channel ending recipient
    rw [started] at counted
    rw [next, counted]
    exact Nat.lt_succ_self _
  have former : ∀ other, other.raw.toNat < state.jobs.pending.next →
      begun.isPending other = state.jobs.isPending other := by
    intro other issued
    have same := (Jobs.start_of_issued state.jobs other issued channel ending recipient).1
    rw [started] at same
    exact same
  constructor
  case objects => exact sound.objects
  case jobs => exact orderly
  case issued =>
    intro entry other origin
    rcases List.mem_cons.mp origin with new | old
    · cases new
      exact Jobs.start_eq_ok started ▸ later
    · exact Nat.lt_trans (sound.issued entry other old) later
  case single => exact fun entry one other => sound.single_cons unknown
  case listed =>
    intro other member among
    rcases listed other member among with before | ⟨rfl, rfl⟩
    · exact List.mem_cons_of_mem _ (sound.listed other member before)
    · exact List.mem_cons_self
  case kept =>
    intro entry other origin still
    rcases List.mem_cons.mp origin with new | old
    · cases new
      exact noted still
    · have ready := pending entry still
      have before := former entry (sound.issued entry other old) ▸ ready
      exact kept other entry (sound.kept entry other old before) ready
  case tidy => exact tidy
  case known =>
    intro entry other origin
    rcases List.mem_cons.mp origin with new | old
    · cases new
      exact known
    · exact sound.known entry other old
  case gone => exact sound.gone
  case answered =>
    intro answer member entry named
    exact Nat.lt_trans (sound.answered answer member entry named) later
  case silent =>
    intro answer member entry other named origin
    rcases List.mem_cons.mp origin with new | old
    · cases new
      exact absurd named (unanswered answer member)
    · exact sound.silent answer member entry other named old

/-- A job that is started on an object is put on the list of its handle. -/
theorem started_of_holds (sound : state.Sound) {ending : ω} {jobs : Jobs ω ρ}
    (begun : Jobs.start channel ending recipient state.jobs = (.ok job, jobs))
    (held : state.holds handle = true) :
    (started work channel recipient handle ending state).Sound := by
  have orderly := sound.jobs.start channel ending recipient
  rw [begun] at orderly
  have looked := fun other =>
    CallbackRegistry.lookup_note state.registry handle other job jobs.isPending
  rw [CallbackHost.started_of_holds begun held]
  apply sound.of_start jobs
    (CallbackRegistry.note handle job jobs.isPending state.registry).2.jobs begun (.inl held)
    orderly rfl fun _ => id
  case listed =>
    intro other member among
    rw [looked] at among
    by_cases same : other = handle
    · rw [if_pos same] at among
      rcases List.mem_append.mp among with before | new
      · exact .inl (same ▸ (List.mem_filter.mp before).1)
      · exact .inr ⟨List.mem_singleton.mp new, same⟩
    · rw [if_neg same] at among
      exact .inl among
  case kept =>
    intro other member among pending
    rw [looked]
    by_cases same : other = handle
    · rw [if_pos same]
      exact List.mem_append_left _ (List.mem_filter.mpr ⟨same ▸ among, pending⟩)
    · rw [if_neg same]
      exact among
  case noted =>
    intro _
    rw [looked, if_pos rfl]
    exact List.mem_append_right _ List.mem_cons_self
  case tidy =>
    intro other absent
    have differs : other ≠ handle := by
      intro same
      exact absent (same ▸ held)
    rw [looked, if_neg differs]
    exact sound.tidy other absent

/-- A job that is started on an object whose handle was freed meanwhile is cancelled. -/
theorem started_of_freed (sound : state.Sound) {ending : ω} {jobs : Jobs ω ρ}
    (begun : Jobs.start channel ending recipient state.jobs = (.ok job, jobs))
    (freed : handle ∈ state.freed) :
    (started work channel recipient handle ending state).Sound := by
  have orderly := sound.jobs.start channel ending recipient
  rw [begun] at orderly
  have fewer := fun other => Jobs.isPending_cancel jobs job other
  rw [started_of_not_holds begun (sound.gone handle freed).1]
  apply sound.of_start (Jobs.cancel job jobs).2 state.registry.jobs begun (.inr freed)
    (orderly.cancel job) (Jobs.next_cancel jobs job)
  case pending =>
    intro other pending
    rw [fewer] at pending
    split at pending
    · cases pending
    · exact pending
  case listed => exact fun _ _ => .inl
  case kept => exact fun _ _ among _ => among
  case noted =>
    intro pending
    rw [fewer, if_pos rfl] at pending
    cases pending
  case tidy => exact sound.tidy

/-- Starting the job of a method keeps a host sound, also when the method freed its handle. -/
theorem started (sound : state.Sound)
    (known : state.holds handle = true ∨ handle ∈ state.freed) (ending : ω) :
    (started work channel recipient handle ending state).Sound := by
  rcases begun : Jobs.start channel ending recipient state.jobs with ⟨cause | job, jobs⟩
  · have quiet := Quiet.start state channel ending recipient
    rw [begun] at quiet
    rw [started_of_error begun]
    exact (sound.quiet quiet).quiet (.refuse _ channel recipient cause)
  · rcases known with held | freed
    · exact sound.started_of_holds begun held
    · exact sound.started_of_freed begun freed

/-- A call for work keeps a host sound, if the method does. -/
theorem dispatch (sound : state.Sound) {method : α → StateM (CallbackHost α ω ρ) ω}
    (made : ∀ object, state.registry.get handle = .ok object →
      state.Keeps (method object state).2 ∧ (method object state).2.Sound) :
    (dispatch work channel recipient handle method state).2.Sound := by
  rcases found : state.registry.get handle with cause | object
  · rw [dispatch_of_error found]
    exact sound.quiet (.refuse state channel recipient cause)
  · obtain ⟨keeps, between⟩ := made object found
    rw [dispatch_of_ok found]
    exact between.started (keeps.held handle (holds_of_get found)) _

/-- Running the work of a job keeps a host sound, if the work does. -/
theorem perform (sound : state.Sound)
    (worked : ∀ channel recipient ending,
      state.jobs.find? job = some ⟨channel, recipient, .working ending, false⟩ →
      ((work ending).observe state).2.Sound) :
    (Jobs.perform (host work (some job)) job state).2.Sound := by
  rw [perform_eq]
  split
  case h_2 => exact sound
  case h_1 channel recipient ending unwanted found =>
    cases unwanted with
    | true => exact sound.quiet (.enter state job .aborted)
    | false => exact (worked channel recipient ending found).quiet (.enter _ job _)

end Sound

/-- Whatever the users of a host do, what holds of its tables goes on to hold. -/
theorem Reaches.sound (reached : Reaches work first state) (sound : first.Sound) :
    state.Sound := by
  induction reached with
  | refl state => exact sound
  | register object _ ih => exact (ih sound).of_insert object
  | clone handle _ ih => exact (ih sound).clone handle
  | free handle _ ih => exact (ih sound).free handle
  | dispatch channel recipient handle method _ made ih within =>
      exact (ih sound).dispatch fun object found =>
        ⟨(made object found).keeps, within object found (ih sound)⟩
  | start channel ending recipient _ ih =>
      exact (ih sound).quiet (.start _ channel ending recipient)
  | perform job _ _ ih within =>
      exact (ih sound).perform fun channel recipient ending found =>
        within channel recipient ending found (ih sound)
  | settle job _ ih => exact (ih sound).quiet (.settle _ job)
  | cancel job _ ih => exact (ih sound).quiet (.cancel _ job)
  | elsewhere use _ ih => exact (ih sound).quiet (.elsewhere _ use)

/-! ### What is seen of a handle that is freed -/

/-- A job is not pending, and its callback has not been called since an earlier state. -/
def OverSince (job : Handle) (before after : CallbackHost α ω ρ) : Prop :=
  after.jobs.isPending job = false ∧
    ∃ more, after.answers = before.answers ++ more ∧ ∀ answer ∈ more, answer.job ≠ some job

/-- A handle was issued: it has an object, or had one until it was freed. -/
def Issued (state : CallbackHost α ω ρ) (handle : Handle) : Prop :=
  state.holds handle = true ∨ handle ∈ state.freed

/-- What freeing a handle does, whatever happens next. -/
structure Governs (work : ω → Act (CallbackHost α ω ρ) Lowering Output)
    (state : CallbackHost α ω ρ) : Prop where
  /-- The jobs that were started through the handle end. -/
  ended : ∀ handle later, Reaches work (free handle state).2 later →
    ∀ job, (job, handle) ∈ state.origins → OverSince job (free handle state).2 later
  /-- If the handle had been issued, then this is true of all jobs that are on record for it at any
  later time. A number that was not issued yet is freed without effect, and may be issued later. -/
  closed : ∀ handle later, Reaches work (free handle state).2 later →
    state.Issued handle → ∀ job, (job, handle) ∈ later.origins →
      OverSince job (free handle state).2 later
  /-- A job whose own method freed the handle, when it was asked for the work of the job, is on
  record for the handle only when the method has returned. It is over then, and stays so. -/
  withdrawn : ∀ channel recipient handle method object, state.registry.get handle = .ok object →
    Reaches work state (method object state).2 → handle ∈ (method object state).2.freed →
      ∀ later, Reaches work (dispatch work channel recipient handle method state).2 later →
        ∀ job, (job, handle) ∈ later.origins → OverSince job (method object state).2 later
  /-- No other job is affected. -/
  others : ∀ handle job, (job, handle) ∉ state.origins →
    (free handle state).2.jobs.isPending job = state.jobs.isPending job ∧
      (free handle state).2.jobs.find? job = state.jobs.find? job
  /-- A job that was started through another handle, a clone of this one for instance, is such an
  other job. -/
  single : ∀ job handle other, (job, handle) ∈ state.origins → (job, other) ∈ state.origins →
    handle = other
  /-- Starting a job affects no job that there was when its work was made. -/
  starting : ∀ channel recipient handle method object, state.registry.get handle = .ok object →
    ∀ job, job.raw.toNat < (method object state).2.jobs.pending.next →
      (dispatch work channel recipient handle method state).2.jobs.isPending job =
          (method object state).2.jobs.isPending job ∧
        (dispatch work channel recipient handle method state).2.jobs.find? job =
          (method object state).2.jobs.find? job
  /-- A handle without an object has no list of jobs. -/
  tidy : ∀ handle, state.holds handle = false → state.registry.jobs.lookup handle = none

/-- A job whose handle was freed is over from then on. -/
theorem overSince_of_freed (sound : after.Sound) (keeps : before.Keeps after)
    (freed : handle ∈ before.freed) (origin : (job, handle) ∈ after.origins) :
    OverSince job before after := by
  obtain ⟨more, called, seen⟩ := keeps.answers
  refine ⟨sound.not_isPending_of_freed origin (keeps.freed freed), more, called, ?_⟩
  intro answer member named
  have among : answer ∈ after.answers := called ▸ List.mem_append_right _ member
  exact sound.silent answer among job handle named origin (seen answer member freed)

/-- A handle that was issued is among those that were freed when it is freed. -/
theorem mem_freed_free (issued : state.Issued handle) :
    handle ∈ (free handle state).2.freed := by
  rcases issued with held | freed
  · rw [free_eq]
    simp only [held, ↓reduceIte, List.mem_cons_self]
  · exact (Keeps.free handle state).freed freed

/-- Starting a job leaves those alone that have handles. -/
theorem started_of_issued (issued : job.raw.toNat < state.jobs.pending.next) (channel : Channel)
    (recipient : ρ) (handle : Handle) (ending : ω) :
    (started work channel recipient handle ending state).jobs.isPending job =
        state.jobs.isPending job ∧
      (started work channel recipient handle ending state).jobs.find? job =
        state.jobs.find? job := by
  obtain ⟨pending, found, -⟩ :=
    Jobs.start_of_issued state.jobs job issued channel ending recipient
  rcases begun : Jobs.start channel ending recipient state.jobs with ⟨cause | fresh, jobs⟩
  · rw [begun] at pending found
    rw [started_of_error begun]
    exact ⟨pending, found⟩
  · rw [begun] at pending found
    by_cases held : state.holds handle = true
    · rw [started_of_holds begun held]
      exact ⟨pending, found⟩
    · have differs : job ≠ fresh := by
        intro same
        exact Nat.ne_of_lt issued (same ▸ Jobs.start_eq_ok begun)
      rw [started_of_not_holds begun held]
      change (Jobs.cancel fresh jobs).2.isPending job = _ ∧ (Jobs.cancel fresh jobs).2.find? job = _
      rw [Jobs.isPending_cancel, Jobs.find?_cancel, if_neg differs, if_neg differs]
      exact ⟨pending, found⟩

/-- The work of every job yields nothing. -/
def idle : Unit → Act (CallbackHost Unit Unit Unit) Lowering Output := fun _ => return .void

/-- An object has two handles, and a job is started through each of them. -/
def shared : CallbackHost Unit Unit Unit :=
  let opened : CallbackHost Unit Unit Unit := (onPart (CallbackRegistry.register ())
    (⟨.named "Sink", .empty, .empty, [], [], []⟩ : CallbackHost Unit Unit Unit)).2
  let cloned := (onPart (CallbackRegistry.cloneHandle ⟨1⟩ : StateM (CallbackRegistry Unit) _)
    opened).2
  let begun := (dispatch idle .void () ⟨1⟩ (fun _ => return) cloned).2
  (dispatch idle .void () ⟨2⟩ (fun _ => return) begun).2

/-- The first handle is freed by the method of a third job. -/
def withdrawn : CallbackHost Unit Unit Unit :=
  (dispatch idle .void () ⟨1⟩ (fun _ => free ⟨1⟩) shared).2

end CallbackHost

end Boundary
