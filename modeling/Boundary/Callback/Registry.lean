import Boundary.Call.Envelope
import Boundary.Handle.Table

/-!
# Registries of host objects

The host keeps the objects that the core calls back, under handles that it passes to the core.  The
registry remembers which jobs were started through which handle: when a handle is freed, they are
cancelled.  Jobs that were started through other handles of the same object go on.

Starting and cancelling jobs is up to the user of the registry, as is telling which are pending.
-/

namespace Boundary

/-- The objects of one callback interface, and the jobs started through their handles. -/
structure CallbackRegistry (α : Type) where
  objects : Table α
  jobs : List (Handle × List Handle)

namespace CallbackRegistry

variable {α : Type}

/-- A registry without objects. -/
def named (interface : String) : CallbackRegistry α := ⟨Table.named interface, []⟩

/-- Registers an object under a new handle. -/
def register (object : α) : StateM (CallbackRegistry α) (Except HandleError Handle) :=
  fun registry =>
    let (issued, objects) := registry.objects.insert object
    (issued, { registry with objects := objects })

/-- The object under a handle. -/
def get (registry : CallbackRegistry α) (handle : Handle) : Except HandleError α :=
  registry.objects.get handle

/-- Issues another handle for the object under a handle; the null handle if there is none. -/
def cloneHandle (handle : Handle) : StateM (CallbackRegistry α) Handle := fun registry =>
  match registry.objects.cloneHandle handle with
  | (.ok issued, objects) => (issued, { registry with objects := objects })
  | (.error _, objects) => (Handle.null, { registry with objects := objects })

/-- The jobs started through a handle. -/
def jobsOf (registry : CallbackRegistry α) (handle : Handle) : List Handle :=
  (registry.jobs.lookup handle).getD []

/-- Removes the object under a handle, and yields the jobs that are to be cancelled with it. -/
def remove (handle : Handle) : StateM (CallbackRegistry α) (List Handle) := fun registry =>
  (registry.jobsOf handle,
    ⟨registry.objects.erase handle, registry.jobs.filter fun entry => entry.1 != handle⟩)

/-- Notes a job that was started through a handle, and forgets those that are not pending. -/
def note (handle job : Handle) (isPending : Handle → Bool) : StateM (CallbackRegistry α) Unit :=
  modify fun registry =>
    { registry with
      jobs := (handle, (registry.jobsOf handle).filter isPending ++ [job]) ::
        registry.jobs.filter fun entry => entry.1 != handle }

/-- The number of handles that are registered. -/
def size (registry : CallbackRegistry α) : Nat := registry.objects.size

/-- The registry in diagnostic output. -/
def debugText (registry : CallbackRegistry α) : String :=
  s!"CallbackRegistry \x7b objects: {registry.objects.debugText} \x7d"

variable {σ τ : Type} [Part σ (CallbackRegistry α)] [Part σ Ledger]

/-- Runs a method on the object under a handle.  If there is none, the call panics, and what it was
to return stays as it was. -/
def dispatch (handle : Handle) (untouched : τ) (method : α → StateM σ (τ × Status)) :
    StateM σ (τ × Status) := do
  match (Part.get (← getThe σ) : CallbackRegistry α).get handle with
  | .ok object => method object
  | .error cause => return (untouched, ← onPart (Status.panic cause.message))

/-- Frees a handle: its object is removed and the jobs started through it are cancelled. -/
def free (α : Type) [Part σ (CallbackRegistry α)] (cancel : Handle → StateM σ Unit)
    (handle : Handle) : StateM σ Unit := do
  let jobs ← onPart (remove handle : StateM (CallbackRegistry α) _)
  jobs.forM cancel

end CallbackRegistry

/-- How the user of a registry starts and cancels a job; `ω` describes the work. -/
structure JobKeeper (σ ω : Type) where
  launch : ω → StateM σ (Except HandleError Handle)
  /-- Reports that a job could not start. -/
  refuse : HandleError → StateM σ Unit
  isPending : σ → Handle → Bool
  cancel : Handle → StateM σ Unit

namespace CallbackRegistry

variable {σ α ω : Type} [Part σ (CallbackRegistry α)]

/-- Starts a job on the object under a handle, and yields its handle; the null handle if the job
could not start.  The method that makes the work of the object may use the registry.  Should the
handle be freed meanwhile, the job is cancelled as soon as it is started. -/
def dispatchJob (keeper : JobKeeper σ ω) (handle : Handle) (method : α → StateM σ ω) :
    StateM σ Handle := do
  let refused (cause : HandleError) : StateM σ Handle := do
    keeper.refuse cause
    return Handle.null
  match (Part.get (← getThe σ) : CallbackRegistry α).get handle with
  | .error cause => refused cause
  | .ok object =>
    match ← keeper.launch (← method object) with
    | .error cause => refused cause
    | .ok job =>
      let state ← getThe σ
      if (Part.get state : CallbackRegistry α).objects.contains handle then
        onPart (note handle job (keeper.isPending state) : StateM (CallbackRegistry α) Unit)
      else keeper.cancel job
      return job

end CallbackRegistry

end Boundary
