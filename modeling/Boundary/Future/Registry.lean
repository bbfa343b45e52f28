import Boundary.Call.Envelope
import Boundary.Future.Slot
import Boundary.Handle.Table

/-!
# Futures of the core

The core does not run its futures by itself: each poll of the host runs a future once.  When it is
not finished, the host's continuation is stored and resumed by the future's waker.  The result is
fetched with a separate call, once.

The work of a future is described by what it does each time it is run: it pauses a number of times,
each time keeping the waker or not and waking itself a number of times, and then it ends.
`FutureHost` is what happens outside of the registry: the work is observed, and continuations are
resumed, which may call back into the registry.
-/

namespace Boundary

/-- What work does when it is run and does not end. -/
structure Pause where
  /-- Whether the waker is kept, so that it can be used later. -/
  keepsWaker : Bool
  /-- How many times the work wakes itself before it pauses. -/
  wakes : Nat
  deriving DecidableEq, Repr

/-- The work of a future. -/
structure Work where
  label : String
  pauses : List Pause
  ending : Act Ledger Lowering Output
  /-- Whether the work uses the waker it kept, if any, when it is dropped. -/
  wakesOnDrop : Bool

/-- How far a future has come. -/
inductive Progress where
  | running (work : Work)
  | finished (result : Except Lowering Output)
  | panicked (message : String)
  /-- The result was fetched or discarded. -/
  | consumed

/-- A future of the core. -/
structure CoreFuture where
  progress : Progress
  slot : Slot

/-- A registry of futures whose results cross through one channel. -/
structure Futures where
  ledger : Ledger
  channel : Channel
  table : Table CoreFuture
  /-- The futures whose work kept its waker. -/
  wakers : List Handle

instance : Part Futures Ledger where
  get futures := futures.ledger
  set ledger futures := { futures with ledger := ledger }
  get_set _ _ := rfl
  set_get _ := rfl
  set_set _ _ _ := rfl

/-- What is outside of the registry. -/
structure FutureHost (σ : Type) where
  /-- The work of this label is run. -/
  polled : (label : String) → StateM σ Unit
  /-- The work of this label is dropped. -/
  dropped : (label : String) → StateM σ Unit
  /-- The continuation of this data is resumed. -/
  resume : (data : UInt64) → PollCode → StateM σ Unit

/-- The name of the one registry that a core has for the results of a channel. -/
def Channel.registryName : Channel → String
  | void => "FUTURES_VOID"
  | word type => "FUTURES_" ++ type.name.toUpper
  | buffer => "FUTURES_BUFFER"

namespace Futures

/-- A registry that has started no future. -/
def named (name : String) (channel : Channel) : Futures :=
  ⟨Ledger.empty, channel, Table.named name, []⟩

/-- Starts a future. -/
def spawn (work : Work) : StateM Futures (Except HandleError Handle) := fun futures =>
  let (issued, table) := futures.table.insert ⟨.running work, .empty⟩
  (issued, { futures with table := table })

/-- Changes a future that is in the registry. -/
def update (handle : Handle) (change : CoreFuture → CoreFuture) : StateM Futures Unit :=
  modify fun futures => { futures with table := futures.table.update handle change }

/-- Fetches the result of a future. -/
def complete (handle : Handle) : StateM Futures (Passed × Status) := do
  let futures ← get
  let refuse (message : String) : StateM Futures (Passed × Status) := do
    return (futures.channel.placeholder, ← onPart (Status.panic message))
  match futures.table.get handle with
  | .error cause => refuse cause.message
  | .ok future =>
    if future.slot.isCancelled then return (futures.channel.placeholder, Status.cancelled)
    match future.progress with
    | .running _ => refuse "complete called before the future was ready"
    | .consumed => refuse "future result was already taken"
    | .panicked message =>
      update handle fun future => { future with progress := .consumed }
      refuse message
    | .finished result =>
      update handle fun future => { future with progress := .consumed }
      Envelope.outputOrError futures.channel (Act.ofExcept result)

/-- The number of futures that were started and not freed. -/
def size (futures : Futures) : Nat := futures.table.size

variable {σ : Type} [Part σ Futures] (host : FutureHost σ)

/-- The registry within the state. -/
def current : StateM σ Futures := do return Part.get (← get)

/-- Lets the slot of a future decide, and resumes the continuation it decides on.  A future that is
no longer in the registry was cancelled. -/
def decide (handle : Handle) (decision : Slot → Option Signal × Slot) : StateM σ Unit := do
  match (← current).table.find? handle with
  | none => pure ()
  | some future =>
    let (signal, slot) := decision future.slot
    onPart (update handle fun future => { future with slot := slot })
    match signal with
    | some signal => host.resume signal.data signal.code
    | none => pure ()

/-- Wakes a future. -/
def wake (handle : Handle) : StateM σ Unit := decide host handle Slot.wake

/-- Whether the work of a future kept its waker. -/
def hasWaker (handle : Handle) : StateM σ Bool := do
  return (← current).wakers.contains handle

/-- Keeps the waker of a future. -/
def keepWaker (handle : Handle) : StateM σ Unit :=
  onPart (modify fun futures =>
    { futures with wakers := handle :: futures.wakers.filter (· != handle) } : StateM Futures Unit)

/-- Forgets the waker of a future. -/
def dropWaker (handle : Handle) : StateM σ Unit :=
  onPart (modify fun futures =>
    { futures with wakers := futures.wakers.filter (· != handle) } : StateM Futures Unit)

/-- Drops the work of a future. -/
def dropWork (handle : Handle) (work : Work) : StateM σ Unit := do
  host.dropped work.label
  if work.wakesOnDrop then
    if ← hasWaker handle then
      dropWaker handle
      wake host handle

/-- Resumes the continuation of a poll that found the future finished, unless the future was
cancelled. -/
def signalReady (handle : Handle) (data : UInt64) : StateM σ Unit :=
  decide host handle fun slot =>
    (if slot.isCancelled then none else some ⟨data, .ready⟩, slot)

/-- Runs the work of a future once and leaves a continuation if it does not end. -/
def poll (handle : Handle) (data : UInt64) : StateM σ Unit := do
  match (← current).table.find? handle with
  | none => pure ()
  | some future =>
    if future.slot.isCancelled then return
    match future.progress with
    | .running work =>
      host.polled work.label
      match work.pauses with
      | pause :: rest =>
        onPart (update handle fun future =>
          { future with progress := .running { work with pauses := rest } })
        if pause.keepsWaker then keepWaker handle
        (List.replicate pause.wakes handle).forM (wake host)
        decide host handle (Slot.store data)
      | [] =>
        let ended ← onPart (onPart work.ending.observe : StateM Futures _)
        let progress : Progress := match ended with
          | .ok output => .finished (.ok output)
          | .error (.error declared) => .finished (.error declared)
          | .error (.panic payload) => .panicked payload.message
        onPart (update handle fun future => { future with progress := progress })
        dropWork host handle work
        signalReady host handle data
    | _ => signalReady host handle data

/-- Discards what a future came to. -/
def discard (handle : Handle) (progress : Progress) : StateM σ Unit :=
  match progress with
  | .running work => dropWork host handle work
  | _ => pure ()

/-- Cancels a future: nothing is resumed any more, and its result is discarded. -/
def cancel (handle : Handle) : StateM σ Unit := do
  match (← current).table.find? handle with
  | none => pure ()
  | some future =>
    if future.slot.isCancelled then return
    onPart (update handle fun _ => ⟨.consumed, .cancelled⟩)
    discard host handle future.progress

/-- Removes a future from the registry, and cancels it. -/
def free (handle : Handle) : StateM σ Unit := do
  match (← current).table.find? handle with
  | none => pure ()
  | some future =>
    onPart (modify fun futures =>
      { futures with table := futures.table.erase handle } : StateM Futures Unit)
    if future.slot.isCancelled then return
    discard host handle future.progress

end Futures

end Boundary
