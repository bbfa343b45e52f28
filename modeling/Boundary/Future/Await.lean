import Boundary.Call.Caller
import Boundary.Future.Slot
import Boundary.Handle.Promise

/-!
# Awaiting a future of the core

The host drives a future of the core with four entry points.  Each poll comes with a continuation,
which is a promise of a poll code; its handle is the poll's data.  The callback keeps the promise
and so resumes the await; an await that is dropped forgets it.

An await is a state that advances in single steps, so that it can be dropped wherever it is
suspended.  However it ends, it frees the future; it cancels the future before, unless it fetched
the result.
-/

namespace Boundary

/-- The entry points of a core for the futures of one return type. -/
structure FutureEntryPoints (σ τ : Type) where
  poll : Handle → (data : UInt64) → StateM σ Unit
  complete : Handle → EntryPoint σ τ
  cancel : Handle → StateM σ Unit
  free : Handle → StateM σ Unit

/-- The continuations of a host: promises of poll codes, known or not. -/
abbrev Continuations := Promises Unit Int

/-- No continuation was left anywhere. -/
def Continuations.empty : Continuations := Promises.named "continuations"

/-- The callback of every poll.  Only the first call for a continuation has an effect. -/
def Continuations.resume (data : UInt64) (code : Int) : StateM Continuations Unit :=
  Promises.keep ⟨data⟩ code

/-- How far an await has come. -/
inductive Await where
  /-- The future was not touched yet. -/
  | unpolled (future : Handle)
  /-- The future is to be polled next. -/
  | polling (future : Handle)
  /-- The future was polled and the await is suspended until its continuation is resumed. -/
  | parked (future continuation : Handle)
  | ended
  deriving DecidableEq, Repr

/-- What a single step of an await leads to. -/
inductive Advance (ε τ : Type) where
  | next (await : Await)
  | suspended
  | ended (outcome : Outcome (CallError ε) τ)

namespace Await

variable {σ ε τ : Type} [Part σ Ledger] [Part σ Continuations]
variable (caller : Caller σ) (points : FutureEntryPoints σ τ) (declared : Read ε)

/-- Cancels and frees a future whose result was not fetched. -/
def giveUp (future : Handle) : StateM σ Unit := do
  points.cancel future
  points.free future

/-- Ends an await without a result. -/
def failWith (future : Handle) (cause : Error) : StateM σ (Advance ε τ) := do
  giveUp points future
  return .ended (.error (.error (.internal cause)))

/-- Fetches the result and frees the future. -/
def fetch (future : Handle) : StateM σ (Advance ε τ) := do
  let outcome ← (caller.call declared (points.complete future)).observe
  points.free future
  return .ended outcome

/-- Takes a single step. -/
def advance : Await → StateM σ (Advance ε τ)
  | unpolled future =>
    if future.isValid then return .next (.polling future)
    else
      return .ended (.error (.error
        (.internal (.protocol s!"invalid future handle {future.raw.toNat}"))))
  | polling future => do
    match ← onPart (Promises.make () : StateM Continuations _) with
    | .error cause => failWith points future (.handle cause)
    | .ok continuation =>
      points.poll future continuation.raw
      return .next (.parked future continuation)
  | parked future continuation => do
    match (Part.get (← get) : Continuations).status continuation with
    | .waiting => return .suspended
    | .broken => failWith points future (.protocol "continuation dropped unresumed")
    | .kept code =>
      onPart (Promises.forget continuation : StateM Continuations _)
      match PollCode.ofNumber? code with
      | some .ready => fetch caller points declared future
      | some .wake => return .next (.polling future)
      | none => failWith points future (.protocol s!"unknown poll code {code}")
  | ended => return .suspended

/-- Takes steps until the await is suspended or has ended, but no more than `fuel` of them. -/
def run : (fuel : Nat) → Await → StateM σ (Await × Option (Outcome (CallError ε) τ))
  | 0, await => return (await, none)
  | fuel + 1, await => do
    match ← advance caller points declared await with
    | .next await => run fuel await
    | .suspended => return (await, none)
    | .ended outcome => return (ended, some outcome)

/-- Drops an await.  One that never began leaves the future alone. -/
def drop : Await → StateM σ Unit
  | parked future continuation => do
    onPart (Promises.forget continuation : StateM Continuations _)
    giveUp points future
  | polling future => giveUp points future
  | unpolled _ | ended => return

end Await

end Boundary
