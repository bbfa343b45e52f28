import Boundary.Future.Registry
import Boundary.NameMap
import Boundary.Session.Reply

/-!
# A session with futures

A host that starts futures and drives them step by step.  The host can prepare reactions: steps that
it takes from within the continuation of a certain data, once, as soon as that is resumed.  Since
every reaction is taken once, reactions nest no deeper than there are reactions.
-/

namespace Boundary

/-- A future of the session, by its name or by any number. -/
inductive FutureTarget where
  | name (name : String)
  | handle (handle : Handle)

/-- The actions of the host. -/
inductive FutureStep where
  | spawn (name : String) (work : Work)
  | poll (target : FutureTarget) (data : UInt64)
  | complete (target : FutureTarget)
  | cancel (target : FutureTarget)
  | free (target : FutureTarget)
  | size
  /-- Uses the waker that the work kept. -/
  | wake (name : String)
  /-- Uses up the waker that the work kept. -/
  | wakeOwned (name : String)
  | dropWaker (name : String)

/-- What is observed between the host and the registry. -/
inductive FutureEvent where
  | polled (label : String)
  | dropped (label : String)
  | signal (data : UInt64) (code : PollCode)
  /-- A step of a reaction, its answer, and how many futures there were afterwards. -/
  | nested (step : FutureStep) (answer : Reply Empty) (size : Nat)

/-- A registry with its host. -/
structure FutureSession where
  futures : Futures
  names : NameMap Handle
  reactions : List (UInt64 × List FutureStep)
  log : List FutureEvent

namespace FutureSession

instance : Part FutureSession Futures where
  get session := session.futures
  set futures session := { session with futures := futures }
  get_set _ _ := rfl
  set_get _ := rfl
  set_set _ _ _ := rfl

instance : Part FutureSession Ledger :=
  Part.within (inferInstance : Part FutureSession Futures) (inferInstance : Part Futures Ledger)

/-- A registry without futures, and the reactions that its host prepared. -/
def start (registry : String) (channel : Channel) (reactions : List (UInt64 × List FutureStep)) :
    FutureSession :=
  ⟨Futures.named registry channel, [], reactions, []⟩

/-- Adds to the log. -/
def record (event : FutureEvent) : StateM FutureSession Unit :=
  modify fun session => { session with log := session.log ++ [event] }

/-- Takes the log. -/
def takeLog : StateM FutureSession (List FutureEvent) := fun session =>
  (session.log, { session with log := [] })

/-- Takes the reaction to a data. -/
def takeReaction (data : UInt64) : StateM FutureSession (List FutureStep) := fun session =>
  ((session.reactions.lookup data).getD [],
    { session with reactions := session.reactions.filter fun reaction => reaction.1 != data })

/-- The handle of a future; the null handle for a name that was not given. -/
def resolve : FutureTarget → StateM FutureSession Handle
  | .name name => do return ((← get).names.get? name).getD Handle.null
  | .handle handle => return handle

/-- Uses the waker of a future, if its work kept one. -/
def useWaker (name : String) (use : Handle → StateM FutureSession Unit) :
    StateM FutureSession (Reply Empty) := do
  let handle ← resolve (.name name)
  if ← Futures.hasWaker handle then
    use handle
    return .done
  else
    return .text "no waker"

/-- Takes one step, in which continuations are resumed by the given host. -/
def perform (host : FutureHost FutureSession) : FutureStep → StateM FutureSession (Reply Empty)
  | .spawn name work => do
    match ← onPart (Futures.spawn work) with
    | .error cause => return .failed (.handle cause)
    | .ok handle =>
      modify fun session => { session with names := session.names.insert name handle }
      return .handle handle
  | .poll target data => do
    Futures.poll host (← resolve target) data
    return .done
  | .complete target => do
    let (result, status) ← onPart (Futures.complete (← resolve target))
    return .returned result status
  | .cancel target => do
    Futures.cancel host (← resolve target)
    return .done
  | .free target => do
    Futures.free host (← resolve target)
    return .done
  | .size => do return .count (← get).futures.size
  | .wake name => useWaker name (Futures.wake host)
  | .wakeOwned name => useWaker name fun handle => do
    Futures.dropWaker handle
    Futures.wake host handle
  | .dropWaker name => useWaker name Futures.dropWaker

/-- The host, for reactions that nest no deeper than `depth`. -/
def host : (depth : Nat) → FutureHost FutureSession
  | 0 => ⟨fun label => record (.polled label), fun label => record (.dropped label),
      fun data code => record (.signal data code)⟩
  | depth + 1 => ⟨fun label => record (.polled label), fun label => record (.dropped label),
      fun data code => do
        record (.signal data code)
        (← takeReaction data).forM fun step => do
          let answer ← perform (host depth) step
          record (.nested step answer (← get).futures.size)⟩

/-- Takes one step. -/
def step (step : FutureStep) : StateM FutureSession (Reply Empty) := do
  perform (host (← get).reactions.length) step

end FutureSession

end Boundary
