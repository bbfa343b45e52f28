import Boundary.Future.Await
import Boundary.Future.Registry
import Boundary.Session.Reply

/-!
# A session with an await

A host that awaits one future of a core in the same process, step by step.  The poll entry point can
be replaced by one that resumes continuations as it likes, or keeps them for later.
-/

namespace Boundary

/-- What the poll entry point does. -/
inductive PollConduct where
  /-- It polls the future. -/
  | faithful
  /-- It resumes the continuation with each of the codes. -/
  | resumes (codes : List Int)
  /-- It keeps the continuation. -/
  | keeps
  deriving DecidableEq, Repr

/-- The actions of the host. -/
inductive AwaitStep where
  | poll
  | drop
  /-- Uses the waker that the work kept. -/
  | wake
  | conduct (conduct : PollConduct)
  /-- Resumes the continuation that the poll entry point kept. -/
  | resume (code : Int)

/-- What is observed between the host and the core. -/
inductive AwaitEvent where
  /-- An entry point of this name was called. -/
  | called (name : String)
  | polled (label : String)
  | dropped (label : String)

/-- A core and a host that awaits one of its futures. -/
structure AwaitSession where
  futures : Futures
  continuations : Continuations
  await : Await
  /-- The future that was started, if any. -/
  started : Option Handle
  conduct : PollConduct
  /-- The data of the continuation that the poll entry point kept last. -/
  kept : Option UInt64
  log : List AwaitEvent

namespace AwaitSession

instance : Part AwaitSession Futures where
  get session := session.futures
  set futures session := { session with futures := futures }
  get_set _ _ := rfl
  set_get _ := rfl
  set_set _ _ _ := rfl

instance : Part AwaitSession Ledger :=
  Part.within (inferInstance : Part AwaitSession Futures) (inferInstance : Part Futures Ledger)

instance : Part AwaitSession Continuations where
  get session := session.continuations
  set continuations session := { session with continuations := continuations }
  get_set _ _ := rfl
  set_get _ := rfl
  set_set _ _ _ := rfl

/-- A core without futures, and a host that is to await the future under a handle. -/
def start (registry : String) (channel : Channel) (conduct : PollConduct) (future : Handle) :
    AwaitSession :=
  ⟨Futures.named registry channel, Continuations.empty, .unpolled future, none, conduct, none, []⟩

/-- Starts the future that is to be awaited. -/
def spawn (work : Work) : StateM AwaitSession Unit := do
  match ← onPart (Futures.spawn work) with
  | .error _ => return
  | .ok handle =>
    modify fun session => { session with await := .unpolled handle, started := some handle }

/-- Adds to the log. -/
def record (event : AwaitEvent) : StateM AwaitSession Unit :=
  modify fun session => { session with log := session.log ++ [event] }

/-- Takes the log. -/
def takeLog : StateM AwaitSession (List AwaitEvent) := fun session =>
  (session.log, { session with log := [] })

/-- Calls back with a poll code. -/
def resume (data : UInt64) (code : Int) : StateM AwaitSession Unit :=
  onPart (Continuations.resume data code)

/-- The host, as the futures see it. -/
def host : FutureHost AwaitSession where
  polled label := record (.polled label)
  dropped label := record (.dropped label)
  resume data code := resume data code.number

/-- The poll entry point. -/
def poll (future : Handle) (data : UInt64) : StateM AwaitSession Unit := do
  record (.called "poll")
  match (← get).conduct with
  | .faithful => Futures.poll host future data
  | .resumes codes => codes.forM (resume data)
  | .keeps => modify fun session => { session with kept := some data }

/-- The entry point that fetches the result. -/
def complete (future : Handle) : StateM AwaitSession (Passed × Status) := do
  record (.called "complete")
  onPart (Futures.complete future)

/-- The entry points of the core. -/
def points : FutureEntryPoints AwaitSession Passed where
  poll := poll
  complete := complete
  cancel future := do
    record (.called "cancel")
    Futures.cancel host future
  free future := do
    record (.called "free")
    Futures.free host future

/-- The number of steps that suffice for an await to be suspended or to end, if the poll entry point
is faithful: two for every time that the work is still run, and one to begin. -/
def fuel (session : AwaitSession) : Nat :=
  match session.started.bind session.futures.table.find? with
  | some ⟨.running work, _⟩ => 2 * work.pauses.length + 8
  | _ => 8

/-- Advances the await as far as it gets. -/
def advance {ε : Type} (declared : Read ε) : StateM AwaitSession (Reply ε) := do
  let session ← get
  if session.await = .ended then return .gone
  let (await, outcome) ← session.await.run Caller.inProcess points declared session.fuel
  modify fun session => { session with await := await }
  match outcome with
  | none => return .pending
  | some outcome => return Reply.ofCall .passed outcome

/-- Drops the await. -/
def abandon : StateM AwaitSession Unit := do
  (← get).await.drop points
  modify fun session => { session with await := .ended }

/-- Takes one step. -/
def step {ε : Type} (declared : Read ε) : AwaitStep → StateM AwaitSession (Reply ε)
  | .poll => advance declared
  | .drop => do
    abandon
    return .done
  | .wake => do
    let future := ((← get).started).getD Handle.null
    if ← Futures.hasWaker future then
      Futures.wake host future
      return .flag true
    else
      return .flag false
  | .conduct conduct => do
    modify fun session => { session with conduct := conduct }
    return .done
  | .resume code => do
    match (← get).kept with
    | none => return .done
    | some data =>
      resume data code
      return .done

/-- Whether the core still knows the future that was to be awaited. -/
def knows (session : AwaitSession) (future : Handle) : Bool :=
  session.futures.table.contains future

end AwaitSession

end Boundary
