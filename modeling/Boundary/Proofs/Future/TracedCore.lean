import Boundary.Proofs.Future.CallEvents
import Boundary.Proofs.Handle.Promise

/-! # How things stand with any core

Nothing is known of the core. While one of its entry points runs, and at any other time, it may call
back with data of polls or with other data and with any codes, and other awaits of the host may
make and forget continuations of their own (`Boundary.ForeignCore`, `Boundary.Interference`).

In every phase of the events of a future it is known what is registered for its polls
(`Boundary.TracedCore.Stands`). Whatever happens can at most answer the latest poll
(`Boundary.TracedCore.Stands.interfere`).
-/

namespace Boundary

/-- What happens to the continuations of a host, other than through the await that is looked at. -/
inductive Interference where
  /-- The core calls back. -/
  | callback (data : UInt64) (code : Int)
  /-- Another await registers a continuation. -/
  | opened
  /-- Another await is done with a continuation. -/
  | left (data : UInt64)

/-- What an entry point does, and what happens while it runs. -/
abbrev EntryRun (κ α : Type) := StateM κ (α × List Interference)

/-- The entry points of a core, for futures of one return type and for buffers. -/
structure ForeignCore (κ τ : Type) where
  poll : Handle → (data : UInt64) → EntryRun κ Unit
  complete : Handle → EntryRun κ (τ × Status)
  cancel : Handle → EntryRun κ Unit
  free : Handle → EntryRun κ Unit
  allocate : (size : Nat) → EntryRun κ (Buffer × Status)
  fromBytes : ForeignBytes → EntryRun κ (Buffer × Status)
  freeBuffer : Buffer → EntryRun κ (Unit × Status)
  reserve : Buffer → (additional : Nat) → EntryRun κ (Buffer × Status)

/-- A core, the continuations of the host, and what passed between the await and the core. -/
structure TracedCore (κ : Type) where
  core : κ
  continuations : Continuations
  events : List CallEvent

namespace TracedCore

variable {κ τ α : Type}

instance [Part κ Ledger] : Part (TracedCore κ) Ledger where
  get traced := Part.get traced.core
  set ledger traced := { traced with core := Part.set ledger traced.core }
  get_set ledger traced := Part.get_set ledger traced.core
  set_get traced := by rw [Part.set_get]
  set_set new old traced := by rw [Part.set_set]

instance : Part (TracedCore κ) Continuations where
  get traced := traced.continuations
  set continuations traced := { traced with continuations := continuations }
  get_set _ _ := rfl
  set_get _ := rfl
  set_set _ _ _ := rfl

/-- The data of the polls that were made. -/
def polled (traced : TracedCore κ) : List UInt64 := CallEvent.polled traced.events

/-- Adds to the events. -/
def record (event : CallEvent) (traced : TracedCore κ) : TracedCore κ :=
  { traced with events := traced.events ++ [event] }

/-- What a single thing that happens changes. A callback resumes the continuation that it carries,
if there is one; other awaits forget no continuations but their own. -/
def interfere (traced : TracedCore κ) : Interference → TracedCore κ
  | .callback data code =>
    { traced with
      continuations := (Continuations.resume data code traced.continuations).2
      events := traced.events ++
        [.callback data code (traced.continuations.isOpen ⟨data⟩)] }
  | .opened => { traced with continuations := (Promises.make () traced.continuations).2 }
  | .left data =>
    if data ∈ traced.polled then traced
    else { traced with continuations := (Promises.forget ⟨data⟩ traced.continuations).2 }

/-- Runs an entry point, with what happens meanwhile. -/
def runEntry (entry : EntryRun κ α) : StateM (TracedCore κ) α := fun traced =>
  let ((value, interferences), core) := entry traced.core
  (value, interferences.foldl interfere { traced with core := core })

/-- Calls an entry point for futures. -/
def call (made : FutureCall) (entry : EntryRun κ α) : StateM (TracedCore κ) α := fun traced =>
  runEntry entry (traced.record (.called made))

variable (foreign : ForeignCore κ τ)

/-- The entry points for futures. -/
def points : FutureEntryPoints (TracedCore κ) τ where
  poll future data := call (.poll future data) (foreign.poll future data)
  complete future := call (.complete future) (foreign.complete future)
  cancel future := call (.cancel future) (foreign.cancel future)
  free future := call (.free future) (foreign.free future)

/-- The caller that knows the entry points for buffers. -/
def caller : Caller (TracedCore κ) where
  allocate size := runEntry (foreign.allocate size)
  fromBytes view := runEntry (foreign.fromBytes view)
  free buffer := runEntry (foreign.freeBuffer buffer)
  reserve buffer additional := runEntry (foreign.reserve buffer additional)

end TracedCore

/-- Whether the continuation of a poll is to be registered. -/
def AwaitPhase.awaits (data : UInt64) : AwaitPhase → Bool
  | .waiting awaited => awaited = data
  | _ => false

/-- The code that the continuation of a poll was resumed with, as long as nobody took it. -/
def AwaitPhase.code? (data : UInt64) : AwaitPhase → Option Int
  | .answered awaited code => if awaited = data then some code else none
  | _ => none

/-- Only a phase of waiting awaits a continuation. -/
theorem AwaitPhase.awaits_of_ne_waiting {data : UInt64} {phase : AwaitPhase}
    (others : phase ≠ .waiting data) : phase.awaits data = false := by
  cases phase with
  | waiting awaited =>
      have differs : awaited ≠ data := by
        intro same
        exact others (same ▸ rfl)
      exact decide_eq_false differs
  | ready | answered | fetching | leaving | closing | closed => rfl

/-- No poll is waited for, and there is no code to be taken. -/
def AwaitPhase.isSettled : AwaitPhase → Bool
  | .waiting _ | .answered .. => false
  | _ => true

theorem AwaitPhase.awaits_of_isSettled {phase : AwaitPhase} (settled : phase.isSettled = true)
    (data : UInt64) : phase.awaits data = false := by
  cases phase with
  | waiting => cases settled
  | ready | answered | fetching | leaving | closing | closed => rfl

theorem AwaitPhase.code?_of_isSettled {phase : AwaitPhase} (settled : phase.isSettled = true)
    (data : UInt64) : phase.code? data = none := by
  cases phase with
  | answered => cases settled
  | ready | waiting | fetching | leaving | closing | closed => rfl

/-- The phase that a callback may lead to. -/
def AwaitPhase.Hears (phase after : AwaitPhase) : Prop :=
  after = phase ∨ ∃ data code, phase = .waiting data ∧ after = .answered data code

/-- What callbacks lead to in two steps they lead to. -/
theorem AwaitPhase.Hears.trans {first second third : AwaitPhase} (sooner : first.Hears second)
    (later : second.Hears third) : first.Hears third := by
  rcases later with rfl | ⟨data, code, rfl, rfl⟩
  · exact sooner
  · rcases sooner with rfl | ⟨earlier, answer, rfl, same⟩
    · exact .inr ⟨data, code, rfl, rfl⟩
    · cases same

namespace TracedCore

variable {κ τ α : Type} {future : Handle} {phase : AwaitPhase} {traced : TracedCore κ}

theorem polled_callback (traced : TracedCore κ) (data : UInt64) (code : Int) :
    (traced.interfere (.callback data code)).polled = traced.polled :=
  CallEvent.polled_append_of_none traced.events (.callback data code _) rfl

/-- How things stand with a future in a phase. -/
structure Stands (future : Handle) (phase : AwaitPhase) (traced : TracedCore κ) : Prop where
  inOrder : InOrder future traced.events phase
  orderly : traced.continuations.Orderly
  issued : ∀ data ∈ traced.polled, data.toNat < traced.continuations.table.next
  awaited : ∀ data ∈ traced.polled,
    traced.continuations.isOpen ⟨data⟩ = phase.awaits data
  resumed : ∀ data ∈ traced.polled,
    traced.continuations.value? ⟨data⟩ = phase.code? data

namespace Stands

/-- What others do to their continuations. -/
theorem of_continuations (stands : Stands future phase traced) {continuations : Continuations}
    (orderly : continuations.Orderly)
    (next : traced.continuations.table.next ≤ continuations.table.next)
    (isOpen : ∀ data ∈ traced.polled,
      continuations.isOpen ⟨data⟩ = traced.continuations.isOpen ⟨data⟩)
    (value : ∀ data ∈ traced.polled,
      continuations.value? ⟨data⟩ = traced.continuations.value? ⟨data⟩) :
    Stands future phase { traced with continuations := continuations } where
  inOrder := stands.inOrder
  orderly := orderly
  issued := fun data member => Nat.lt_of_lt_of_le (stands.issued data member) next
  awaited := fun data member => (isOpen data member).trans (stands.awaited data member)
  resumed := fun data member => (value data member).trans (stands.resumed data member)

/-- A callback with the data of a poll that is waited for. -/
theorem answer {data : UInt64} (stands : Stands future (.waiting data) traced) (code : Int)
    (member : data ∈ traced.polled) :
    Stands future (.answered data code) (traced.interfere (.callback data code)) := by
  have isOpen : traced.continuations.isOpen ⟨data⟩ = true :=
    (stands.awaited data member).trans (decide_eq_true rfl)
  have polled := polled_callback traced data code
  constructor
  case inOrder =>
    change InOrder future (traced.events ++ [.callback data code _]) _
    rw [isOpen]
    exact stands.inOrder.answer code
  case orderly => exact stands.orderly.keep ⟨data⟩ code
  case issued =>
    rw [polled]
    intro other among
    have next := Promises.next_keep traced.continuations ⟨data⟩ code
    exact Nat.lt_of_lt_of_le (stands.issued other among) (Nat.le_of_eq next.symm)
  case awaited =>
    rw [polled]
    intro other among
    refine (Promises.isOpen_keep traced.continuations ⟨data⟩ ⟨other⟩ code).trans ?_
    split
    · rfl
    · next differs =>
      rw [stands.awaited other among]
      exact decide_eq_false fun same => differs (congrArg Handle.mk same.symm)
  case resumed =>
    rw [polled]
    intro other among
    refine (Promises.value?_keep traced.continuations ⟨data⟩ ⟨other⟩ code).trans ?_
    rw [stands.resumed other among]
    by_cases same : data = other
    · rw [if_pos ⟨congrArg Handle.mk same.symm, isOpen⟩]
      exact (if_pos same).symm
    · rw [if_neg fun both => same (congrArg Handle.raw both.1).symm]
      exact (if_neg same).symm

/-- A callback with other data. -/
theorem stray (stands : Stands future phase traced) (awake : phase ≠ .leaving) {data : UInt64}
    (code : Int) (others : data ∈ traced.polled → phase ≠ .waiting data) :
    Stands future phase (traced.interfere (.callback data code)) := by
  have silent (member : data ∈ traced.polled) : traced.continuations.isOpen ⟨data⟩ = false :=
    (stands.awaited data member).trans (AwaitPhase.awaits_of_ne_waiting (others member))
  have polled := polled_callback traced data code
  constructor
  case inOrder => exact stands.inOrder.stray code awake fun member => ⟨silent member, others member⟩
  case orderly => exact stands.orderly.keep ⟨data⟩ code
  case issued =>
    rw [polled]
    intro other among
    have next := Promises.next_keep traced.continuations ⟨data⟩ code
    exact Nat.lt_of_lt_of_le (stands.issued other among) (Nat.le_of_eq next.symm)
  case awaited =>
    rw [polled]
    intro other among
    refine (Promises.isOpen_keep traced.continuations ⟨data⟩ ⟨other⟩ code).trans ?_
    rw [← stands.awaited other among]
    split
    · next same =>
      cases same
      exact (silent among).symm
    · rfl
  case resumed =>
    rw [polled]
    intro other among
    refine (Promises.value?_keep traced.continuations ⟨data⟩ ⟨other⟩ code).trans ?_
    rw [stands.resumed other among]
    refine if_neg fun both => ?_
    obtain ⟨same, opened⟩ := both
    cases same
    rw [silent among] at opened
    cases opened

/-- Whatever happens, it may at most answer the latest poll. -/
theorem interfere (stands : Stands future phase traced) (awake : phase ≠ .leaving)
    (interference : Interference) :
    ∃ after, phase.Hears after ∧ Stands future after (traced.interfere interference) := by
  cases interference with
  | callback data code =>
      by_cases own : data ∈ traced.polled ∧ phase = .waiting data
      · obtain ⟨member, rfl⟩ := own
        exact ⟨_, .inr ⟨data, code, rfl, rfl⟩, stands.answer code member⟩
      · refine ⟨phase, .inl rfl, stands.stray awake code ?_⟩
        intro member waited
        exact own ⟨member, waited⟩
  | opened =>
      refine ⟨phase, .inl rfl, stands.of_continuations (stands.orderly.make ()) ?_ ?_ ?_⟩
      · exact Nat.le_of_lt (Promises.next_make traced.continuations () ▸ Nat.lt_succ_self _)
      · intro data member
        exact Promises.isOpen_make_of_issued (stands.issued data member) ()
      · exact fun _ _ => rfl
  | left data =>
      refine ⟨phase, .inl rfl, ?_⟩
      unfold TracedCore.interfere
      dsimp only
      split
      · exact stands
      · next theirs =>
        have differs {other : UInt64} (member : other ∈ traced.polled) :
            (⟨other⟩ : Handle) ≠ ⟨data⟩ := by
          intro same
          cases same
          exact theirs member
        refine stands.of_continuations (stands.orderly.forget ⟨data⟩) (Nat.le_refl _) ?_ ?_
        · intro other member
          rw [Promises.isOpen_forget, if_neg (differs member)]
        · intro other member
          rw [Promises.value?_forget, if_neg (differs member)]

/-- Callbacks lead from one phase to one that they may lead to. -/
theorem interferences (stands : Stands future phase traced) (awake : phase ≠ .leaving)
    (interferences : List Interference) :
    ∃ after, phase.Hears after ∧
      Stands future after (interferences.foldl TracedCore.interfere traced) := by
  induction interferences generalizing traced phase with
  | nil => exact ⟨phase, .inl rfl, stands⟩
  | cons interference rest ih =>
      obtain ⟨between, heard, next⟩ := stands.interfere awake interference
      have still : between ≠ .leaving := by
        rcases heard with rfl | ⟨_, _, -, rfl⟩
        · exact awake
        · intro same
          cases same
      obtain ⟨after, later, reached⟩ := ih next still
      exact ⟨after, heard.trans later, reached⟩

/-- An entry point that calls back leads on as its callbacks do. -/
theorem runEntry (stands : Stands future phase traced) (awake : phase ≠ .leaving)
    (entry : EntryRun κ α) :
    ∃ after, phase.Hears after ∧ Stands future after (runEntry entry traced).2 := by
  have moved : Stands future phase { traced with core := (entry traced.core).2 } :=
    ⟨stands.inOrder, stands.orderly, stands.issued, stands.awaited, stands.resumed⟩
  exact moved.interferences awake (entry traced.core).1.2

/-- A phase that is settled is not left by callbacks. -/
theorem runEntry_of_isSettled (stands : Stands future phase traced) (awake : phase ≠ .leaving)
    (settled : phase.isSettled = true) (entry : EntryRun κ α) :
    Stands future phase (TracedCore.runEntry entry traced).2 := by
  obtain ⟨after, rfl | ⟨data, code, rfl, -⟩, reached⟩ := stands.runEntry awake entry
  · exact reached
  · cases settled

/-- A call that is not a poll, with nothing to be awaited before or after it. -/
theorem call (stands : Stands future phase traced) (settled : phase.isSettled = true)
    {made : FutureCall} {after : AwaitPhase}
    (inOrder : InOrder future (traced.events ++ [.called made]) after) (awake : after ≠ .leaving)
    (still : after.isSettled = true) (other : (CallEvent.called made).data? = none)
    (entry : EntryRun κ α) : Stands future after (call made entry traced).2 := by
  have polled : (traced.record (.called made)).polled = traced.polled :=
    CallEvent.polled_append_of_none traced.events (.called made) other
  have called : Stands future after (traced.record (.called made)) := by
    refine ⟨inOrder, stands.orderly, ?_, ?_, ?_⟩
    · rw [polled]
      exact stands.issued
    · rw [polled]
      intro data member
      rw [AwaitPhase.awaits_of_isSettled still, ← AwaitPhase.awaits_of_isSettled settled data]
      exact stands.awaited data member
    · rw [polled]
      intro data member
      rw [AwaitPhase.code?_of_isSettled still, ← AwaitPhase.code?_of_isSettled settled data]
      exact stands.resumed data member
  exact called.runEntry_of_isSettled awake still entry

/-- The await is done with the latest poll and forgets its continuation. -/
theorem forget (stands : Stands future phase traced) (data : UInt64) {after : AwaitPhase}
    (inOrder : InOrder future traced.events after) (settled : after.isSettled = true)
    (others : ∀ other, other ≠ data → phase.awaits other = false ∧ phase.code? other = none) :
    Stands future after
      { traced with continuations := (Promises.forget ⟨data⟩ traced.continuations).2 } := by
  have differs {other : UInt64} (apart : (⟨other⟩ : Handle) ≠ ⟨data⟩) : other ≠ data :=
    fun same => apart (congrArg Handle.mk same)
  refine ⟨inOrder, stands.orderly.forget ⟨data⟩, stands.issued, ?_, ?_⟩
  · intro other member
    refine (Promises.isOpen_forget traced.continuations ⟨data⟩ ⟨other⟩).trans ?_
    rw [AwaitPhase.awaits_of_isSettled settled]
    split
    · rfl
    · next apart => exact (stands.awaited other member).trans (others other (differs apart)).1
  · intro other member
    refine (Promises.value?_forget traced.continuations ⟨data⟩ ⟨other⟩).trans ?_
    rw [AwaitPhase.code?_of_isSettled settled]
    split
    · rfl
    · next apart => exact (stands.resumed other member).trans (others other (differs apart)).2

/-- The future is polled with a new continuation. -/
theorem poll (stands : Stands future .ready traced) {continuation : Handle}
    {continuations : Continuations}
    (made : Promises.make () traced.continuations = (.ok continuation, continuations)) :
    Stands future (.waiting continuation.raw)
      (TracedCore.record (.called (.poll future continuation.raw))
        { traced with continuations := continuations }) := by
  obtain ⟨number, isOpen, value⟩ := Promises.make_eq_ok stands.orderly made
  have next := Promises.next_make traced.continuations ()
  have orderly := stands.orderly.make ()
  have kept := fun data member =>
    Promises.isOpen_make_of_issued (stands.issued data member) ()
  rw [made] at next orderly kept
  have fresh : continuation.raw ∉ traced.polled :=
    fun member => Nat.ne_of_lt (stands.issued _ member) number
  have polled : (TracedCore.record (.called (.poll future continuation.raw))
      { traced with continuations := continuations }).polled =
      traced.polled ++ [continuation.raw] :=
    CallEvent.polled_append_poll traced.events future continuation.raw
  refine ⟨stands.inOrder.poll fresh, orderly, ?_, ?_, ?_⟩
  all_goals
    rw [polled]
    refine List.forall_mem_append.mpr ⟨fun data member => ?_, List.forall_mem_singleton.mpr ?_⟩
  · exact next ▸ Nat.lt_succ_of_lt (stands.issued data member)
  · exact next ▸ number ▸ Nat.lt_succ_self _
  · refine (kept data member).trans ((stands.awaited data member).trans ?_)
    refine (decide_eq_false fun same => ?_).symm
    exact fresh (same ▸ member)
  · exact isOpen.trans (decide_eq_true rfl).symm
  · have unchanged : continuations.value? ⟨data⟩ = traced.continuations.value? ⟨data⟩ := by
      have same := congrArg (fun made => made.2.value? ⟨data⟩) made
      exact same.symm
    exact unchanged.trans (stands.resumed data member)
  · exact value

end Stands

/-- A future that was polled, or not at all yet, may be given up. -/
theorem Stands.leave (stands : Stands future phase traced) (isOpen : phase.isOpen = true)
    (settled : phase.isSettled = true) : Stands future .leaving traced := by
  refine ⟨stands.inOrder.leave isOpen, stands.orderly, stands.issued, ?_, ?_⟩
  · intro data member
    rw [stands.awaited data member, AwaitPhase.awaits_of_isSettled settled]
    rfl
  · intro data member
    rw [stands.resumed data member, AwaitPhase.code?_of_isSettled settled]
    rfl

end TracedCore

end Boundary
