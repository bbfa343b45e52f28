import Boundary.Future.Await

/-! # What passes between an await and a core

An await calls the entry points of the future, and the core calls back. Not every sequence of such
events is in order: a future is polled again only when its latest poll was resumed with the code
that asks for it, its result is fetched only when the code says that it is ready, and behind a
fetch or a cancellation the future is freed and that is all (`Boundary.InOrder`).

Sequences that are in order are told by what can be seen of them
(`Boundary.InOrder.fits`, `Boundary.InOrder.proper`, `Boundary.InOrder.resumptions_le`).
-/

namespace Boundary

/-- A call of an entry point for futures. -/
inductive FutureCall where
  | poll (future : Handle) (data : UInt64)
  | complete (future : Handle)
  | cancel (future : Handle)
  | free (future : Handle)
  deriving DecidableEq

/-- What passes between an await and a core. -/
inductive CallEvent where
  | called (call : FutureCall)
  /-- The core calls back, which may resume a continuation. -/
  | callback (data : UInt64) (code : Int) (resumes : Bool)
  deriving DecidableEq

namespace CallEvent

/-- The calls among the events. -/
def calls (events : List CallEvent) : List FutureCall :=
  events.filterMap fun
    | .called made => some made
    | .callback .. => none

/-- The data of a poll. -/
def data? : CallEvent → Option UInt64
  | .called (.poll _ data) => some data
  | _ => none

/-- The data of the polls among the events. -/
def polled (events : List CallEvent) : List UInt64 := events.filterMap data?

/-- The polls of a future, and nothing else, were called. -/
def OnlyPolls (future : Handle) (events : List CallEvent) : Prop :=
  calls events = (polled events).map (.poll future)

/-- The first callback that carries the data of the latest poll gives the poll's code. -/
def note (latest : Option (UInt64 × Option Int)) : CallEvent → Option (UInt64 × Option Int)
  | .called (.poll _ data) => some (data, none)
  | .called _ => latest
  | .callback data code _ =>
    match latest with
    | some (polled, none) => if data = polled then some (polled, some code) else latest
    | _ => latest

/-- The data of the latest poll, and the code of the first callback since that carries it. -/
def latest (events : List CallEvent) : Option (UInt64 × Option Int) := events.foldl note none

/-- The callbacks that resume the continuation with these data. -/
def resumptions (data : UInt64) (events : List CallEvent) : List CallEvent :=
  events.filter fun
    | .called _ => false
    | .callback carried _ resumes => carried = data ∧ resumes

variable (events : List CallEvent) (event : CallEvent)

theorem calls_append_called (made : FutureCall) :
    calls (events ++ [.called made]) = calls events ++ [made] := List.filterMap_append

theorem calls_append_callback (data : UInt64) (code : Int) (resumes : Bool) :
    calls (events ++ [.callback data code resumes]) = calls events :=
  List.filterMap_append.trans (List.append_nil _)

/-- What is no poll adds no data. -/
theorem polled_append_of_none (none : event.data? = none) :
    polled (events ++ [event]) = polled events := by
  have nothing : [event].filterMap data? = [] := by
    rw [List.filterMap_cons, none]
    rfl
  exact List.filterMap_append.trans (nothing ▸ List.append_nil _)

theorem polled_append_poll (future : Handle) (data : UInt64) :
    polled (events ++ [.called (.poll future data)]) = polled events ++ [data] :=
  List.filterMap_append

theorem mem_polled (future : Handle) (data : UInt64) (before after : List CallEvent) :
    data ∈ polled (before ++ .called (.poll future data) :: after) :=
  List.mem_filterMap.mpr ⟨.called (.poll future data),
    List.mem_append_right _ List.mem_cons_self, rfl⟩

theorem latest_append : latest (events ++ [event]) = note (latest events) event :=
  List.foldl_append

/-- A callback with other data says nothing of the latest poll. -/
theorem latest_append_stray (data : UInt64) (code : Int) (resumes : Bool)
    (others : latest events ≠ some (data, none)) :
    latest (events ++ [.callback data code resumes]) = latest events := by
  rw [latest_append]
  rcases seen : latest events with _ | ⟨polled, _ | answer⟩
  case some.none =>
    have differs : data ≠ polled := by
      intro same
      exact others (same ▸ seen)
    exact if_neg differs
  all_goals rfl

/-- An event among those with one more is the last, or it is among the others. -/
theorem append_eq_split {before after : List CallEvent} {last : CallEvent}
    (split : events ++ [last] = before ++ event :: after) :
    event = last ∧ before = events ∧ after = [] ∨
      ∃ rest, events = before ++ event :: rest ∧ after = rest ++ [last] := by
  rcases List.eq_nil_or_concat after with rfl | ⟨rest, final, rfl⟩
  · obtain ⟨same, ends⟩ := List.append_inj' split rfl
    exact .inl ⟨(List.singleton_inj.mp ends).symm, same.symm, rfl⟩
  · rw [List.concat_eq_append, ← List.cons_append, ← List.append_assoc] at split
    obtain ⟨same, ends⟩ := List.append_inj' split rfl
    cases List.singleton_inj.mp ends
    exact .inr ⟨rest, same, List.concat_eq_append⟩

end CallEvent

/-- How far an await and a core are with a future. -/
inductive AwaitPhase where
  /-- The future may be polled. -/
  | ready
  /-- The continuation of the latest poll was not resumed yet. -/
  | waiting (data : UInt64)
  | answered (data : UInt64) (code : Int)
  /-- The result may be fetched. -/
  | fetching
  /-- The await is given up. -/
  | leaving
  /-- The future is to be freed, behind this call. -/
  | closing (call : FutureCall)
  | closed (call : FutureCall)

/-- The await may still be given up. -/
def AwaitPhase.isOpen : AwaitPhase → Bool
  | .ready | .waiting _ | .answered .. => true
  | _ => false

open CallEvent

/-- The events of a future are in order and led to this phase. -/
inductive InOrder (future : Handle) : List CallEvent → AwaitPhase → Prop
  | begin : InOrder future [] .ready
  | poll {events : List CallEvent} {data : UInt64} : InOrder future events .ready →
      data ∉ polled events →
      InOrder future (events ++ [.called (.poll future data)]) (.waiting data)
  | answer {events : List CallEvent} {data : UInt64} (code : Int) :
      InOrder future events (.waiting data) →
      InOrder future (events ++ [.callback data code true]) (.answered data code)
  /-- Callbacks that do not answer the latest poll resume none of the polls. -/
  | stray {events : List CallEvent} {phase : AwaitPhase} {data : UInt64} {resumes : Bool}
      (code : Int) :
      InOrder future events phase → phase ≠ .leaving →
      (data ∈ polled events → resumes = false ∧ phase ≠ .waiting data) →
      InOrder future (events ++ [.callback data code resumes]) phase
  | wake {events : List CallEvent} {data : UInt64} :
      InOrder future events (.answered data PollCode.wake.number) → InOrder future events .ready
  | take {events : List CallEvent} {data : UInt64} :
      InOrder future events (.answered data PollCode.ready.number) →
      InOrder future events .fetching
  | leave {events : List CallEvent} {phase : AwaitPhase} : InOrder future events phase →
      phase.isOpen = true → InOrder future events .leaving
  | complete {events : List CallEvent} : InOrder future events .fetching →
      InOrder future (events ++ [.called (.complete future)]) (.closing (.complete future))
  | cancel {events : List CallEvent} : InOrder future events .leaving →
      InOrder future (events ++ [.called (.cancel future)]) (.closing (.cancel future))
  | free {events : List CallEvent} {call : FutureCall} : InOrder future events (.closing call) →
      InOrder future (events ++ [.called (.free future)]) (.closed call)

namespace InOrder

variable {future : Handle} {events before after : List CallEvent} {phase : AwaitPhase}

/-- Every poll has data of its own. -/
theorem nodup (inOrder : InOrder future events phase) : (polled events).Nodup := by
  induction inOrder with
  | begin => exact List.nodup_nil
  | @poll events data _ fresh ih =>
      rw [polled_append_poll]
      refine List.nodup_append.mpr ⟨ih, List.pairwise_singleton _ _, ?_⟩
      intro earlier member new last same
      exact fresh (List.mem_singleton.mp last ▸ same ▸ member)
  | answer code _ ih | stray code _ _ _ ih =>
      rw [polled_append_of_none _ (.callback ..) rfl]
      exact ih
  | complete _ ih =>
      rw [polled_append_of_none _ (.called (.complete future)) rfl]
      exact ih
  | cancel _ ih =>
      rw [polled_append_of_none _ (.called (.cancel future)) rfl]
      exact ih
  | free _ ih =>
      rw [polled_append_of_none _ (.called (.free future)) rfl]
      exact ih
  | wake _ ih | take _ ih | leave _ _ ih => exact ih

/-- What the events look like in a phase. -/
def Fits (future : Handle) (events : List CallEvent) : AwaitPhase → Prop
  | .ready => OnlyPolls future events ∧
      (polled events = [] ∨ ∃ data, latest events = some (data, some PollCode.wake.number))
  | .waiting data => OnlyPolls future events ∧ latest events = some (data, none) ∧
      data ∈ polled events
  | .answered data code => OnlyPolls future events ∧
      latest events = some (data, some code) ∧ data ∈ polled events
  | .fetching => OnlyPolls future events ∧
      ∃ data, latest events = some (data, some PollCode.ready.number)
  | .leaving => OnlyPolls future events
  | .closing call =>
      calls events = (polled events).map (.poll future) ++ [call] ∧
        (call = .complete future ∨ call = .cancel future)
  | .closed call =>
      calls events = (polled events).map (.poll future) ++ [call, .free future] ∧
        (call = .complete future ∨ call = .cancel future)

/-- As long as the future is awaited, only polls were called. -/
theorem Fits.onlyPolls (fits : Fits future events phase) (isOpen : phase.isOpen = true) :
    OnlyPolls future events := by
  cases phase with
  | ready => exact fits.1
  | waiting => exact fits.1
  | answered => exact fits.1
  | fetching | leaving | closing | closed => cases isOpen

theorem onlyPolls_callback (only : OnlyPolls future events) (data : UInt64) (code : Int)
    (resumes : Bool) : OnlyPolls future (events ++ [.callback data code resumes]) := by
  unfold OnlyPolls
  rw [calls_append_callback, polled_append_of_none _ _ rfl]
  exact only

/-- A callback that does not answer the latest poll changes nothing of that. -/
theorem Fits.stray {data : UInt64} (fits : Fits future events phase)
    (others : data ∈ polled events → phase ≠ .waiting data) (code : Int) (resumes : Bool) :
    Fits future (events ++ [.callback data code resumes]) phase := by
  have same := latest_append_stray events data code resumes
  have polls : polled (events ++ [.callback data code resumes]) = polled events :=
    polled_append_of_none _ _ rfl
  have answered {earlier : UInt64} {answer : Int}
      (seen : latest events = some (earlier, some answer)) :
      latest (events ++ [.callback data code resumes]) = some (earlier, some answer) := by
    rw [same, seen]
    rw [seen]
    intro equal
    cases equal
  cases phase with
  | ready =>
      obtain ⟨only, nothing | ⟨earlier, seen⟩⟩ := fits
      · exact ⟨onlyPolls_callback only data code resumes, .inl (polls.trans nothing)⟩
      · exact ⟨onlyPolls_callback only data code resumes, .inr ⟨earlier, answered seen⟩⟩
  | waiting awaited =>
      obtain ⟨only, seen, member⟩ := fits
      refine ⟨onlyPolls_callback only data code resumes, ?_, polls ▸ member⟩
      rw [same, seen]
      rw [seen]
      intro equal
      cases equal
      exact others member rfl
  | answered earlier answer =>
      obtain ⟨only, seen, member⟩ := fits
      exact ⟨onlyPolls_callback only data code resumes, answered seen, polls ▸ member⟩
  | fetching =>
      obtain ⟨only, earlier, seen⟩ := fits
      exact ⟨onlyPolls_callback only data code resumes, earlier, answered seen⟩
  | leaving => exact onlyPolls_callback fits data code resumes
  | closing | closed =>
      unfold Fits at fits ⊢
      rw [calls_append_callback, polls]
      exact fits

/-- Events that are in order fit their phase. -/
theorem fits (inOrder : InOrder future events phase) : Fits future events phase := by
  induction inOrder with
  | begin => exact ⟨rfl, .inl rfl⟩
  | @poll events data _ _ ih =>
      refine ⟨?_, latest_append _ _, ?_⟩
      · unfold OnlyPolls
        rw [calls_append_called, polled_append_poll, List.map_append, ih.1]
        rfl
      · rw [polled_append_poll]
        exact List.mem_append_right _ List.mem_cons_self
  | @answer events data code _ ih =>
      obtain ⟨only, seen, member⟩ := ih
      refine ⟨onlyPolls_callback only data code true, ?_, ?_⟩
      · rw [latest_append, seen]
        exact if_pos rfl
      · rw [polled_append_of_none _ _ rfl]
        exact member
  | stray code _ _ others ih => exact ih.stray (fun member => (others member).2) code _
  | wake _ ih => exact ⟨ih.1, .inr ⟨_, ih.2.1⟩⟩
  | take _ ih => exact ⟨ih.1, _, ih.2.1⟩
  | leave _ isOpen ih => exact ih.onlyPolls isOpen
  | complete _ ih =>
      refine ⟨?_, .inl rfl⟩
      rw [calls_append_called, polled_append_of_none _ (.called (.complete future)) rfl, ih.1]
  | cancel _ ih =>
      refine ⟨?_, .inr rfl⟩
      rw [calls_append_called, polled_append_of_none _ (.called (.cancel future)) rfl, ih]
  | free _ ih =>
      refine ⟨?_, ih.2⟩
      rw [calls_append_called, polled_append_of_none _ (.called (.free future)) rfl, ih.1,
        List.append_assoc]
      rfl

/-- How an event fits what came before. -/
def Proper (future : Handle) (before : List CallEvent) : CallEvent → Prop
  | .called (.poll polled data) => polled = future ∧ data ∉ CallEvent.polled before ∧
      (CallEvent.polled before = [] ∨
        ∃ earlier, latest before = some (earlier, some PollCode.wake.number))
  | .called (.complete completed) => completed = future ∧
      ∃ data, latest before = some (data, some PollCode.ready.number)
  | .called (.cancel cancelled) => cancelled = future
  | .called (.free freed) => freed = future
  | .callback data _ resumes => data ∈ polled before →
      (resumes = true ↔ latest before = some (data, none) ∧ OnlyPolls future before)

/-- A poll that is not waited for is not resumed. -/
theorem Fits.not_waiting {data : UInt64} (fits : Fits future events phase)
    (settled : phase ≠ .leaving) (member : data ∈ polled events)
    (others : phase ≠ .waiting data) :
    ¬ (latest events = some (data, none) ∧ OnlyPolls future events) := by
  rintro ⟨seen, only⟩
  cases phase with
  | ready =>
      rcases fits.2 with none | ⟨earlier, answered⟩
      · rw [none] at member
        cases member
      · rw [answered] at seen
        cases seen
  | waiting awaited =>
      rw [fits.2.1] at seen
      cases seen
      exact others rfl
  | answered earlier answer =>
      rw [fits.2.1] at seen
      cases seen
  | fetching =>
      obtain ⟨-, earlier, answered⟩ := fits
      rw [answered] at seen
      cases seen
  | leaving => exact settled rfl
  | closing call =>
      have longer := congrArg List.length (only.symm.trans fits.1)
      rw [List.length_append, List.length_singleton] at longer
      exact absurd longer (Nat.ne_of_lt (Nat.lt_succ_self _))
  | closed call =>
      have longer := congrArg List.length (only.symm.trans fits.1)
      rw [List.length_append] at longer
      exact absurd longer (Nat.ne_of_lt (Nat.lt_add_of_pos_right (Nat.zero_lt_succ _)))

/-- Every event fits those before it. -/
theorem proper (inOrder : InOrder future events phase) {event : CallEvent}
    (split : events = before ++ event :: after) : Proper future before event := by
  induction inOrder generalizing after with
  | begin => exact absurd split.symm (List.append_ne_nil_of_right_ne_nil _ (List.cons_ne_nil _ _))
  | poll inOrder fresh ih =>
      rcases append_eq_split _ _ split with ⟨rfl, rfl, -⟩ | ⟨rest, earlier, -⟩
      · exact ⟨rfl, fresh, inOrder.fits.2⟩
      · exact ih earlier
  | answer code inOrder ih =>
      rcases append_eq_split _ _ split with ⟨rfl, rfl, -⟩ | ⟨rest, earlier, -⟩
      · obtain ⟨only, seen, -⟩ := inOrder.fits
        exact fun _ => ⟨fun _ => ⟨seen, only⟩, fun _ => rfl⟩
      · exact ih earlier
  | stray code inOrder settled others ih =>
      rcases append_eq_split _ _ split with ⟨rfl, rfl, -⟩ | ⟨rest, earlier, -⟩
      · intro member
        obtain ⟨silent, differs⟩ := others member
        rw [silent]
        exact ⟨fun resumes => absurd resumes Bool.false_ne_true,
          fun waited => absurd waited (inOrder.fits.not_waiting settled member differs)⟩
      · exact ih earlier
  | complete inOrder ih =>
      rcases append_eq_split _ _ split with ⟨rfl, rfl, -⟩ | ⟨rest, earlier, -⟩
      · exact ⟨rfl, inOrder.fits.2⟩
      · exact ih earlier
  | cancel inOrder ih | free inOrder ih =>
      rcases append_eq_split _ _ split with ⟨rfl, rfl, -⟩ | ⟨rest, earlier, -⟩
      · exact rfl
      · exact ih earlier
  | wake _ ih | take _ ih | leave _ _ ih => exact ih split

theorem resumptions_append (data : UInt64) (rest more : List CallEvent) :
    resumptions data (rest ++ more) = resumptions data rest ++ resumptions data more :=
  List.filter_append ..

theorem resumptions_append_other {data : UInt64} (rest : List CallEvent) {event : CallEvent}
    (other : resumptions data [event] = []) :
    resumptions data (rest ++ [event]) = resumptions data rest := by
  rw [resumptions_append, other, List.append_nil]

theorem resumptions_callback {data carried : UInt64} (code : Int) {resumes : Bool}
    (other : ¬ (carried = data ∧ resumes = true)) :
    resumptions data [.callback carried code resumes] = [] :=
  List.filter_cons_of_neg fun both => other (of_decide_eq_true both)

/-- After a poll, at most one callback resumes its continuation. -/
theorem resumptions_le (inOrder : InOrder future events phase) {data : UInt64}
    (split : events = before ++ .called (.poll future data) :: after) :
    (resumptions data after).length ≤ 1 ∧
      (phase = .waiting data → resumptions data after = []) := by
  induction inOrder generalizing after with
  | begin => exact absurd split.symm (List.append_ne_nil_of_right_ne_nil _ (List.cons_ne_nil _ _))
  | poll inOrder fresh ih =>
      rcases append_eq_split _ _ split with ⟨-, -, rfl⟩ | ⟨rest, earlier, rfl⟩
      · exact ⟨Nat.zero_le _, fun _ => rfl⟩
      · obtain ⟨once, -⟩ := ih earlier
        rw [resumptions_append_other rest rfl]
        refine ⟨once, fun same => ?_⟩
        cases same
        exact absurd (earlier ▸ mem_polled future data before rest) fresh
  | @answer events carried code inOrder ih =>
      rcases append_eq_split _ _ split with ⟨same, -⟩ | ⟨rest, earlier, rfl⟩
      · cases same
      · obtain ⟨once, waited⟩ := ih earlier
        refine ⟨?_, fun same => nomatch same⟩
        by_cases same : carried = data
        · rw [resumptions_append, waited (same ▸ rfl)]
          exact List.length_filter_le _ _
        · rw [resumptions_append_other rest (resumptions_callback code fun both => same both.1)]
          exact once
  | @stray events phase carried resumes code inOrder settled others ih =>
      rcases append_eq_split _ _ split with ⟨same, -⟩ | ⟨rest, earlier, rfl⟩
      · cases same
      · have unseen : ¬ (carried = data ∧ resumes = true) := by
          rintro ⟨rfl, resumed⟩
          rw [(others (earlier ▸ mem_polled future carried before rest)).1] at resumed
          cases resumed
        rw [resumptions_append_other rest (resumptions_callback code unseen)]
        exact ih earlier
  | complete inOrder ih | cancel inOrder ih | free inOrder ih =>
      rcases append_eq_split _ _ split with ⟨same, -⟩ | ⟨rest, earlier, rfl⟩
      · cases same
      · rw [resumptions_append_other rest rfl]
        exact ⟨(ih earlier).1, fun same => nomatch same⟩
  | wake _ ih | take _ ih | leave _ _ ih => exact ⟨(ih split).1, fun same => nomatch same⟩

end InOrder

end Boundary
