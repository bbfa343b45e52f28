import Boundary.Proofs.Wire.Locality

/-! # Where reads panic

What makes a read panic is described by the bytes at the front of its input that are
needed for it (`Boundary.Read.PanicsOn`). The primitive reads never panic. A sequence of
reads panics on what its first part panics on, and behind what its first part takes on
what the rest panics on (`Boundary.Read.PanicsOn.bind`, `Boundary.Read.PanicsOn.times`).
-/

namespace Boundary

namespace Read

variable {α β : Type}

/-- No input makes the read panic. -/
def NeverPanics (read : Read α) : Prop :=
  ∀ start payload after, read start ≠ .error (.panic payload) after

namespace NeverPanics

protected theorem pure (value : α) : NeverPanics (pure value : Read α) := by
  intro start payload after run
  cases run

protected theorem fail (cause : CodecError) : NeverPanics (Act.fail cause : Read α) := by
  intro start payload after run
  cases run

protected theorem bytes (count : Nat) : (Read.bytes count).NeverPanics := by
  intro start payload after run
  by_cases enough : count ≤ start.rest.length
  · rw [bytes_of_le enough] at run
    cases run
  · rw [bytes_of_lt (Nat.lt_of_not_le enough)] at run
    cases run

theorem bind {read : Read α} {next : α → Read β} (first : read.NeverPanics)
    (rest : ∀ value, (next value).NeverPanics) : NeverPanics (read >>= next) := by
  intro start payload after run
  rcases Act.bind_eq_error_iff.mp run with failed | ⟨value, between, _, failed⟩
  · exact first _ _ _ failed
  · exact rest value _ _ _ failed

protected theorem word (width : Nat) : (Read.word width).NeverPanics :=
  (NeverPanics.bytes width).bind fun _ => .pure _

protected theorem byte : Read.byte.NeverPanics := (NeverPanics.word 1).bind fun _ => .pure _

protected theorem length : Read.length.NeverPanics := by
  refine (NeverPanics.word 4).bind fun word => ?_
  split
  · exact .fail _
  · exact .pure _

protected theorem discriminant (typeName : String) (caseCount : Nat) :
    (Read.discriminant typeName caseCount).NeverPanics := by
  refine (NeverPanics.word 4).bind fun word => ?_
  dsimp only
  split
  · exact .pure _
  · exact .fail _

protected theorem text : Utf8.read.NeverPanics := by
  refine NeverPanics.length.bind fun count => (NeverPanics.bytes count).bind fun data => ?_
  split
  · exact .pure _
  · exact .fail _

protected theorem finish : Read.finish.NeverPanics := by
  intro start payload after run
  unfold Read.finish at run
  split at run <;> cases run

end NeverPanics

/-- The read panics with the payload on inputs that begin with bytes of the `cause`, and panics
on no others. -/
def PanicsOn (read : Read α) (payload : PanicPayload) (cause : Bytes → Prop) : Prop :=
  ∀ start raised, (∃ after, read start = .error (.panic raised) after) ↔
    raised = payload ∧ ∃ data rest, start.rest = data ++ rest ∧ cause data

namespace PanicsOn

variable {payload : PanicPayload} {read : Read α} {cause : Bytes → Prop}

/-- A read that never panics does so on no input. -/
theorem of_never (never : read.NeverPanics) : read.PanicsOn payload fun _ => False := by
  intro start raised
  constructor
  · rintro ⟨after, run⟩
    exact absurd run (never _ _ _)
  · rintro ⟨_, _, _, _, impossible⟩
    exact impossible.elim

theorem congr {other : Bytes → Prop} (panics : read.PanicsOn payload cause)
    (same : ∀ data, other data ↔ cause data) : read.PanicsOn payload other := by
  obtain rfl : other = cause := funext fun data => propext (same data)
  exact panics

/-- Starting to unwind takes no look at the input. -/
protected theorem unwind :
    Read.PanicsOn (Act.unwind payload : Read α) payload fun data => data = [] := by
  intro start raised
  constructor
  · rintro ⟨after, run⟩
    cases run
    exact ⟨rfl, [], start.rest, rfl, rfl⟩
  · rintro ⟨rfl, _⟩
    exact ⟨start, rfl⟩

/-- The first part of a sequence panics, or the rest does behind what the first part took. -/
theorem bind {next : α → Read β} {later : α → Bytes → Prop} (decided : read.Local)
    (first : read.PanicsOn payload cause)
    (rest : ∀ value, (next value).PanicsOn payload (later value)) :
    Read.PanicsOn (read >>= next) payload fun data => cause data ∨
      ∃ front value back, data = front ++ back ∧ read.Takes front value ∧ later value back := by
  intro start raised
  constructor
  · rintro ⟨after, run⟩
    rcases Act.bind_eq_error_iff.mp run with failed | ⟨value, between, firstRun, failed⟩
    · obtain ⟨same, data, more, split, holds⟩ := (first start raised).mp ⟨after, failed⟩
      exact ⟨same, data, more, split, .inl holds⟩
    · obtain ⟨front, startSplit, _, takes, _⟩ := decided.consumed _ _ _ firstRun
      obtain ⟨same, back, more, split, holds⟩ := (rest value between raised).mp ⟨after, failed⟩
      refine ⟨same, front ++ back, more, ?_, .inr ⟨front, value, back, rfl, takes, holds⟩⟩
      rw [startSplit, split, List.append_assoc]
  · rintro ⟨same, data, more, split, holds | ⟨front, value, back, rfl, takes, holds⟩⟩
    · obtain ⟨after, failed⟩ := (first start raised).mpr ⟨same, data, more, split, holds⟩
      exact ⟨after, Act.bind_of_error failed⟩
    · obtain ⟨position, bytes⟩ := start
      obtain rfl : bytes = front ++ back ++ more := split
      obtain ⟨after, failed⟩ := (rest value ⟨position + front.length, back ++ more⟩ raised).mpr
        ⟨same, back, more, rfl, holds⟩
      refine ⟨after, ?_⟩
      rw [List.append_assoc, Act.bind_of_ok (takes _ _), failed]

/-- Reworking what was read does not panic. -/
theorem returning {result : α → β} (panics : read.PanicsOn payload cause) :
    Read.PanicsOn (do return result (← read)) payload cause := by
  intro start raised
  rw [← panics start raised]
  constructor
  · rintro ⟨after, run⟩
    rcases Act.bind_eq_error_iff.mp run with failed | ⟨_, _, _, returned⟩
    · exact ⟨after, failed⟩
    · cases returned
  · rintro ⟨after, failed⟩
    exact ⟨after, Act.bind_of_error failed⟩

/-- Behind a part that never panics only the rest does. -/
theorem behind {next : α → Read β} {later : α → Bytes → Prop} (decided : read.Local)
    (never : read.NeverPanics) (rest : ∀ value, (next value).PanicsOn payload (later value)) :
    Read.PanicsOn (read >>= next) payload fun data =>
      ∃ front value back, data = front ++ back ∧ read.Takes front value ∧ later value back :=
  (bind decided (of_never never) rest).congr fun _ => (false_or _).symm ▸ Iff.rfl

/-- One of the items panics, and those before it are taken. -/
theorem times {item : Read α} (decided : item.Local) (panics : item.PanicsOn payload cause)
    (count : Nat) : (Read.times item count).PanicsOn payload fun data =>
      ∃ passed < count, ∃ front values back, data = front ++ back ∧
        (Read.times item passed).Takes front values ∧ cause back := by
  induction count with
  | zero =>
      refine (of_never (.pure [])).congr fun data => iff_of_false ?_ id
      rintro ⟨_, early, _⟩
      exact Nat.not_lt_zero _ early
  | succ count ih =>
      -- The item that panics is the first one, or one of those behind it.
      refine (bind decided panics fun value => returning ih).congr fun data => ?_
      constructor
      · rintro ⟨passed, early, front, values, back, rfl, taken, holds⟩
        cases passed with
        | zero =>
            obtain ⟨rfl, _⟩ := Takes.of_pure taken
            exact .inl holds
        | succ passed =>
            obtain ⟨first, value, others, rfl, takes, rest⟩ :=
              decided.of_takes_bind (fun _ => (decided.times passed).bind fun _ => .pure _) taken
            obtain ⟨middle, items, none, rfl, itemsTaken, last⟩ :=
              (decided.times passed).of_takes_bind (fun _ => .pure _) rest
            obtain ⟨rfl, _⟩ := Takes.of_pure last
            rw [List.append_nil, List.append_assoc]
            exact .inr ⟨first, value, middle ++ back, rfl, takes, passed, by omega, middle, items,
              back, rfl, itemsTaken, holds⟩
      · rintro (holds | ⟨first, value, _, rfl, takes, passed, early, middle, items, back, rfl,
          taken, holds⟩)
        · exact ⟨0, Nat.succ_pos _, [], [], data, rfl, Takes.pure [], holds⟩
        · refine ⟨passed + 1, Nat.succ_lt_succ early, first ++ middle, value :: items, back, ?_,
            takes.bind (taken.returning rfl), holds⟩
          rw [List.append_assoc]

/-- Lifting panics exactly on inputs that begin with bytes of the cause, and lifting exactly
does as well. -/
theorem lift_iff (panics : read.PanicsOn payload cause) (bytes : Bytes) (raised : PanicPayload) :
    read.lift bytes = .error (.panic raised) ↔
      raised = payload ∧ ∃ data rest, bytes = data ++ rest ∧ cause data :=
  lift_eq_error_iff.trans (panics (Reader.ofBytes bytes) raised)

/-- Lifting all of some bytes panics if they begin with what makes the read panic. -/
theorem liftExact_iff (panics : read.PanicsOn payload cause) (bytes : Bytes)
    (raised : PanicPayload) : read.liftExact bytes = .error (.panic raised) ↔
      raised = payload ∧ ∃ data rest, bytes = data ++ rest ∧ cause data := by
  refine Iff.trans ?_ (panics (Reader.ofBytes bytes) raised)
  unfold liftExact
  constructor
  · intro lifted
    split at lifted
    · cases lifted
    · next fault after run =>
      cases lifted
      rcases Act.bind_eq_error_iff.mp run with failed | ⟨value, between, _, failed⟩
      · exact ⟨after, failed⟩
      · exact absurd failed ((NeverPanics.finish.bind fun _ => .pure _) _ _ _)
  · rintro ⟨after, failed⟩
    rw [Act.bind_of_error failed]

end PanicsOn

/-- A read that never panics never does so when all of some bytes are lifted. -/
theorem NeverPanics.liftExact {read : Read α} (never : read.NeverPanics) (bytes : Bytes)
    (payload : PanicPayload) : read.liftExact bytes ≠ .error (.panic payload) := by
  have panics : read.PanicsOn payload fun _ => False := .of_never never
  intro lifted
  obtain ⟨_, _, _, _, impossible⟩ := (panics.liftExact_iff bytes payload).mp lifted
  exact impossible

end Read

end Boundary
