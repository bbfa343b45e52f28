import Boundary.Proofs.Sequencing
import Boundary.Wire.Reader
import Mathlib.Data.List.Forall2

/-! # Reads in agreement

Two reads agree when from every start they come to related values, with the same input left,
or fail alike (`Boundary.Read.Agrees`). Reads put together from agreeing reads agree
(`Boundary.Read.Agrees.bind`, `Boundary.Read.Agrees.times`), and so do the values they make
of a whole input (`Boundary.Read.Agrees.liftExact`).
-/

namespace Boundary.Read

variable {α β γ δ : Type}

/-- From every start the reads come to related values at one place, or to one fault. -/
def Agrees (related : α → β → Prop) (read : Read α) (other : Read β) : Prop :=
  ∀ start,
    (∃ value counterpart after, related value counterpart ∧
      read start = .ok value after ∧ other start = .ok counterpart after) ∨
    ∃ fault after, read start = .error fault after ∧ other start = .error fault after

namespace Agrees

variable {related : α → β → Prop} {resulting : γ → δ → Prop} {read : Read α} {other : Read β}

protected theorem refl (read : Read α) : read.Agrees Eq read := by
  intro start
  cases run : read start with
  | ok value after => exact Or.inl ⟨value, value, after, rfl, rfl, rfl⟩
  | error fault after => exact Or.inr ⟨fault, after, rfl, rfl⟩

protected theorem pure {value : α} {counterpart : β} (alike : related value counterpart) :
    Agrees related (pure value) (pure counterpart) :=
  fun start => Or.inl ⟨value, counterpart, start, alike, rfl, rfl⟩

theorem throwing (fault : Fault CodecError) : Agrees related (throw fault) (throw fault) :=
  fun start => Or.inr ⟨fault, start, rfl, rfl⟩

/-- Agreeing reads continued by agreeing ones agree. -/
theorem bind {next : α → Read γ} {following : β → Read δ} (first : read.Agrees related other)
    (rest : ∀ value counterpart, related value counterpart →
      (next value).Agrees resulting (following counterpart)) :
    Agrees resulting (read >>= next) (other >>= following) := by
  intro start
  rcases first start with ⟨value, counterpart, after, alike, run, otherRun⟩ |
    ⟨fault, after, run, otherRun⟩
  · rw [Act.bind_of_ok run, Act.bind_of_ok otherRun]
    exact rest value counterpart alike after
  · exact Or.inr ⟨fault, after, Act.bind_of_error run, Act.bind_of_error otherRun⟩

/-- Only the counterpart is reworked. -/
theorem wrapped {result : β → δ} {outcome : α → δ → Prop} (agreed : read.Agrees related other)
    (wraps : ∀ value counterpart, related value counterpart → outcome value (result counterpart)) :
    Agrees outcome read (do return result (← other)) := by
  have whole : Agrees outcome (read >>= pure) (do return result (← other)) :=
    agreed.bind fun value counterpart alike => .pure (wraps value counterpart alike)
  rwa [bind_pure] at whole

/-- Only the value is reworked. -/
theorem reworked {result : α → γ} {outcome : γ → β → Prop} (agreed : read.Agrees related other)
    (reworks : ∀ value counterpart, related value counterpart →
      outcome (result value) counterpart) :
    Agrees outcome (do return result (← read)) other := by
  have whole : Agrees outcome (do return result (← read)) (other >>= pure) :=
    agreed.bind fun value counterpart alike => .pure (reworks value counterpart alike)
  rwa [bind_pure] at whole

/-- A read agrees with itself behind a function. -/
theorem wrap (read : Read α) (result : α → δ) :
    Agrees (fun value counterpart => counterpart = result value) read
      (do return result (← read)) := by
  refine (Agrees.refl read).wrapped ?_
  rintro value _ rfl
  rfl

/-- Item by item agreement of what is read a number of times. -/
theorem times (each : read.Agrees related other) (count : Nat) :
    Agrees (List.Forall₂ related) (Read.times read count) (Read.times other count) := by
  induction count with
  | zero => exact .pure .nil
  | succ count ih =>
      refine each.bind fun first counterpart alike => ?_
      exact ih.bind fun others counterparts allAlike => .pure (.cons alike allAlike)

/-- What agreeing reads make of a whole input. -/
theorem liftExact (agreed : read.Agrees related other) (bytes : Bytes) :
    (∃ value counterpart, related value counterpart ∧
      read.liftExact bytes = .ok value ∧ other.liftExact bytes = .ok counterpart) ∨
    ∃ fault, read.liftExact bytes = .error fault ∧ other.liftExact bytes = .error fault := by
  have finished : Agrees related (do let value ← read; finish; return value)
      (do let counterpart ← other; finish; return counterpart) :=
    agreed.bind fun value counterpart alike => (Agrees.refl finish).bind fun _ _ _ => .pure alike
  unfold Read.liftExact
  rcases finished (Reader.ofBytes bytes) with ⟨value, counterpart, after, alike, run, otherRun⟩ |
    ⟨fault, after, run, otherRun⟩
  · rw [run, otherRun]
    exact Or.inl ⟨value, counterpart, alike, rfl, rfl⟩
  · rw [run, otherRun]
    exact Or.inr ⟨fault, rfl, rfl⟩

end Agrees

end Boundary.Read
