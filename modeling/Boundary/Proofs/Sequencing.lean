import Boundary.Part

/-! # Computations run one after the other

A computation made of a first part and a continuation ends as its first part does
when that one fails, and otherwise as the continuation does on the state that the
first part left (`Boundary.Act.bind_eq_ok_iff`, `Boundary.Act.bind_eq_error_iff`). One that is
reworded or observed ends as it does otherwise. A first part that cannot fail always passes
its state on.
-/

namespace Boundary.Act

variable {σ ε α β : Type} {act : EStateM ε σ α} {next : α → EStateM ε σ β}
  {state after between : σ} {middle : α} {value : β} {fault : ε}

theorem bind_of_ok (first : act state = .ok middle between) :
    (act >>= next) state = next middle between := by
  change EStateM.bind act next state = _
  simp only [EStateM.bind, first]

theorem bind_of_error (first : act state = .error fault after) :
    (act >>= next) state = .error fault after := by
  change EStateM.bind act next state = _
  simp only [EStateM.bind, first]

/-- A sequence succeeds exactly when both of its parts do. -/
theorem bind_eq_ok_iff : (act >>= next) state = .ok value after ↔
    ∃ middle between, act state = .ok middle between ∧ next middle between = .ok value after := by
  constructor
  · intro run
    cases first : act state with
    | ok middle between =>
        rw [bind_of_ok first] at run
        exact ⟨middle, between, rfl, run⟩
    | error fault left =>
        rw [bind_of_error first] at run
        cases run
  · rintro ⟨middle, between, first, rest⟩
    rw [bind_of_ok first, rest]

/-- A sequence fails with the fault of the part that failed. -/
theorem bind_eq_error_iff : (act >>= next) state = .error fault after ↔
    act state = .error fault after ∨
      ∃ middle between, act state = .ok middle between ∧
        next middle between = .error fault after := by
  constructor
  · intro run
    cases first : act state with
    | ok middle between =>
        rw [bind_of_ok first] at run
        exact Or.inr ⟨middle, between, rfl, run⟩
    | error other left =>
        rw [bind_of_error first] at run
        cases run
        exact Or.inl rfl
  · rintro (failed | ⟨middle, between, first, rest⟩)
    · exact bind_of_error failed
    · rw [bind_of_ok first, rest]

/-! ## Rewording and observing -/

section

variable {ε' : Type} {run : Act σ ε α} {fault : Fault ε} {value : α}

theorem mapError_of_ok (ended : run state = .ok value after) (reword : ε → ε') :
    run.mapError reword state = .ok value after := by
  unfold mapError
  rw [ended]

theorem mapError_of_error (ended : run state = .error fault after) (reword : ε → ε') :
    run.mapError reword state = .error (fault.map reword) after := by
  unfold mapError
  rw [ended]

theorem observe_of_ok (ended : run state = .ok value after) :
    run.observe state = (.ok value, after) := by
  unfold observe
  rw [ended]

theorem observe_of_error (ended : run state = .error fault after) :
    run.observe state = (.error fault, after) := by
  unfold observe
  rw [ended]

theorem bind_ofTotal {α β : Type} (run : StateM σ α) (next : α → Act σ ε β) (state : σ) :
    (ofTotal run >>= next) state = next (run state).1 (run state).2 := rfl

end

end Boundary.Act

namespace Boundary

/-! ## Computations that cannot fail -/

section

variable {σ α β : Type}

theorem bind_apply (run : StateM σ α) (next : α → StateM σ β) (state : σ) :
    (run >>= next) state = next (run state).1 (run state).2 := rfl

theorem pure_apply (value : α) (state : σ) : (pure value : StateM σ α) state = (value, state) := rfl

theorem get_apply (state : σ) : (get : StateM σ σ) state = (state, state) := rfl

theorem modify_apply (change : σ → σ) (state : σ) :
    (modify change : StateM σ Unit) state = ((), change state) := rfl

theorem getThe_apply (state : σ) : (getThe σ : StateM σ σ) state = (state, state) := rfl

/-- Running on a part reads the part, and sets what the run left of it. -/
theorem onPart_apply {τ : Type} [Part σ τ] (run : StateM τ α) (state : σ) :
    onPart run state = ((run (Part.get state)).1, Part.set (run (Part.get state)).2 state) := rfl

end

/-! ## Checks -/

/-- A check followed by another passes exactly when both do. -/
theorem except_bind_eq_ok_iff {ε α β : Type} {first : Except ε α} {next : α → Except ε β}
    {value : β} : (first >>= next) = .ok value ↔
      ∃ middle, first = .ok middle ∧ next middle = .ok value := by
  cases first with
  | ok middle =>
      constructor
      · intro run
        exact ⟨middle, rfl, run⟩
      · rintro ⟨_, same, run⟩
        cases same
        exact run
  | error cause =>
      constructor
      · intro run
        cases run
      · rintro ⟨_, failed, _⟩
        cases failed

end Boundary
