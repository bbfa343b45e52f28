import Boundary.Fault

/-!
# Parts of a state

A computation that needs only a part of a larger state is written for that part, and runs on every
state that has it.  The laws of `Part` say that setting a part changes nothing else.
-/

namespace Boundary

/-- States of type `σ` have a part of type `τ`. -/
class Part (σ τ : Type) where
  get : σ → τ
  set : τ → σ → σ
  get_set (new : τ) (state : σ) : get (set new state) = new
  set_get (state : σ) : set (get state) state = state
  set_set (new old : τ) (state : σ) : set new (set old state) = set new state

namespace Part

variable {σ τ υ : Type}

/-- A state is a part of itself. -/
instance self : Part τ τ where
  get := id
  set new _ := new
  get_set _ _ := rfl
  set_get _ := rfl
  set_set _ _ _ := rfl

/-- A part of a part. -/
@[reducible] def within (outer : Part σ τ) (inner : Part τ υ) : Part σ υ where
  get state := inner.get (outer.get state)
  set new state := outer.set (inner.set new (outer.get state)) state
  get_set new state := by rw [outer.get_set, inner.get_set]
  set_get state := by rw [inner.set_get, outer.set_get]
  set_set new old state := by rw [outer.get_set, outer.set_set, inner.set_set]

end Part

variable {σ τ ε α : Type}

/-- Runs a computation on a part of the state. -/
def onPart [Part σ τ] (run : StateM τ α) : StateM σ α := fun state =>
  let (value, part) := run (Part.get state)
  (value, Part.set part state)

/-- Runs a computation that may fail on a part of the state. -/
def Act.onPart [Part σ τ] (act : Act τ ε α) : Act σ ε α := fun state =>
  match act (Part.get state) with
  | .ok value part => .ok value (Part.set part state)
  | .error fault part => .error fault (Part.set part state)

end Boundary
