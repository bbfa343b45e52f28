import Boundary.Contract.Binding

/-!
# Guards

A guard verifies bindings at the first call and keeps the outcome for all later ones.
-/

namespace Boundary

/-- Bindings, and the outcome of their verification once it was made. -/
structure LibraryGuard where
  bindings : Bindings
  omitChecksums : Bool
  outcome : Option (Except IntegrityError Unit)

namespace LibraryGuard

/-- A guard that has not verified anything. -/
def ofBindings (bindings : Bindings) (omitChecksums : Bool) : LibraryGuard :=
  ⟨bindings, omitChecksums, none⟩

/-- Whether the core was accepted, if it was verified. -/
def checked? (guard : LibraryGuard) : Option Bool :=
  guard.outcome.map fun outcome => outcome.isOk

/-- The outcome of the first verification, which this call makes if none was made before. -/
def ensure (guard : LibraryGuard) (native : NativeContract) : Verification × LibraryGuard :=
  match guard.outcome with
  | some outcome => (⟨outcome, []⟩, guard)
  | none =>
    let verification := guard.bindings.verify guard.omitChecksums native
    (verification, { guard with outcome := some verification.outcome })

end LibraryGuard

end Boundary
