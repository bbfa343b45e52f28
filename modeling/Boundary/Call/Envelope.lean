import Boundary.Call.Passing
import Boundary.Call.Status
import Boundary.Part

/-!
# The call envelope

Every entry point runs its body inside an envelope, which turns however the body ends into a value
and a status: a result is passed, a declared error goes into the error buffer, and a panic or an
internal failure becomes a panic status with a text.  Nothing unwinds across the boundary.

Bodies may work on any state of which the ledger is a part.
-/

namespace Boundary

/-- The number of buffers handed out and not released. -/
def outstanding {σ : Type} [Part σ Ledger] (state : σ) : Nat :=
  (Part.get state : Ledger).outstanding

/-- A function that is called across the boundary: it yields a value and a status. -/
abbrev EntryPoint (σ τ : Type) := StateM σ (τ × Status)

namespace Envelope

variable {σ τ ρ : Type} [Part σ Ledger]

/-- The value and status of a body that ended with a passed result, an encoded declared error, or a
fault. -/
def settle (placeholder : τ) : Outcome Error (Except Buffer τ) → StateM Ledger (τ × Status)
  | .ok (.ok value) => return (value, Status.success)
  | .ok (.error encoding) => return (placeholder, Status.error encoding)
  | .error (.error internal) => do return (placeholder, ← Status.panic internal.message)
  | .error (.panic payload) => do return (placeholder, ← Status.panic payload.message)

/-- Passes how a body ended: its result, or the encoding of the error it declares. -/
def pack (pass : ρ → LedgerAct τ) : Outcome Lowering ρ → LedgerAct (Except Buffer τ)
  | .ok result => do return .ok (← pass result)
  | .error (.error declared) => do return .error (← Buffer.lower declared)
  | .error (.panic payload) => Act.unwind payload

/-- Runs a body that may declare errors. -/
def result (placeholder : τ) (pass : ρ → LedgerAct τ) (body : Act σ Lowering ρ) :
    StateM σ (τ × Status) := do
  let ended ← body.observe
  onPart do
    settle placeholder (← (pack pass ended).observe)

/-- Runs a body whose failures are internal. -/
def internal (placeholder : τ) (body : Act σ Error τ) : StateM σ (τ × Status) := do
  let ended ← body.observe
  onPart (settle placeholder (ended.map .ok))

/-- Runs a body that may declare errors and passes its result through a channel. -/
def outputOrError (channel : Channel) (body : Act σ Lowering Output) : EntryPoint σ Passed :=
  result channel.placeholder Output.pass body

/-- Runs a body that declares no errors and passes its result through a channel. -/
def output (channel : Channel) (body : Act σ Empty Output) : EntryPoint σ Passed :=
  result channel.placeholder Output.pass (body.mapError nofun)

/-- Runs a body whose failures are internal and passes its result through a channel. -/
def internalOutput (channel : Channel) (body : Act σ Error Output) : EntryPoint σ Passed :=
  internal channel.placeholder (do (← body).pass.onPart)

end Envelope

end Boundary
