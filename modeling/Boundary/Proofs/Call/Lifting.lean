import Boundary.Proofs.Call.Checking
import Boundary.Proofs.Call.InProcess

/-! # Lifting gives a buffer back on either side

The core reads a buffer that its ledger has on record, and releases it itself. The host looks at
the layout and nothing else, and gives the buffer back through an entry point that has a status
of its own. What comes of it is the same (`Boundary.lifting_releases_once`): the answer is what
decoding the data comes to, and the allocation of the buffer goes off the record, whether the data
could be decoded or not.
-/

namespace Boundary

/-- What data is decoded as: a value of a static type, or one of the type that a schema
describes. -/
inductive Wanted : Type → Type 1
  | typed {α : Type} (value : Read α) : Wanted α
  | described (schema : Schema) : Wanted Value

/-- What comes of decoding data that nobody has to give back. -/
def Wanted.decode {α : Type} : Wanted α → Bytes → Outcome CodecError α
  | typed value => value.liftExact
  | described schema => schema.decode

/-- The side of the boundary on which a buffer is lifted. -/
inductive Side
  | core
  | host
  deriving DecidableEq

section

variable {σ α : Type} [Part σ Ledger]

/-- Lifts the value that a buffer holds on one side of the boundary. -/
def Side.lift : Side → Wanted α → Buffer → Act σ Error α
  | core, .typed value, buffer => (buffer.lift value).onPart
  | core, .described schema, buffer => (buffer.liftValue schema).onPart
  | host, .typed value, buffer => Caller.inProcess.lift buffer value
  | host, .described schema, buffer => Caller.inProcess.liftValue buffer schema

variable {buffer : Buffer} {data : Bytes} {ledger : Ledger}

/-- On the core, decoding a buffer releases it, unless the decoding panics. -/
theorem Buffer.Holds.consume (holds : buffer.Holds ledger data)
    (decode : Bytes → Outcome CodecError α) :
    buffer.consume decode ledger =
      match decode data with
      | .ok value => .ok value (buffer.releasedFrom ledger)
      | .error (.error cause) => .error (.error (.codec cause)) (buffer.releasedFrom ledger)
      | .error (.panic payload) => .error (.panic payload) ledger := by
  have current : (get : LedgerAct Ledger) ledger = .ok ledger ledger := rfl
  have released := Buffer.freeing_of_holds holds
  unfold Buffer.consume
  rw [Act.bind_of_ok current, holds.read, Buffer.settleWith]
  cases decode data with
  | ok value => exact Act.bind_of_ok released
  | error fault =>
      cases fault with
      | error cause => exact Act.bind_of_ok released
      | panic payload => rfl

/-- Both sides do what the core does to the ledger. -/
theorem Side.lift_eq (side : Side) (wanted : Wanted α) {state : σ}
    (holds : buffer.Holds (Part.get state) data) :
    (side.lift wanted buffer : Act σ Error α) state =
      match wanted.decode data with
      | .ok value => .ok value (Part.set (buffer.releasedFrom (Part.get state)) state)
      | .error (.error cause) =>
          .error (.error (.codec cause)) (Part.set (buffer.releasedFrom (Part.get state)) state)
      | .error (.panic payload) => .error (.panic payload) state := by
  have onCore (decode : Bytes → Outcome CodecError α) :
      (Act.onPart (buffer.consume decode) : Act σ Error α) state =
        match decode data with
        | .ok value => .ok value (Part.set (buffer.releasedFrom (Part.get state)) state)
        | .error (.error cause) =>
            .error (.error (.codec cause)) (Part.set (buffer.releasedFrom (Part.get state)) state)
        | .error (.panic payload) => .error (.panic payload) state := by
    have ran := holds.consume decode
    match decoded : decode data with
    | .ok value =>
        rw [decoded] at ran
        exact Act.onPart_of_ok ran
    | .error (.error cause) =>
        rw [decoded] at ran
        exact Act.onPart_of_error ran
    | .error (.panic payload) =>
        rw [decoded] at ran
        rw [Act.onPart_of_error ran, Part.set_get]
  have released := Caller.release_inProcess holds
  cases side with
  | core =>
      cases wanted with
      | typed value => exact onCore value.liftExact
      | described schema => exact onCore schema.decode
  | host =>
      cases wanted with
      | typed value => exact Caller.consume_of_released holds released value.liftExact
      | described schema => exact Caller.consume_of_released holds released schema.decode

/-- **Lifting answers what decoding answers and releases the buffer.** If the data of a buffer can
be decoded without a panic, as a value of a static type or of a described one, then lifting the
buffer ends the way decoding the data does, on the core and on a host that shares its memory. The
allocation of the buffer goes off the record once, whether the data could be decoded or not, and
everything else that is on record stays. -/
theorem lifting_releases_once (side : Side) (wanted : Wanted α) (state : σ)
    (orderly : (Part.get state : Ledger).Orderly) (holds : buffer.Holds (Part.get state) data)
    (calm : ∀ payload, wanted.decode data ≠ .error (.panic payload)) : ∃ after,
    (side.lift wanted buffer : Act σ Error α).observe state =
      ((wanted.decode data).mapError (Fault.map Error.codec), Part.set after state) ∧
    buffer.GivenBack (Part.get state) after := by
  refine ⟨buffer.releasedFrom (Part.get state), ?_, holds.givenBack orderly⟩
  have lifted := side.lift_eq wanted holds
  match decoded : wanted.decode data with
  | .ok value =>
      rw [decoded] at lifted
      exact Act.observe_of_ok lifted
  | .error (.error cause) =>
      rw [decoded] at lifted
      exact Act.observe_of_error lifted
  | .error (.panic payload) => exact absurd decoded (calm payload)

/-- A text that ends before its length does is refused on both sides, and only its own buffer is
released. -/
theorem lifting_releases_malformed_text :
    let data : Bytes := [0, 0, 0, 9]
    let ledger : Ledger := ⟨[(2, ⟨4, .ofBytes data⟩), (1, ⟨8, .zeroed 8⟩)], [], 3⟩
    let buffer : Buffer := ⟨4, 4, some 2⟩
    let refused : Outcome Error String :=
      .error (.error (.codec (.bufferTooSmall 13 4)))
    ledger.Orderly ∧ buffer.Holds ledger data ∧
      (∀ payload, (Wanted.typed Utf8.read).decode data ≠ .error (.panic payload)) ∧
      ∀ side : Side, ∃ after,
        (side.lift (.typed Utf8.read) buffer).observe ledger = (refused, after) ∧
          buffer.GivenBack ledger after ∧ after.isLive 1 8 ∧ after.outstanding = 1 := by
  intro data ledger buffer refused
  have orderly : ledger.Orderly := ⟨by decide, by decide⟩
  have holds : buffer.Holds ledger data :=
    .recorded rfl (by decide) (by decide) (by decide) rfl
  have calm := Read.NeverPanics.text.liftExact data
  refine ⟨orderly, holds, calm, fun side => ?_⟩
  obtain ⟨after, lifted, given⟩ :=
    lifting_releases_once side (.typed Utf8.read) ledger orderly holds calm
  have untouched : after.find? 1 = some ⟨8, .zeroed 8⟩ := given.find? 1
  refine ⟨after, lifted, given, Ledger.isLive_iff.mpr ⟨_, untouched⟩, ?_⟩
  exact Nat.add_right_cancel given.once

end

end Boundary
