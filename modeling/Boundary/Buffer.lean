import Boundary.Codec.Lowering
import Boundary.Error
import Boundary.Ledger
import Boundary.Schema.Decoding
import Boundary.Schema.Encoding

/-!
# Buffers

A buffer carries encoded values across the boundary.  The core allocates it and releases it; in
between it has one owner, who gives it up when handing it on.  A buffer is a plain record, so that a
stale copy or an altered one can be presented to the core; the ledger tells these from the buffer
that was handed out.

A buffer without capacity has no memory and is not recorded.
-/

namespace Boundary

/-- The claim to an allocation: how much of it holds data, and where it is. -/
structure Buffer where
  capacity : Nat
  length : Nat
  address : Option Address
  deriving DecidableEq, Repr

/-- A computation on the ledger that runs code brought by values. -/
abbrev LedgerAct (α : Type) := Act Ledger Error α

namespace Buffer

/-- The buffer without memory. -/
def empty : Buffer := ⟨0, 0, none⟩

instance : Inhabited Buffer := ⟨empty⟩

/-- Whether the buffer holds no data. -/
def isEmpty (buffer : Buffer) : Bool := buffer.length == 0

/-- Whether the buffer has no memory to point at. -/
def isNull (buffer : Buffer) : Bool := buffer.address.isNone

/-- Hands out memory with the given contents, of which `length` bytes count as data. -/
def record (capacity length : Nat) (contents : Region) : StateM Ledger Buffer := fun ledger =>
  if capacity = 0 then (empty, ledger)
  else
    let (address, ledger) := ledger.register ⟨capacity, contents⟩
    (⟨capacity, length, some address⟩, ledger)

/-- Hands out bytes, with memory to spare behind them. -/
def ofBytesSparing (data : Bytes) (spare : Nat) : StateM Ledger Buffer :=
  record (data.length + spare) data.length (Region.ofBytes data)

/-- Hands out bytes in memory of exactly their size. -/
def ofBytes (data : Bytes) : StateM Ledger Buffer := ofBytesSparing data 0

/-- Hands out zeroed memory. -/
def allocate (size : Nat) : EStateM BufferError Ledger Buffer :=
  if maxLength < size then throw (.tooLarge size)
  else fun ledger =>
    let (buffer, ledger) := record size size (Region.zeroed size) ledger
    .ok buffer ledger

/-- Accepts a record whose fields go together and whose data a length prefix can count. -/
def checkLayout (buffer : Buffer) : Except BufferError Unit :=
  if buffer.capacity < buffer.length ∨ buffer.isNull ≠ (buffer.capacity == 0) then
    .error (.invalidLayout buffer.length buffer.capacity buffer.isNull)
  else if maxLength < buffer.length then .error (.lengthOverflow buffer.length)
  else .ok ()

/-- Whether the allocation is handed out, with the capacity that the buffer claims. -/
def isLive (buffer : Buffer) (ledger : Ledger) : Bool :=
  match buffer.address with
  | none => true
  | some address => ledger.isLive address buffer.capacity

/-- The data of a buffer, as the side sees it that has no access to the ledger: only the layout is
checked. -/
def readUnchecked (buffer : Buffer) (ledger : Ledger) : Except BufferError Bytes := do
  buffer.checkLayout
  match buffer.address with
  | none => return []
  | some address =>
    return ((ledger.memory? address).getD (Region.zeroed 0)).read buffer.length

/-- The data of a buffer that is handed out. -/
def read (buffer : Buffer) (ledger : Ledger) : Except BufferError Bytes := do
  buffer.checkLayout
  match buffer.address with
  | none => return []
  | some address =>
    if ledger.isLive address buffer.capacity then
      return ((ledger.memory? address).getD (Region.zeroed 0)).read buffer.length
    else throw (.notOwned address)

/-- Checks the memory of a buffer out, if it has any.  A refused buffer leaves the ledger as it
was. -/
def checkOut (buffer : Buffer) : EStateM BufferError Ledger (Option Block) := fun ledger =>
  match buffer.checkLayout with
  | .error cause => .error cause ledger
  | .ok () =>
    match buffer.address with
    | none => .ok none ledger
    | some address =>
      match ledger.release address buffer.capacity with
      | .error cause => .error cause ledger
      | .ok (block, ledger) => .ok (some block) ledger

/-- Releases a buffer and yields what it held. -/
def take (buffer : Buffer) : EStateM BufferError Ledger Bytes := do
  match ← buffer.checkOut with
  | none => return []
  | some block => return block.contents.read buffer.length

/-- Releases a buffer. -/
def free (buffer : Buffer) : EStateM BufferError Ledger Unit := do
  let _ ← buffer.take

/-- The capacity to which memory grows when `required` bytes do not fit: at least twice what it was,
and never below eight. -/
def grownCapacity (capacity required : Nat) : Nat := max 8 (max (2 * capacity) required)

/-- Makes room for `additional` bytes behind the data.  The old buffer is released whatever happens;
an allocation that has enough to spare is kept, and one that grows keeps what it holds. -/
def reserve (buffer : Buffer) (additional : Nat) : EStateM BufferError Ledger Buffer := do
  let total := min (buffer.length + additional) (wordLimit - 1)
  let block ← buffer.checkOut
  if maxLength < total then throw (.tooLarge total)
  let contents := (block.map Block.contents).getD (Region.zeroed 0)
  match buffer.address with
  | some address =>
    if total ≤ buffer.capacity then
      modify fun ledger => ledger.registerAgain address ⟨buffer.capacity, contents⟩
      return buffer
  | none => pure ()
  if total = 0 then return empty
  fun ledger =>
    let (buffer, ledger) :=
      record (grownCapacity buffer.capacity total) buffer.length contents ledger
    .ok buffer ledger

/-- Ends the filling of a buffer.  A buffer that did not come out full is released; a panic on the
way leaves it handed out. -/
def finishFilling (buffer : Buffer) : Outcome CodecError Bytes → LedgerAct Buffer
  | .ok data => do
    match buffer.address with
    | some address => modify fun ledger => ledger.store address (Region.ofBytes data)
    | none => pure ()
    return buffer
  | .error (.error cause) => do
    (Act.ofReporting buffer.free).mapError Error.buffer
    Act.fail (.codec cause)
  | .error (.panic payload) => Act.unwind payload

/-- Allocates a buffer of the announced size and fills it. -/
def lower (lowering : Lowering) : LedgerAct Buffer := do
  let size ← (Act.ofOutcome lowering.announce).mapError Error.codec
  let buffer ← (Act.ofReporting (allocate size)).mapError Error.buffer
  buffer.finishFilling lowering.fill

/-- Encodes a value and hands out the bytes. -/
def lowerValue (schema : Schema) (value : Value) : LedgerAct Buffer := do
  let data ← (Act.ofOutcome (schema.encode value)).mapError Error.codec
  Act.ofTotal (ofBytes data)

/-- What comes of decoding the data of a buffer, or of not being able to read it. -/
def settleWith {α : Type} (decode : Bytes → Outcome CodecError α) :
    Except BufferError Bytes → Outcome Error α
  | .error cause => .error (.error (.buffer cause))
  | .ok data => (decode data).mapError (Fault.map Error.codec)

/-- Decodes the data of a buffer and releases it, whether decoding succeeds or not.  If the release
fails too, that failure is reported.  A panic leaves the buffer handed out. -/
def consume {α : Type} (buffer : Buffer) (decode : Bytes → Outcome CodecError α) :
    LedgerAct α := do
  match settleWith decode (buffer.read (← get)) with
  | .error (.panic payload) => Act.unwind payload
  | settled => do
    (Act.ofReporting buffer.free).mapError Error.buffer
    Act.ofOutcome settled

/-- Decodes the one value that a buffer holds, and releases the buffer. -/
def lift {α : Type} (buffer : Buffer) (value : Read α) : LedgerAct α :=
  buffer.consume value.liftExact

/-- Decodes the one value that a buffer holds, and releases the buffer. -/
def liftValue (buffer : Buffer) (schema : Schema) : LedgerAct Value :=
  buffer.consume schema.decode

end Buffer

/-- A view of bytes that belong to the host: a signed length, and the memory unless it is null. -/
structure ForeignBytes where
  length : Int
  data : Option Bytes
  deriving DecidableEq, Repr

namespace ForeignBytes

/-- The view of all the bytes, if a signed 32-bit length can count them. -/
def ofBytes? (data : Bytes) : Except BufferError ForeignBytes :=
  if maxLength < data.length then .error (.lengthOverflow data.length)
  else .ok ⟨data.length, some data⟩

/-- The number of bytes in view; none if the length is negative. -/
def size (view : ForeignBytes) : Nat := view.length.toNat

/-- The bytes in view. -/
def read (view : ForeignBytes) : Except BufferError Bytes :=
  if view.length < 0 ∨ view.data.isNone ∧ view.length ≠ 0 then
    .error (.invalidLayout view.length.natAbs view.length.natAbs view.data.isNone)
  else
    .ok ((view.data.getD []).take view.size)

end ForeignBytes

/-- Copies bytes of the host into a buffer. -/
def Buffer.ofForeignBytes (view : ForeignBytes) : EStateM BufferError Ledger Buffer :=
  match view.read with
  | .error cause => throw cause
  | .ok data => fun ledger =>
    let (buffer, ledger) := Buffer.ofBytes data ledger
    .ok buffer ledger

end Boundary
