import Boundary.Codec.Error
import Boundary.Fault
import Boundary.Wire.Bytes

/-!
# Readers

A reader walks over bytes from front to back.  A primitive read that fails leaves the reader where
it was; a composite read that fails keeps what its parts consumed before.
-/

namespace Boundary

/-- How many bytes were consumed, and the bytes that were not. -/
structure Reader where
  position : Nat
  rest : Bytes
  deriving DecidableEq, Repr

/-- Reading a value. -/
abbrev Read (α : Type) := Act Reader CodecError α

namespace Reader

/-- A reader at the start of the given bytes. -/
def ofBytes (bytes : Bytes) : Reader := ⟨0, bytes⟩

/-- The number of bytes not consumed yet. -/
def remaining (reader : Reader) : Nat := reader.rest.length

end Reader

namespace Read

/-- Consumes `count` bytes. -/
def bytes (count : Nat) : Read Bytes := fun reader =>
  let taken := reader.rest.take count
  if taken.length = count then
    .ok taken ⟨reader.position + count, reader.rest.drop count⟩
  else
    .error (.error (.bufferTooSmall (min (reader.position + count) (wordLimit - 1))
      (reader.position + reader.rest.length))) reader

/-- Consumes a big-endian word of `width` bytes. -/
def word (width : Nat) : Read (BitVec (8 * width)) := do
  let digits ← bytes width
  return BitVec.ofNat _ (BigEndian.decode digits)

/-- Consumes one byte. -/
def byte : Read Nat := do
  let digit ← word 1
  return digit.toNat

/-- Consumes a length prefix: a signed 32-bit word that must not be negative. -/
def length : Read Nat := do
  let lengthWord ← word 4
  if lengthWord.toInt < 0 then Act.fail (.negativeLength lengthWord.toInt)
  else return lengthWord.toNat

/-- Consumes a one-based case number and yields the position of the case. -/
def discriminant (typeName : String) (caseCount : Nat) : Read Nat := do
  let tag := (← word 4).toInt
  if 1 ≤ tag ∧ tag ≤ caseCount then return (tag - 1).toNat
  else Act.fail (.invalidDiscriminant typeName tag caseCount)

/-- Succeeds at the end of the input only. -/
def finish : Read Unit := fun reader =>
  match reader.remaining with
  | 0 => .ok () reader
  | count => .error (.error (.trailingBytes count)) reader

/-- Reads the same kind of value a number of times. -/
def times {α : Type} (item : Read α) : Nat → Read (List α)
  | 0 => pure []
  | count + 1 => do
    let first ← item
    let others ← times item count
    return first :: others

/-- Reads a value from the front of the bytes, and tells how many bytes it took. -/
def lift {α : Type} (value : Read α) (bytes : Bytes) : Outcome CodecError (α × Nat) :=
  match value (Reader.ofBytes bytes) with
  | .ok result reader => .ok (result, reader.position)
  | .error fault _ => .error fault

/-- Reads a value that takes up the bytes entirely. -/
def liftExact {α : Type} (value : Read α) (bytes : Bytes) : Outcome CodecError α :=
  match (do let result ← value; finish; return result : Read α) (Reader.ofBytes bytes) with
  | .ok result _ => .ok result
  | .error fault _ => .error fault

end Read

end Boundary
