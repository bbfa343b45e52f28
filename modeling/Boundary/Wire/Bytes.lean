/-!
# Bytes and big-endian words

Every number on the wire has a fixed width and is written most significant byte first.  The main
statements say that `encode` writes exactly `width` bytes and that `decode` reads them from the
front, each byte counting for 256 times as much as the one behind it.
-/

namespace Boundary

/-- A string of bytes. -/
abbrev Bytes := List UInt8

/-- The greatest length that a signed 32-bit length prefix can carry. -/
def maxLength : Nat := 0x7fffffff

/-- One past the greatest number that a 64-bit word can hold. -/
def wordLimit : Nat := 0x10000000000000000

/-- One past the greatest number that a signed 64-bit word can hold. -/
def signedLimit : Nat := 0x8000000000000000

namespace BigEndian

/-- The last `width` base-256 digits of a number, most significant first. -/
def encode : (width : Nat) → (number : Nat) → Bytes
  | 0, _ => []
  | width + 1, number => encode width (number / 256) ++ [UInt8.ofNat number]

/-- The number whose base-256 digits are the given bytes. -/
def decode (bytes : Bytes) : Nat :=
  bytes.foldl (fun number byte => number * 256 + byte.toNat) 0

@[simp] theorem length_encode (width number : Nat) : (encode width number).length = width := by
  induction width generalizing number with
  | zero => rfl
  | succ width inductionHypothesis => simp [encode, inductionHypothesis]

@[simp] theorem decode_nil : decode [] = 0 := rfl

/-- One byte more shifts the number by eight bits. -/
@[simp] theorem decode_append_byte (bytes : Bytes) (byte : UInt8) :
    decode (bytes ++ [byte]) = decode bytes * 256 + byte.toNat := by
  simp [decode, List.foldl_append]

end BigEndian

end Boundary
