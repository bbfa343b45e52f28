import Boundary.Wire.Bytes

/-!
# Hexadecimal numerals

Addresses and checksums appear in messages as lower-case hexadecimal numerals with the mark `0x`.
Bytes are shown as two digits each.
-/

namespace Boundary

namespace Hex

/-- The lower-case hexadecimal digits of a number, most significant first. -/
def digits (number : Nat) : String :=
  String.ofList (Nat.toDigits 16 number)

/-- The digits, filled up with zeros on the left to a least count. -/
def padded (leastCount number : Nat) : String :=
  let digits := Nat.toDigits 16 number
  String.ofList (List.replicate (leastCount - digits.length) '0' ++ digits)

/-- An address: the mark and as many digits as it needs. -/
def address (number : Nat) : String := "0x" ++ digits number

/-- A checksum: the mark and at least four digits. -/
def checksum (number : Nat) : String := "0x" ++ padded 4 number

/-- The digits of bytes, two for each. -/
def ofBytes (bytes : Bytes) : String :=
  String.join (bytes.map fun byte => padded 2 byte.toNat)

/-- The value of a digit. -/
def value? (digit : Char) : Option Nat :=
  if '0' ≤ digit ∧ digit ≤ '9' then some (digit.toNat - '0'.toNat)
  else if 'a' ≤ digit ∧ digit ≤ 'f' then some (digit.toNat - 'a'.toNat + 10)
  else if 'A' ≤ digit ∧ digit ≤ 'F' then some (digit.toNat - 'A'.toNat + 10)
  else none

/-- The bytes whose digits are given, two for each. -/
def bytes? : List Char → Option Bytes
  | [] => some []
  | [_] => none
  | high :: low :: rest => do
    return UInt8.ofNat (16 * (← value? high) + (← value? low)) :: (← bytes? rest)

end Hex

end Boundary
