import Boundary.Wire.Utf8

/-!
# Checksums

The checksum of a canonical text is a 32-bit hash of its bytes, with the upper half folded onto the
lower one.  Both sides of a boundary use the same hash, which is the cyclic redundancy check
`Checksum.crc32`; nothing that is said of contracts depends on which it is.
-/

namespace Boundary

namespace Checksum

/-- The generator polynomial of the check, least significant bit first. -/
def polynomial : UInt32 := 0xedb88320

/-- One step of the division by the polynomial. -/
def divideBit (remainder : UInt32) : UInt32 :=
  if remainder &&& 1 = 1 then (remainder >>> 1) ^^^ polynomial else remainder >>> 1

/-- The remainder after another byte. -/
def divideByte (remainder : UInt32) (byte : UInt8) : UInt32 :=
  Nat.repeat divideBit 8 (remainder ^^^ byte.toUInt32)

/-- The cyclic redundancy check of some bytes. -/
def crc32 (data : Bytes) : UInt32 :=
  data.foldl divideByte 0xffffffff ^^^ 0xffffffff

/-- The checksum of a text. -/
def ofText (hash : Bytes → UInt32) (text : String) : UInt16 :=
  let check := hash (Utf8.encode text)
  (check ^^^ (check >>> 16)).toUInt16

end Checksum

end Boundary
