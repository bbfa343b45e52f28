import Boundary.Codec.Error
import Boundary.Fault
import Boundary.Wire.Bytes

/-!
# Bounds-checked slices

Positions and lengths are 64-bit words, so the end of a slice may not be representable.  Reading
then asks for the greatest word.  Writing takes the end by an addition that is not checked, which
panics instead.
-/

namespace Boundary

/-- The bytes from `start` on, `count` of them. -/
def readSlice (buffer : Bytes) (start count : Nat) : Except CodecError Bytes :=
  let stop := start + count
  if stop ≤ buffer.length then
    .ok ((buffer.drop start).take count)
  else
    .error (.bufferTooSmall (min stop (wordLimit - 1)) buffer.length)

/-- The buffer with `data` in place of the bytes from `start` on. -/
def writeSlice (buffer : Bytes) (start : Nat) (data : Bytes) : Outcome CodecError Bytes :=
  let stop := start + data.length
  if wordLimit ≤ stop then .error (.panic .additionOverflow)
  else if stop ≤ buffer.length then
    .ok (buffer.take start ++ data ++ buffer.drop stop)
  else
    .error (.error (.bufferTooSmall stop buffer.length))

end Boundary
