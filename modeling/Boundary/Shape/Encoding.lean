import Boundary.Codec.Lowering
import Boundary.Shape

/-!
# Encoding values of known shape

The lowering of a value is assembled from the lowerings of its parts, without a schema.  A map is
written in the order of its entries.
-/

namespace Boundary

namespace Shape

/-- The lowering of a value. -/
def lowering : (shape : Shape) → shape.Carrier → Lowering
  | scalar type, word => Lowering.word type.width (BitVec.toNat word)
  | bool, truth => Lowering.bool truth
  | string, text => Lowering.string text
  | duration, length => ⟨12, Duration.write length⟩
  | instant, time => ⟨12, Instant.write time⟩
  | handle, name => ⟨8, Handle.write name⟩
  | optional item, value => Lowering.optional (Option.map item.lowering value)
  | list item, items => Lowering.sequence (List.map item.lowering items)
  | map key value, entries =>
    Lowering.sequence (entries.toList.map fun entry =>
      Lowering.pair (key.lowering entry.1) (value.lowering entry.2))

/-- The encoding of a value. -/
def encode (shape : Shape) (value : shape.Carrier) : Outcome CodecError Bytes :=
  (shape.lowering value).toBytes

end Shape

end Boundary
