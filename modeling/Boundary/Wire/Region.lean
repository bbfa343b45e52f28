import Boundary.Wire.Bytes

/-!
# Regions of memory

A freshly allocated region is all zeros and may be as long as a length prefix allows, so a region is
kept as the bytes at its start that were filled in and the number of zeros after them.  `toBytes` is
what a region holds; every operation here is determined by it.
-/

namespace Boundary

/-- A stretch of memory: some bytes, and then a number of zeros. -/
structure Region where
  bytes : Bytes
  zeros : Nat
  deriving DecidableEq, Repr

namespace Region

/-- A region filled with the given bytes. -/
def ofBytes (bytes : Bytes) : Region := ⟨bytes, 0⟩

/-- A region of zeros. -/
def zeroed (size : Nat) : Region := ⟨[], size⟩

/-- Everything that the region holds, in order. -/
def toBytes (region : Region) : Bytes :=
  region.bytes ++ List.replicate region.zeros 0

/-- The number of bytes in the region. -/
def size (region : Region) : Nat := region.bytes.length + region.zeros

/-- The region without its first `count` bytes. -/
def drop (count : Nat) (region : Region) : Region :=
  match region.bytes with
  | [] => ⟨[], region.zeros - count⟩
  | bytes => ⟨bytes.drop count, region.zeros - (count - bytes.length)⟩

/-- The first `count` bytes of the region, with zeros for those past its end. -/
def read (count : Nat) (region : Region) : Bytes :=
  let filled := region.bytes.take count
  filled ++ List.replicate (count - filled.length) 0

@[simp] theorem length_toBytes (region : Region) : region.toBytes.length = region.size := by
  simp [toBytes, size]

@[simp] theorem toBytes_ofBytes (bytes : Bytes) : (ofBytes bytes).toBytes = bytes := by
  simp [ofBytes, toBytes]

/-- What is left of memory are the bytes behind what was passed. -/
@[simp] theorem toBytes_drop (count : Nat) (region : Region) :
    (region.drop count).toBytes = region.toBytes.drop count := by
  obtain ⟨bytes, zeros⟩ := region
  cases bytes with
  | nil => simp [drop, toBytes]
  | cons first rest =>
    simp only [drop, toBytes, List.drop_append, List.drop_replicate]

/-- Within the region, reading yields what it holds. -/
theorem read_eq_take {count : Nat} {region : Region} (within : count ≤ region.size) :
    region.read count = region.toBytes.take count := by
  simp only [read, toBytes, List.take_append, List.take_replicate, List.length_take]
  congr 2
  simp only [size] at within
  omega

end Region

end Boundary
