import Boundary.Wire.Utf8
import Boundary.Wire.Writer

/-!
# Lowerings

A lowering is what a value has to say about its own encoding: the size it announces and the way it
writes itself.  Nothing forces the two to agree, since a value may bring its own code for both; the
memory that is handed over is checked against the announced size after the write.

A value announces its size as a 64-bit word, and the sizes of the parts of a compound are added up
in such words by an addition that panics when the sum is none.  No part takes away from the sum, so
that happens exactly when the sum of all of them is no word: `size` is that sum, however large, and
`announce` is what asking for it comes to.
-/

namespace Boundary

/-- A value as the lowering side sees it. -/
structure Lowering where
  size : Nat
  write : Write

namespace Lowering

/-- A value of one word. -/
def word (width number : Nat) : Lowering := ⟨width, Write.word width number⟩

/-- A truth value: one byte. -/
def bool (truth : Bool) : Lowering := word 1 truth.toNat

/-- A text. -/
def string (text : String) : Lowering :=
  ⟨4 + Utf8.size text, Utf8.write text⟩

/-- An optional value: a tag, and the value if there is one. -/
def optional : Option Lowering → Lowering
  | none => word 1 0
  | some item => ⟨1 + item.size, do Write.word 1 1; item.write⟩

/-- The sum of announced sizes. -/
def totalSize : List Lowering → Nat
  | [] => 0
  | item :: rest => item.size + totalSize rest

/-- A counted sequence of values. -/
def sequence (items : List Lowering) : Lowering :=
  ⟨4 + totalSize items, do Write.length items.length; Write.inOrder (items.map write)⟩

/-- Two values, one after the other. -/
def pair (first second : Lowering) : Lowering :=
  ⟨first.size + second.size, do first.write; second.write⟩

/-- A case of an enumeration: its number, and then its contents. -/
def case (position : Nat) (contents : List Lowering) : Lowering :=
  ⟨4 + totalSize contents, do Write.discriminant position; Write.inOrder (contents.map write)⟩

/-- The size that a value announces, which is a 64-bit word. -/
def announce (lowering : Lowering) : Outcome CodecError Nat :=
  if wordLimit ≤ lowering.size then .error (.panic .additionOverflow)
  else .ok lowering.size

/-- What a writer left behind, if it wrote as much as was announced. -/
def checkWritten (computed : Nat) (writer : Writer) : Except CodecError Bytes :=
  if writer.position = computed then .ok writer.toBytes
  else .error (.sizeMismatch computed writer.position)

/-- Fills a zeroed region of the announced size, which must come out exactly full. -/
def fill (lowering : Lowering) : Outcome CodecError Bytes :=
  match lowering.write (Writer.ofRegion (Region.zeroed lowering.size)) with
  | .ok _ writer => (checkWritten lowering.size writer).mapError .error
  | .error fault _ => .error fault

/-- The encoding of a value, in memory of its own.  A size that memory cannot have panics. -/
def toBytes (lowering : Lowering) : Outcome CodecError Bytes := do
  if signedLimit ≤ (← lowering.announce) then .error (.panic (.text "capacity overflow"))
  else lowering.fill

end Lowering

end Boundary
