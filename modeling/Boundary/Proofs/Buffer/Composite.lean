import Boundary.Proofs.Buffer.Lowering
import Mathlib.Algebra.BigOperators.Group.List.Basic

/-! # Values that announce one size and write another

A value of a type that brings its own code may announce any size and write any pieces, and such
values may stand in optional values, sequences and maps (`Boundary.Composite`). Errors of the
parts add up, and may cancel. In the end only two numbers matter
(`Boundary.Composite.encoding_settles`): the sum of the announced sizes and the sum of the
written bytes. If they agree, the value encodes to what was written. If too little was written,
both numbers are reported, and if too much was, the writing stopped at the first piece that went
past the announced size. A buffer that the value is lowered into is handed out with its encoding,
or is not on record any more.
-/

namespace Boundary

/-! ## Pieces -/

/-- A step of a write: some bytes, or the length of a sequence. -/
inductive Piece
  | bytes (data : Bytes)
  | length (count : Nat)

namespace Piece

/-- What a step puts on the wire if nothing is in its way. -/
def data : Piece → Bytes
  | bytes data => data
  | length count => BigEndian.encode 4 count

/-- A length prefix can count as far as the step wants it to. -/
def Countable : Piece → Prop
  | bytes _ => True
  | length count => count ≤ maxLength

instance (piece : Piece) : Decidable piece.Countable :=
  match piece with
  | bytes _ => instDecidableTrue
  | length count => inferInstanceAs (Decidable (count ≤ maxLength))

/-- Carries a step out. -/
def write : Piece → Write
  | bytes data => Write.bytes data
  | length count => Write.length count

theorem write_of_countable {piece : Piece} (countable : piece.Countable) :
    piece.write = Write.bytes piece.data := by
  cases piece with
  | bytes data => rfl
  | length count => exact if_pos countable

/-- A step goes well or fails for lack of room or of a prefix that can count so far. -/
theorem write_cases (piece : Piece) (writer : Writer) :
    (piece.Countable ∧ ∃ after, piece.write writer = .ok () after) ∨
      ∃ cause after, piece.write writer = .error (.error cause) after ∧
        (cause.isBounds ∨ ∃ count, cause = .lengthOverflow count) := by
  by_cases countable : piece.Countable
  · rw [write_of_countable countable]
    by_cases room : piece.data.length ≤ writer.untouched.size
    · exact .inl ⟨countable, _, if_pos room⟩
    · exact .inr ⟨_, _, if_neg room, .inl rfl⟩
  · cases piece with
    | bytes data => exact absurd trivial countable
    | length count =>
        have failed : Write.length count = Act.fail (.lengthOverflow count) := if_neg countable
        refine .inr ⟨.lengthOverflow count, writer, ?_, .inr ⟨count, rfl⟩⟩
        exact congrArg (fun write : Write => write writer) failed

end Piece

namespace Write

/-- Two lists of writes are written one after the other. -/
theorem inOrder_append (first second : List Write) :
    inOrder (first ++ second) = (do inOrder first; inOrder second) := by
  induction first with
  | nil => rfl
  | cons part rest ih =>
      change (part >>= fun _ => inOrder (rest ++ second)) = _
      rw [ih]
      exact (bind_assoc part _ _).symm

/-- Bytes in a row are written if there is room for all of them. If not, the first ones that go
past the end are told of. -/
theorem inOrder_bytes (pieces : List Bytes) (writer : Writer) :
    (pieces.flatten.length ≤ writer.untouched.size →
      inOrder (pieces.map Write.bytes) writer = .ok () (writer.advance pieces.flatten)) ∧
    (writer.untouched.size < pieces.flatten.length → ∃ before piece later after,
      pieces = before ++ piece :: later ∧ before.flatten.length ≤ writer.untouched.size ∧
      writer.untouched.size < before.flatten.length + piece.length ∧
      inOrder (pieces.map Write.bytes) writer =
        .error (.error (.bufferTooSmall
          (writer.position + (before.flatten.length + piece.length))
          (writer.position + writer.untouched.size))) after) := by
  induction pieces generalizing writer with
  | nil => exact ⟨fun _ => congrArg _ writer.advance_nil.symm, fun short => absurd short nofun⟩
  | cons piece rest ih =>
      rw [List.flatten_cons, List.length_append]
      by_cases room : piece.length ≤ writer.untouched.size
      · have written := (Emits.bytes piece _ _).mpr ⟨room, rfl⟩
        obtain ⟨whole, passed⟩ := ih (writer.advance piece)
        rw [Writer.size_untouched_advance] at whole passed
        constructor
        · intro fits
          rw [← Writer.advance_append, ← whole (Nat.le_sub_of_add_le' fits)]
          exact Act.bind_of_ok written
        · intro short
          obtain ⟨before, last, later, after, split, fits, past, failed⟩ :=
            passed (Nat.sub_lt_left_of_lt_add room short)
          have total : (piece :: before).flatten.length = piece.length + before.flatten.length := by
            rw [List.flatten_cons, List.length_append]
          have needed : writer.position + piece.length + (before.flatten.length + last.length) =
              writer.position + (piece.length + before.flatten.length + last.length) := by
            omega
          have available : writer.position + piece.length +
              (writer.untouched.size - piece.length) =
              writer.position + writer.untouched.size := by
            omega
          refine ⟨piece :: before, last, later, after, congrArg _ split, ?_, ?_, ?_⟩
          · omega
          · omega
          · rw [Writer.position_advance, needed, available] at failed
            rw [total]
            exact (Act.bind_of_ok written).trans failed
      · constructor
        · intro fits
          omega
        · intro short
          refine ⟨[], piece, rest, writer, rfl, Nat.zero_le _, ?_, ?_⟩
          · exact Nat.lt_of_lt_of_le (Nat.lt_of_not_le room) (Nat.le_add_left _ _)
          · rw [List.flatten_nil, List.length_nil, Nat.zero_add]
            exact Act.bind_of_error (if_neg room)

/-- A row of steps that one of the length prefixes cannot count far enough for fails. -/
theorem inOrder_of_not_countable {pieces : List Piece}
    (uncountable : ¬ ∀ piece ∈ pieces, piece.Countable) (writer : Writer) :
    ∃ cause after, inOrder (pieces.map Piece.write) writer = .error (.error cause) after ∧
      (cause.isBounds ∨ ∃ count, cause = .lengthOverflow count) := by
  induction pieces generalizing writer with
  | nil => exact absurd (List.forall_mem_nil _) uncountable
  | cons piece rest ih =>
      rcases piece.write_cases writer with ⟨countable, between, ran⟩ | ⟨cause, after, failed, why⟩
      · have others : ¬ ∀ piece ∈ rest, piece.Countable := fun all =>
          uncountable (List.forall_mem_cons.mpr ⟨countable, all⟩)
        obtain ⟨cause, after, failed, why⟩ := ih others between
        exact ⟨cause, after, (Act.bind_of_ok ran).trans failed, why⟩
      · exact ⟨cause, after, Act.bind_of_error failed, why⟩

end Write

/-! ## What is announced and what is written -/

/-- A value made of parts that announce and write what they like. A map is a sequence of
entries. -/
inductive Composite
  | own (announced : UInt64) (pieces : List Bytes)
  | absent
  | present (item : Composite)
  | sequence (items : List Composite)
  | entry (key value : Composite)

namespace Composite

mutual

/-- How the value is lowered. -/
def lowering : Composite → Lowering
  | own announced pieces => ⟨announced.toNat, Write.inOrder (pieces.map Write.bytes)⟩
  | absent => Lowering.optional none
  | present item => Lowering.optional (some item.lowering)
  | sequence items => Lowering.sequence (lowerings items)
  | entry key value => Lowering.pair key.lowering value.lowering

/-- How each of some values is lowered. -/
def lowerings : List Composite → List Lowering
  | [] => []
  | item :: rest => item.lowering :: lowerings rest

end

mutual

/-- The size that the parts announce in all, however large. -/
def announced : Composite → Nat
  | own announced _ => announced.toNat
  | absent => 1
  | present item => 1 + item.announced
  | sequence items => 4 + announcedInAll items
  | entry key value => key.announced + value.announced

/-- The size that some values announce in all. -/
def announcedInAll : List Composite → Nat
  | [] => 0
  | item :: rest => item.announced + announcedInAll rest

end

mutual

/-- The steps in which the value is written. -/
def pieces : Composite → List Piece
  | own _ pieces => pieces.map .bytes
  | absent => [.bytes (BigEndian.encode 1 0)]
  | present item => .bytes (BigEndian.encode 1 1) :: item.pieces
  | sequence items => .length items.length :: piecesInOrder items
  | entry key value => key.pieces ++ value.pieces

/-- The steps in which some values are written. -/
def piecesInOrder : List Composite → List Piece
  | [] => []
  | item :: rest => item.pieces ++ piecesInOrder rest

end

/-- What is written, step by step, if nothing is in the way. -/
def written (value : Composite) : List Bytes := value.pieces.map Piece.data

/-- No sequence in the value has more items than a length prefix can count. -/
def Countable (value : Composite) : Prop := ∀ piece ∈ value.pieces, piece.Countable

instance (value : Composite) : Decidable value.Countable :=
  inferInstanceAs (Decidable (∀ piece ∈ value.pieces, piece.Countable))

/-- Induction over values. The items of a sequence are reached through their list. -/
@[elab_as_elim, induction_eliminator]
theorem induction {motive : Composite → Prop}
    (own : ∀ announced pieces, motive (.own announced pieces)) (absent : motive .absent)
    (present : ∀ item, motive item → motive (.present item))
    (sequence : ∀ items, (∀ item ∈ items, motive item) → motive (.sequence items))
    (entry : ∀ key value, motive key → motive value → motive (.entry key value))
    (value : Composite) : motive value :=
  @Composite.rec motive (fun items => ∀ item ∈ items, motive item)
    own absent present sequence entry (fun _ member => nomatch member)
    (fun _ _ head tail => List.forall_mem_cons.mpr ⟨head, tail⟩) value

theorem length_lowerings (items : List Composite) : (lowerings items).length = items.length := by
  induction items with
  | nil => rfl
  | cons item rest ih => exact congrArg Nat.succ ih

/-- The announced sizes of the parts add up. -/
theorem size_lowering (value : Composite) : value.lowering.size = value.announced := by
  induction value with
  | own announced pieces => rfl
  | absent => rfl
  | present item ih => exact congrArg (1 + ·) ih
  | sequence items ih =>
      have total : Lowering.totalSize (lowerings items) = announcedInAll items := by
        induction items with
        | nil => rfl
        | cons item rest following =>
            obtain ⟨first, others⟩ := List.forall_mem_cons.mp ih
            unfold lowerings announcedInAll
            rw [Lowering.totalSize_cons, first, following others]
      exact congrArg (4 + ·) total
  | entry key value first second => exact congrArg₂ (· + ·) first second

/-- The parts are written one after the other. -/
theorem write_lowering (value : Composite) :
    value.lowering.write = Write.inOrder (value.pieces.map Piece.write) := by
  induction value with
  | own announced parts =>
      unfold pieces lowering
      rw [List.map_map]
      rfl
  | absent => exact (bind_pure (Write.bytes (BigEndian.encode 1 0))).symm
  | present item ih =>
      unfold pieces lowering
      exact congrArg (fun rest : Write => Write.bytes (BigEndian.encode 1 1) >>= fun _ => rest) ih
  | sequence items ih =>
      have inOrder : Write.inOrder ((lowerings items).map Lowering.write) =
          Write.inOrder ((piecesInOrder items).map Piece.write) := by
        induction items with
        | nil => rfl
        | cons item rest following =>
            obtain ⟨first, others⟩ := List.forall_mem_cons.mp ih
            unfold lowerings piecesInOrder
            rw [List.map_append, Write.inOrder_append, ← first, ← following others]
            rfl
      unfold pieces lowering Lowering.sequence
      rw [length_lowerings, inOrder]
      rfl
  | entry key value first second =>
      unfold pieces lowering Lowering.pair
      rw [List.map_append, Write.inOrder_append, first, second]

/-- The pieces of a value whose counts can be told write their bytes in order. -/
theorem inOrder_of_countable {value : Composite} (countable : value.Countable) :
    Write.inOrder (value.pieces.map Piece.write) =
      Write.inOrder (value.written.map Write.bytes) := by
  unfold written
  rw [List.map_map]
  exact congrArg _ (List.map_congr_left fun piece member =>
    Piece.write_of_countable (countable piece member))

end Composite

/-! ## What it comes to -/

/-- What comes of claiming a number of bytes and writing some pieces in order. -/
structure Settles (claimed : Nat) (pieces : List Bytes) (outcome : Outcome CodecError Bytes) :
    Prop where
  full (data : Bytes) :
    outcome = .ok data ↔ pieces.flatten.length = claimed ∧ data = pieces.flatten
  short : pieces.flatten.length < claimed →
    outcome = .error (.error (.sizeMismatch claimed pieces.flatten.length))
  passed : claimed < pieces.flatten.length → ∃ before piece later,
    pieces = before ++ piece :: later ∧ before.flatten.length ≤ claimed ∧
    claimed < before.flatten.length + piece.length ∧
    outcome = .error (.error (.bufferTooSmall (before.flatten.length + piece.length) claimed))

/-- A buffer that a value was lowered into is handed out with the encoding of the value, or is not
on record. -/
inductive Buffer.Mirrors (ledger : Ledger) :
    Outcome CodecError Bytes → EStateM.Result (Fault Error) Ledger Buffer → Prop
  | handed {data : Bytes} {buffer : Buffer} {after : Ledger} : buffer.Holds after data →
      ledger.Gains after buffer.claims → Mirrors ledger (.ok data) (.ok buffer after)
  | refused {cause : CodecError} {after : Ledger} : ledger.Gains after [] →
      Mirrors ledger (.error (.error cause)) (.error (.error (.codec cause)) after)

namespace Composite

variable {value : Composite}

theorem toBytes_eq_fill (short : value.announced ≤ maxLength) :
    value.lowering.toBytes = value.lowering.fill := by
  apply Lowering.toBytes_of_lt
  rw [size_lowering]
  exact Nat.lt_of_le_of_lt short (by decide)

/-- A write is accepted if it fills what was announced. -/
theorem checkWritten_advance (data : Bytes) :
    Lowering.checkWritten value.announced
      ((Writer.ofRegion (Region.zeroed value.announced)).advance data) =
        if data.length = value.announced then .ok data
        else .error (.sizeMismatch value.announced data.length) := by
  unfold Lowering.checkWritten
  rw [Writer.position_advance, Writer.position_ofRegion, Nat.zero_add]
  split
  · next same =>
    have room : (Region.zeroed value.announced).size = value.announced := Nat.zero_add _
    rw [Writer.toBytes_advance_ofRegion (same.trans room.symm)]
  · rfl

/-- Where all counts can be told, what is written decides. -/
theorem settles_of_countable (countable : value.Countable) :
    Settles value.announced value.written value.lowering.fill := by
  obtain ⟨fits, passes⟩ :=
    Write.inOrder_bytes value.written (Writer.ofRegion (Region.zeroed value.announced))
  have untouched : (Writer.ofRegion (Region.zeroed value.announced)).untouched.size =
    value.announced := Nat.zero_add _
  rw [untouched] at fits passes
  unfold Lowering.fill
  rw [size_lowering, write_lowering, inOrder_of_countable countable]
  rcases Nat.lt_trichotomy value.written.flatten.length value.announced with less | same | more
  · have mismatch := (checkWritten_advance value.written.flatten).trans
      (if_neg (Nat.ne_of_lt less))
    simp only [fits (Nat.le_of_lt less), mismatch]
    refine ⟨fun data => ⟨nofun, fun both => absurd both.1 (Nat.ne_of_lt less)⟩, fun _ => rfl, ?_⟩
    exact fun more => absurd more (Nat.lt_asymm less)
  · have filled := (checkWritten_advance value.written.flatten).trans (if_pos same)
    simp only [fits (Nat.le_of_eq same), filled]
    refine ⟨fun data => ⟨?_, ?_⟩, fun less => absurd same (Nat.ne_of_lt less),
      fun more => absurd same (Nat.ne_of_gt more)⟩
    · intro encoded
      cases encoded
      exact ⟨same, rfl⟩
    · rintro ⟨_, rfl⟩
      rfl
  · obtain ⟨before, piece, later, after, split, within, past, failed⟩ := passes more
    rw [Writer.position_ofRegion, Nat.zero_add, Nat.zero_add] at failed
    simp only [failed]
    refine ⟨fun data => ⟨nofun, fun both => absurd both.1 (Nat.ne_of_gt more)⟩, ?_, ?_⟩
    · exact fun less => absurd less (Nat.lt_asymm more)
    · exact fun _ => ⟨before, piece, later, split, within, past, rfl⟩

/-- Where a count cannot be told nothing is encoded: it is refused, or the bounds are exceeded
before it. -/
theorem fill_of_not_countable (uncountable : ¬ value.Countable) :
    ∃ cause, value.lowering.fill = .error (.error cause) ∧
      (cause.isBounds ∨ ∃ count, cause = .lengthOverflow count) := by
  obtain ⟨cause, after, failed, why⟩ := Write.inOrder_of_not_countable uncountable
    (Writer.ofRegion (Region.zeroed value.lowering.size))
  refine ⟨cause, ?_, why⟩
  unfold Lowering.fill
  rw [write_lowering]
  simp only [failed]

/-- What fills the memory of a value is as long as the value announced. -/
theorem fill_cases (value : Composite) :
    (∃ data, value.lowering.fill = .ok data ∧ data.length = value.announced) ∨
      ∃ cause, value.lowering.fill = .error (.error cause) := by
  by_cases countable : value.Countable
  · have settles := settles_of_countable countable
    rcases Nat.lt_trichotomy value.written.flatten.length value.announced with less | same | more
    · exact .inr ⟨_, settles.short less⟩
    · exact .inl ⟨_, (settles.full _).mpr ⟨same, rfl⟩, same⟩
    · obtain ⟨_, _, _, _, _, _, failed⟩ := settles.passed more
      exact .inr ⟨_, failed⟩
  · obtain ⟨cause, failed, _⟩ := fill_of_not_countable countable
    exact .inr ⟨cause, failed⟩

/-- Lowering to a buffer goes as encoding goes. -/
theorem lower_mirrors (short : value.announced ≤ maxLength) {ledger : Ledger}
    (orderly : ledger.Orderly) :
    Buffer.Mirrors ledger value.lowering.fill (Buffer.lower value.lowering ledger) := by
  have size := value.size_lowering
  have little : value.lowering.size ≤ maxLength := by
    rw [size]
    exact short
  rcases value.fill_cases with ⟨data, filled, length⟩ | ⟨cause, failed⟩
  · obtain ⟨after, lowered, holds, gains⟩ := Buffer.lower_of_fill little filled ledger
    rw [size, ← length, Region.read_ofBytes, length, ← size] at holds
    rw [filled, lowered]
    exact .handed holds (gains orderly)
  · obtain ⟨after, lowered, gains⟩ := Buffer.lower_of_fill_error little failed ledger
    rw [failed, lowered]
    exact .refused (gains orderly)

end Composite

end Boundary
