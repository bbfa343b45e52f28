import Boundary.Codec.Lowering
import Boundary.Proofs.Sequencing

/-! # What a write puts on the wire

A write emits a string of bytes when it succeeds on exactly those writers that have
room for the string, and then fills it in and changes nothing else
(`Boundary.Write.Emits`). The emitted bytes of a sequence are those of its parts, one
behind the other. A value whose write emits some bytes encodes to these bytes,
provided that it announced their number
(`Boundary.Lowering.toBytes_eq_ok_iff`).
-/

namespace Boundary

namespace Region

/-- What is left of memory when some of it was passed. -/
theorem drop_eq (count : Nat) (region : Region) :
    region.drop count =
      ⟨region.bytes.drop count, region.zeros - (count - region.bytes.length)⟩ := by
  obtain ⟨bytes, zeros⟩ := region
  cases bytes with
  | nil => simp only [drop, List.drop_nil, List.length_nil, Nat.sub_zero]
  | cons first rest => rfl

theorem drop_drop (first second : Nat) (region : Region) :
    (region.drop first).drop second = region.drop (first + second) := by
  simp only [drop_eq, List.drop_drop, List.length_drop, Region.mk.injEq, true_and]
  omega

theorem size_drop (count : Nat) (region : Region) :
    (region.drop count).size = region.size - count := by
  simp only [drop_eq, size, List.length_drop]
  omega

theorem drop_zero (region : Region) : region.drop 0 = region := by
  simp only [drop_eq, List.drop_zero, Nat.zero_sub, Nat.sub_zero]

end Region

namespace Writer

/-- The writer after some bytes were filled in. -/
def advance (data : Bytes) (writer : Writer) : Writer :=
  ⟨writer.written ++ data, writer.untouched.drop data.length⟩

theorem advance_nil (writer : Writer) : writer.advance [] = writer := by
  simp only [advance, List.length_nil, Region.drop_zero, Array.appendList_nil]

theorem advance_append (first second : Bytes) (writer : Writer) :
    (writer.advance first).advance second = writer.advance (first ++ second) := by
  simp only [advance, Region.drop_drop, List.length_append, Writer.mk.injEq, and_true]
  apply Array.ext'
  simp only [Array.toList_appendList, List.append_assoc]

@[simp] theorem position_ofRegion (region : Region) : (ofRegion region).position = 0 := rfl

@[simp] theorem position_advance (data : Bytes) (writer : Writer) :
    (writer.advance data).position = writer.position + data.length := by
  simp only [position, advance, ← Array.length_toList, Array.toList_appendList,
    List.length_append]

@[simp] theorem size_untouched_advance (data : Bytes) (writer : Writer) :
    (writer.advance data).untouched.size = writer.untouched.size - data.length :=
  Region.size_drop _ _

/-- A region filled to its end holds what was filled in. -/
theorem toBytes_advance_ofRegion {data : Bytes} {region : Region}
    (full : data.length = region.size) : ((ofRegion region).advance data).toBytes = data := by
  have beyond : region.toBytes.drop data.length = [] := by
    apply List.drop_eq_nil_of_le
    exact Nat.le_of_eq (region.length_toBytes.trans full.symm)
  simp only [toBytes, advance, ofRegion, Array.toList_appendList, Region.toBytes_drop, beyond,
    List.nil_append, List.append_nil]

end Writer

namespace Write

section

variable {data : Bytes} {writer : Writer}

theorem bytes_of_le (room : data.length ≤ writer.untouched.size) :
    Write.bytes data writer = .ok () (writer.advance data) := by
  unfold Write.bytes
  exact if_pos room

/-- Bytes that there is no room for are refused, with the end that they would have had. -/
theorem bytes_of_lt (short : writer.untouched.size < data.length) :
    Write.bytes data writer =
      .error (.error (.bufferTooSmall (writer.position + data.length)
        (writer.position + writer.untouched.size))) writer := by
  unfold Write.bytes
  exact if_neg (Nat.not_le_of_lt short)

end

/-- The write succeeds exactly when `data` fits, and then fills in `data`. -/
def Emits (write : Write) (data : Bytes) : Prop :=
  ∀ writer after, write writer = .ok () after ↔
    data.length ≤ writer.untouched.size ∧ after = writer.advance data

namespace Emits

/-- Writing nothing emits nothing. -/
theorem nothing : Emits (pure ()) [] := by
  intro writer after
  rw [Writer.advance_nil]
  constructor
  · intro run
    cases run
    exact ⟨Nat.zero_le _, rfl⟩
  · rintro ⟨_, rfl⟩
    rfl

/-- Writing bytes emits them. -/
protected theorem bytes (data : Bytes) : (Write.bytes data).Emits data := by
  intro writer after
  by_cases room : data.length ≤ writer.untouched.size
  · simp only [bytes_of_le room, EStateM.Result.ok.injEq, room, true_and]
    exact eq_comm
  · rw [bytes_of_lt (Nat.lt_of_not_le room)]
    simp only [reduceCtorEq, room, false_and]

/-- One write after another emits the bytes of both. -/
theorem seq {first second : Write} {front back : Bytes} (firstEmits : first.Emits front)
    (secondEmits : second.Emits back) : Emits (do first; second) (front ++ back) := by
  intro writer after
  rw [Act.bind_eq_ok_iff, List.length_append, ← Writer.advance_append]
  constructor
  · rintro ⟨_, between, run, rest⟩
    obtain ⟨frontFits, rfl⟩ := (firstEmits _ _).mp run
    obtain ⟨backFits, rfl⟩ := (secondEmits _ _).mp rest
    rw [Writer.size_untouched_advance] at backFits
    exact ⟨by omega, rfl⟩
  · rintro ⟨fits, rfl⟩
    refine ⟨(), writer.advance front, (firstEmits _ _).mpr ⟨by omega, rfl⟩,
      (secondEmits _ _).mpr ⟨?_, rfl⟩⟩
    rw [Writer.size_untouched_advance]
    omega

end Emits

end Write

namespace Lowering

theorem totalSize_cons (item : Lowering) (rest : List Lowering) :
    totalSize (item :: rest) = item.size + totalSize rest := rfl

variable {lowering : Lowering} {data bytes : Bytes}

/-- A size that is no word is not announced. -/
theorem announce_of_le (large : wordLimit ≤ lowering.size) :
    lowering.announce = .error (.panic .additionOverflow) := if_pos large

theorem announce_of_lt (word : lowering.size < wordLimit) :
    lowering.announce = .ok lowering.size := if_neg (Nat.not_le_of_lt word)

/-- A size that memory can have is filled. -/
theorem toBytes_of_lt (short : lowering.size < signedLimit) :
    lowering.toBytes = lowering.fill := by
  have word : lowering.size < wordLimit := Nat.lt_trans short (by decide)
  unfold toBytes
  rw [announce_of_lt word]
  exact if_neg (Nat.not_le_of_lt short)

/-- A size that memory cannot have panics, whether or not it is a word. -/
theorem toBytes_of_le (large : signedLimit ≤ lowering.size) :
    ∃ payload, lowering.toBytes = .error (.panic payload) := by
  unfold toBytes
  by_cases word : lowering.size < wordLimit
  · rw [announce_of_lt word]
    exact ⟨_, if_pos large⟩
  · rw [announce_of_le (Nat.le_of_not_lt word)]
    exact ⟨_, rfl⟩

/-- A value that encodes has a size that memory can have, and filled it. -/
theorem fill_of_toBytes (encoded : lowering.toBytes = .ok bytes) :
    lowering.size < signedLimit ∧ lowering.fill = .ok bytes := by
  by_cases short : lowering.size < signedLimit
  · rw [toBytes_of_lt short] at encoded
    exact ⟨short, encoded⟩
  · obtain ⟨payload, panicked⟩ := toBytes_of_le (Nat.le_of_not_lt short)
    cases encoded.symm.trans panicked

/-- A value that encodes wrote itself without fault. -/
theorem write_of_toBytes (encoded : lowering.toBytes = .ok bytes) :
    ∃ after, lowering.write (Writer.ofRegion (Region.zeroed lowering.size)) = .ok () after := by
  obtain ⟨_, filled⟩ := fill_of_toBytes encoded
  unfold fill at filled
  split at filled
  · next after run => exact ⟨after, run⟩
  · cases filled

/-- A value encodes to the bytes its write emits, and does so exactly when memory can
have as many and it announced that number. -/
theorem toBytes_eq_ok_iff (emits : lowering.write.Emits data) : lowering.toBytes = .ok bytes ↔
    lowering.size = data.length ∧ data.length < signedLimit ∧ bytes = data := by
  have room : (Region.zeroed lowering.size).size = lowering.size := Nat.zero_add _
  constructor
  · intro encoded
    obtain ⟨short, filled⟩ := fill_of_toBytes encoded
    obtain ⟨after, run⟩ := write_of_toBytes encoded
    obtain ⟨fits, rfl⟩ := (emits _ _).mp run
    simp only [fill, run, checkWritten, Writer.position_advance, Writer.position_ofRegion,
      Nat.zero_add] at filled
    split at filled
    · next written =>
      rw [Writer.toBytes_advance_ofRegion (written.trans room.symm)] at filled
      cases filled
      exact ⟨written.symm, written ▸ short, rfl⟩
    · cases filled
  · rintro ⟨size, limit, rfl⟩
    have run := (emits (Writer.ofRegion (Region.zeroed lowering.size)) _).mpr
      ⟨Nat.le_of_eq (size.symm.trans room.symm), rfl⟩
    rw [toBytes_of_lt (size ▸ limit)]
    simp only [fill, run, checkWritten, Writer.position_advance, Writer.position_ofRegion,
      Nat.zero_add]
    rw [if_pos size.symm, Writer.toBytes_advance_ofRegion (size.symm.trans room.symm)]
    rfl

end Lowering

end Boundary
