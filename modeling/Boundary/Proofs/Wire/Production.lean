import Boundary.Proofs.Wire.Emission
import Boundary.Proofs.Wire.ReadBack
import Mathlib.Data.List.Induction

/-! # What a read tells about the bytes it consumed

A read produces values related to bytes when every value it yields is related to the bytes
that it consumed for it (`Boundary.Read.Produces`). Nothing is assumed about the input, so
that a relation which fixes the bytes of a value says that malformed and redundant input
is refused. A word, length or case number has one form on the wire, and so has a text
(`Boundary.Read.Produces.word`, `Boundary.Read.Produces.length`,
`Boundary.Read.Produces.discriminant`, `Boundary.Read.Produces.text`).
-/

namespace Boundary

namespace BigEndian

/-- Bytes stand for a number of their width. -/
theorem decode_lt (bytes : Bytes) : decode bytes < 256 ^ bytes.length := by
  induction bytes using List.reverseRecOn with
  | nil => exact Nat.one_pos
  | append_singleton bytes byte ih =>
      have small := byte.toNat_lt
      rw [decode_append_byte, List.length_append, List.length_singleton, Nat.pow_succ]
      omega

/-- The digits of the number that some bytes stand for are these bytes. -/
theorem encode_decode (bytes : Bytes) : encode bytes.length (decode bytes) = bytes := by
  induction bytes using List.reverseRecOn with
  | nil => rfl
  | append_singleton bytes byte ih =>
      have small := byte.toNat_lt
      have front : (decode bytes * 256 + byte.toNat) / 256 = decode bytes := by omega
      have last : UInt8.ofNat (decode bytes * 256 + byte.toNat) = byte := by
        apply UInt8.toNat_inj.mp
        rw [UInt8.toNat_ofNat']
        omega
      rw [List.length_append, List.length_singleton, encode, decode_append_byte, front, ih, last]

end BigEndian

namespace Write.Emits

theorem length {count : Nat} (short : count ≤ maxLength) :
    (Write.length count).Emits (BigEndian.encode 4 count) := by
  unfold Write.length
  rw [if_pos short]
  exact .bytes _

theorem discriminant {position : Nat} (early : position < maxLength) :
    (Write.discriminant position).Emits (BigEndian.encode 4 (position + 1)) := by
  unfold Write.discriminant
  rw [if_pos (show position + 1 ≤ maxLength from early)]
  exact .bytes _

/-- Bytes that are few enough are written behind their length. -/
theorem counted {data : Bytes} (short : data.length ≤ maxLength) :
    (Write.counted data).Emits (BigEndian.encode 4 data.length ++ data) :=
  (length short).seq (.bytes data)

/-- A write that emits some bytes emits no others. -/
theorem unique {write : Write} {data other : Bytes} (emits : write.Emits data)
    (emitsOther : write.Emits other) : data = other := by
  have room : data.length ≤ (Writer.ofRegion (Region.zeroed data.length)).untouched.size :=
    Nat.le_of_eq (Nat.zero_add _).symm
  have same := ((emitsOther _ _).mp ((emits _ _).mpr ⟨room, rfl⟩)).2
  have written := congrArg (fun after => after.written.toList) same
  simpa only [Writer.advance, Writer.ofRegion, Array.toList_appendList, List.nil_append]
    using written

end Write.Emits

namespace Read

variable {α β : Type}

/-- Every value that the read yields is related to the bytes it consumed. -/
def Produces (read : Read α) (related : Bytes → α → Prop) : Prop :=
  ∀ start value after, read start = .ok value after →
    ∃ data, start.rest = data ++ after.rest ∧ after.position = start.position + data.length ∧
      related data value

namespace Produces

variable {related : Bytes → α → Prop} {read : Read α}

protected theorem pure {value : α} (holds : related [] value) :
    Produces (pure value) related := by
  intro start result after run
  cases run
  exact ⟨[], rfl, rfl, holds⟩

/-- A read that gives up yields nothing. -/
theorem throwing (fault : Fault CodecError) : Produces (throw fault) related := by
  intro start value after run
  cases run

/-- What the second read yields is related to the bytes of both. -/
theorem bind {first : Read α} {next : α → Read β} {front : Bytes → α → Prop}
    {whole : Bytes → β → Prop} (firstProduces : first.Produces front)
    (nextProduces : ∀ data middle, front data middle →
      (next middle).Produces fun back value => whole (data ++ back) value) :
    Produces (first >>= next) whole := by
  intro start value after run
  obtain ⟨middle, between, firstRun, nextRun⟩ := Act.bind_eq_ok_iff.mp run
  obtain ⟨data, startSplit, betweenPosition, holds⟩ := firstProduces _ _ _ firstRun
  obtain ⟨back, betweenSplit, afterPosition, wholeHolds⟩ :=
    nextProduces data middle holds _ _ _ nextRun
  refine ⟨data ++ back, ?_, ?_, wholeHolds⟩
  · rw [startSplit, betweenSplit, List.append_assoc]
  · rw [afterPosition, betweenPosition, List.length_append, Nat.add_assoc]

/-- A read that only reworks what another one yields consumes the same bytes. -/
theorem returning {first : Read α} {result : α → β} {front : Bytes → α → Prop}
    {whole : Bytes → β → Prop} (firstProduces : first.Produces front)
    (reworks : ∀ data middle, front data middle → whole data (result middle)) :
    Produces (do return result (← first)) whole :=
  firstProduces.bind fun data middle holds =>
    .pure ((List.append_nil data).symm ▸ reworks data middle holds)

/-- Reading bytes produces those that were consumed. -/
theorem bytes (count : Nat) :
    (Read.bytes count).Produces fun data value => data = value ∧ value.length = count := by
  intro start value after run
  by_cases enough : count ≤ start.rest.length
  · rw [bytes_of_le enough] at run
    cases run
    have size : (start.rest.take count).length = count := List.length_take_of_le enough
    exact ⟨_, (List.take_append_drop count start.rest).symm, by rw [size], rfl, size⟩
  · rw [bytes_of_lt (Nat.lt_of_not_le enough)] at run
    cases run

/-- A word has one form on the wire. -/
protected theorem word (width : Nat) :
    (Read.word width).Produces fun data word => data = BigEndian.encode width word.toNat := by
  refine (bytes width).returning ?_
  rintro digits _ ⟨rfl, rfl⟩
  have fits : BigEndian.decode digits < 2 ^ (8 * digits.length) := by
    rw [Nat.pow_mul]
    exact BigEndian.decode_lt digits
  rw [BitVec.toNat_ofNat, Nat.mod_eq_of_lt fits, BigEndian.encode_decode]

protected theorem byte :
    Read.byte.Produces fun data number => data = BigEndian.encode 1 number :=
  (Produces.word 1).returning fun _ _ holds => holds

/-- A length is produced from the four bytes that encode it. -/
protected theorem length : Read.length.Produces fun data count =>
    count ≤ maxLength ∧ data = BigEndian.encode 4 count := by
  refine (Produces.word 4).bind fun data word holds => ?_
  split
  · exact throwing _
  · next nonnegative =>
    have unsigned := word.isLt
    rw [BitVec.toInt_eq_toNat_cond] at nonnegative
    refine .pure ⟨?_, (List.append_nil data).trans holds⟩
    unfold maxLength
    split at nonnegative <;> omega

/-- A case number stands for a known case and is one past its position. -/
protected theorem discriminant (typeName : String) (caseCount : Nat) :
    (Read.discriminant typeName caseCount).Produces fun data position =>
      position < caseCount ∧ position < maxLength ∧
        data = BigEndian.encode 4 (position + 1) := by
  refine (Produces.word 4).bind fun data word holds => ?_
  dsimp only
  split
  · next known =>
    have unsigned := word.isLt
    have signed := word.toInt_eq_toNat_cond
    have number : (word.toInt - 1).toNat + 1 = word.toNat := by
      split at signed <;> omega
    refine .pure ⟨by omega, ?_, ?_⟩
    · unfold maxLength
      split at signed <;> omega
    · rw [List.append_nil, holds, number]
  · exact throwing _

/-- A text has one form on the wire. -/
protected theorem text : Utf8.read.Produces fun data text =>
    (Utf8.encode text).length ≤ maxLength ∧
      data = BigEndian.encode 4 (Utf8.encode text).length ++ Utf8.encode text := by
  refine Produces.length.bind ?_
  rintro prefixed count ⟨short, rfl⟩
  refine (bytes count).bind ?_
  rintro data _ ⟨rfl, rfl⟩
  split
  · next text decoded =>
    obtain rfl := Utf8.eq_encode_of_decode? decoded
    exact .pure ⟨short, by rw [List.append_nil]⟩
  · exact throwing _

/-- What is read a number of times is related item by item. -/
theorem times {item : Read α} {all : Bytes → List α → Prop} (itemProduces : item.Produces related)
    (none : all [] [])
    (more : ∀ front value back values, related front value → all back values →
      all (front ++ back) (value :: values)) (count : Nat) :
    (Read.times item count).Produces fun data values =>
      values.length = count ∧ all data values := by
  induction count with
  | zero => exact .pure ⟨rfl, none⟩
  | succ count ih =>
      refine itemProduces.bind fun front value holds => ih.returning ?_
      rintro back values ⟨length, allHold⟩
      exact ⟨by rw [List.length_cons, length], more front value back values holds allHold⟩

/-- Bytes that are taken as a value are related to it. -/
theorem of_takes (produces : read.Produces related) {data : Bytes} {value : α}
    (takes : read.Takes data value) : related data value := by
  obtain ⟨consumed, split, _, holds⟩ := produces _ _ _ (takes 0 [])
  obtain rfl : data = consumed :=
    (List.append_nil data).symm.trans (split.trans (List.append_nil consumed))
  exact holds

/-- What was lifted is related to the front part of the input that it consumed. -/
theorem of_lift (produces : read.Produces related) {bytes : Bytes} {value : α} {consumed : Nat}
    (lifted : read.lift bytes = .ok (value, consumed)) :
    (bytes.take consumed).length = consumed ∧ related (bytes.take consumed) value := by
  obtain ⟨rest, run⟩ := lift_eq_ok_iff.mp lifted
  obtain ⟨data, split, position, holds⟩ := produces _ _ _ run
  obtain rfl : bytes = data ++ rest := split
  obtain rfl : consumed = data.length := position.trans (Nat.zero_add _)
  rw [List.take_left]
  exact ⟨rfl, holds⟩

end Produces

end Read

end Boundary
