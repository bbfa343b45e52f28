import Boundary.Proofs.Wire.Emission
import Mathlib.Algebra.Ring.Nat

/-! # Writes that fill the room they were given

A write of a known number of bytes fills its room when it emits that many bytes, unless
the value is beyond what the format can express; then it gives up for that reason as soon
as it comes to it, provided that there was room for the whole
(`Boundary.Write.Fills`). Running out of room is never the reason. What fills its room,
one part behind the other, fills the sum of the rooms (`Boundary.Write.Fills.seq`,
`Boundary.Write.Fills.inOrder`), and a value encodes exactly when it is not beyond the
format, if it announced the right size (`Boundary.Lowering.toBytes_of_fills`).
-/

namespace Boundary

/-- The format has no way to write the value: a length or case number without a signed 32-bit
form, or an instant without a signed 64-bit count of seconds. -/
def CodecError.IsLimit (cause : CodecError) : Prop :=
  (∃ length, cause = .lengthOverflow length) ∨ ∃ detail, cause = .invalidTimestamp detail

namespace Write

/-- The write puts `count` bytes on the wire, unless what it writes is `beyond` the format. -/
structure Fills (write : Write) (count : Nat) (beyond : Prop) : Prop where
  emits : ¬ beyond → ∃ data, data.length = count ∧ write.Emits data
  refuses : beyond → ∀ writer, count ≤ writer.untouched.size →
    ∃ cause after, cause.IsLimit ∧ write writer = .error (.error cause) after

namespace Fills

variable {write first second : Write} {count front back : Nat} {beyond other : Prop}

/-- A write that always emits some bytes. -/
theorem of_emits {data : Bytes} (emits : write.Emits data) : write.Fills data.length False where
  emits _ := ⟨data, rfl, emits⟩
  refuses never := never.elim

/-- Giving up right away. -/
theorem failing {cause : CodecError} (limit : cause.IsLimit) (holds : beyond) (count : Nat) :
    Fills (Act.fail cause) count beyond where
  emits within := absurd holds within
  refuses _ writer _ := ⟨cause, writer, limit, rfl⟩

/-- The reasons to give up may be said in other words. -/
theorem congr (fills : write.Fills count beyond) (same : beyond ↔ other) :
    write.Fills count other := propext same ▸ fills

protected theorem word (width number : Nat) : (Write.word width number).Fills width False := by
  have filled := of_emits (Emits.bytes (BigEndian.encode width number))
  rwa [BigEndian.length_encode] at filled

protected theorem length (count : Nat) : (Write.length count).Fills 4 (maxLength < count) := by
  unfold Write.length
  split
  · next short => exact (Fills.word 4 count).congr (by simp only [false_iff]; omega)
  · next long => exact failing (.inl ⟨count, rfl⟩) (by omega) 4

protected theorem discriminant (position : Nat) :
    (Write.discriminant position).Fills 4 (maxLength ≤ position) := by
  unfold Write.discriminant
  split
  · next short => exact (Fills.word 4 (position + 1)).congr (by simp only [false_iff]; omega)
  · next long => exact failing (.inl ⟨position, rfl⟩) (by omega) 4

/-- One write after another fills the room of both, and gives up if either does. -/
theorem seq (firstFills : first.Fills front beyond) (secondFills : second.Fills back other) :
    Fills (do first; second) (front + back) (beyond ∨ other) where
  emits within := by
    obtain ⟨frontData, frontLength, frontEmits⟩ := firstFills.emits fun holds => within (.inl holds)
    obtain ⟨backData, backLength, backEmits⟩ := secondFills.emits fun holds => within (.inr holds)
    refine ⟨frontData ++ backData, ?_, frontEmits.seq backEmits⟩
    rw [List.length_append, frontLength, backLength]
  refuses holds writer room := by
    by_cases early : beyond
    · obtain ⟨cause, after, limit, run⟩ := firstFills.refuses early writer (by omega)
      exact ⟨cause, after, limit, Act.bind_of_error run⟩
    · obtain ⟨frontData, frontLength, frontEmits⟩ := firstFills.emits early
      -- The first part succeeds and leaves the second part its room.
      have run := (frontEmits writer (writer.advance frontData)).mpr ⟨by omega, rfl⟩
      have left : back ≤ (writer.advance frontData).untouched.size := by
        rw [Writer.size_untouched_advance]
        omega
      obtain ⟨cause, after, limit, rest⟩ :=
        secondFills.refuses (holds.resolve_left early) (writer.advance frontData) left
      exact ⟨cause, after, limit, (Act.bind_of_ok run).trans rest⟩

/-- Bytes behind their length fill four bytes more, unless there are too many. -/
protected theorem counted (data : Bytes) :
    (Write.counted data).Fills (4 + data.length) (maxLength < data.length) :=
  ((Fills.length data.length).seq (of_emits (Emits.bytes data))).congr (by rw [or_false])

/-- Writes in a row fill the sum of their rooms. -/
theorem inOrder {α : Type} {write : α → Write} {count : α → Nat} {beyond : α → Prop}
    {items : List α} (each : ∀ item ∈ items, (write item).Fills (count item) (beyond item)) :
    (Write.inOrder (items.map write)).Fills (items.map count).sum
      (∃ item ∈ items, beyond item) := by
  induction items with
  | nil =>
      refine (of_emits Emits.nothing).congr ?_
      simp only [List.not_mem_nil, false_and, exists_false]
  | cons item items ih =>
      have first := each item List.mem_cons_self
      have others := ih fun other member => each other (List.mem_cons_of_mem _ member)
      exact (first.seq others).congr (by simp only [List.mem_cons, exists_eq_or_imp])

end Fills

end Write

namespace Lowering

/-- A value that announces as many bytes as it fills encodes to as many, unless it is beyond
the format. -/
theorem toBytes_of_fills {lowering : Lowering} {count : Nat} {beyond : Prop}
    (fills : lowering.write.Fills count beyond) (announced : lowering.size = count)
    (short : count < signedLimit) :
    (¬ beyond → ∃ bytes, lowering.toBytes = .ok bytes ∧ bytes.length = count) ∧
      (beyond → ∃ cause, cause.IsLimit ∧ lowering.toBytes = .error (.error cause)) := by
  constructor
  · intro within
    obtain ⟨data, length, emits⟩ := fills.emits within
    exact ⟨data, (toBytes_eq_ok_iff emits).mpr ⟨by omega, by omega, rfl⟩, length⟩
  · intro holds
    have room : count ≤ (Writer.ofRegion (Region.zeroed lowering.size)).untouched.size := by
      rw [announced]
      exact Nat.le_of_eq (Nat.zero_add count).symm
    obtain ⟨cause, after, limit, run⟩ := fills.refuses holds _ room
    refine ⟨cause, limit, ?_⟩
    rw [toBytes_of_lt (announced ▸ short)]
    unfold fill
    rw [run]

end Lowering

end Boundary
