import Boundary.Proofs.Wire.Consumption
import Boundary.Proofs.Wire.Emission
import Boundary.Wire.Utf8

/-! # Reads that invert writes

A write carries a value to a read when every run of the write that succeeds puts the
same bytes on the wire, and the read takes these bytes as the value
(`Boundary.Write.Carries`). Nothing is asked of a write that cannot succeed, so a
check in front of a write is something the read may rely on. Primitive writes carry
what they were given to the primitive reads of the same name, and sequences of writes
to sequences of reads. An encoding is then taken back whole, whatever follows it
(`Boundary.Write.Carries.takes_of_toBytes`).
-/

namespace Boundary

theorem toNat_word_of_le {number : Nat} (short : number ≤ maxLength) :
    (BitVec.ofNat (8 * 4) number).toNat = number := by
  unfold maxLength at short
  rw [BitVec.toNat_ofNat]
  omega

/-- Numbers that a length prefix can carry have no sign bit. -/
theorem toInt_word_of_le {number : Nat} (short : number ≤ maxLength) :
    (BitVec.ofNat (8 * 4) number).toInt = number := by
  have same := toNat_word_of_le short
  unfold maxLength at short
  rw [BitVec.toInt_eq_toNat_of_lt (by omega), same]

namespace Write

variable {α β : Type}

/-- What the write puts on the wire, if it succeeds, the read takes as `value`. -/
def Carries (write : Write) (read : Read α) (value : α) : Prop :=
  ∀ writer after, write writer = .ok () after →
    ∃ data, write.Emits data ∧ read.Takes data value

namespace Carries

/-- A write that always emits some bytes carries what is taken from them. -/
theorem of_emits {write : Write} {read : Read α} {data : Bytes} {value : α}
    (emits : write.Emits data) (takes : read.Takes data value) : write.Carries read value :=
  fun _ _ _ => ⟨data, emits, takes⟩

protected theorem fail (cause : CodecError) (read : Read α) (value : α) :
    Carries (Act.fail cause) read value := by
  intro writer after run
  cases run

protected theorem bytes (data : Bytes) : (Write.bytes data).Carries (Read.bytes data.length) data :=
  of_emits (Emits.bytes data) (Read.Takes.bytes data)

protected theorem word (width number : Nat) :
    (Write.word width number).Carries (Read.word width) (BitVec.ofNat (8 * width) number) :=
  of_emits (Emits.bytes _) (Read.Takes.word width number)

/-- A word carries all of its bits. -/
theorem bits (width : Nat) (word : BitVec (8 * width)) :
    (Write.word width word.toNat).Carries (Read.word width) word := by
  have carried := Carries.word width word.toNat
  rw [BitVec.ofNat_toNat, BitVec.setWidth_eq] at carried
  exact carried

/-- One write after another carries to one read after another. -/
theorem seq {first second : Write} {firstRead : Read α} {next : α → Read β} {middle : α}
    {value : β} (front : first.Carries firstRead middle)
    (back : second.Carries (next middle) value) :
    Carries (do first; second) (firstRead >>= next) value := by
  intro writer after run
  obtain ⟨_, between, firstRun, secondRun⟩ := Act.bind_eq_ok_iff.mp run
  obtain ⟨frontData, frontEmits, frontTakes⟩ := front writer between firstRun
  obtain ⟨backData, backEmits, backTakes⟩ := back between after secondRun
  exact ⟨frontData ++ backData, frontEmits.seq backEmits, frontTakes.bind backTakes⟩

/-- The read may rework what it took. -/
theorem returning {write : Write} {read : Read α} {next : α → Read β} {middle : α} {value : β}
    (carries : write.Carries read middle) (done : next middle = pure value) :
    write.Carries (read >>= next) value := by
  intro writer after run
  obtain ⟨data, emits, takes⟩ := carries writer after run
  exact ⟨data, emits, takes.returning done⟩

/-- Behind a check, the write only runs if the check passes. -/
theorem guarded {check : Except CodecError Unit} {write : Write} {read : Read α} {value : α}
    (carries : check = .ok () → write.Carries read value) :
    Carries (do Act.ofExcept check; write) read value := by
  cases check with
  | ok _ => exact carries rfl
  | error cause => exact Carries.fail cause read value

protected theorem byte (number : Nat) (small : number < 256) :
    (Write.word 1 number).Carries Read.byte number := by
  refine (Carries.word 1 number).returning ?_
  rw [BitVec.toNat_ofNat, Nat.mod_eq_of_lt small]

protected theorem length (count : Nat) : (Write.length count).Carries Read.length count := by
  unfold Write.length
  split
  · next short =>
    refine (Carries.word 4 count).returning ?_
    rw [toInt_word_of_le short, toNat_word_of_le short, if_neg (by omega)]
  · exact Carries.fail _ _ _

/-- A case number carries to a read that knows of the case. -/
protected theorem discriminant (typeName : String) {caseCount position : Nat}
    (known : position < caseCount) :
    (Write.discriminant position).Carries (Read.discriminant typeName caseCount) position := by
  unfold Write.discriminant
  split
  · next short =>
    refine (Carries.word 4 (position + 1)).returning ?_
    rw [toInt_word_of_le short, if_pos (by omega)]
    congr 1
    omega
  · exact Carries.fail _ _ _

protected theorem text (text : String) : (Utf8.write text).Carries Utf8.read text := by
  refine (Carries.length (Utf8.encode text).length).seq ?_
  refine (Carries.bytes (Utf8.encode text)).returning ?_
  rw [Utf8.decode?_encode]

/-- Writes in a row are read back as a list of as many values. -/
theorem inOrder {write : α → Write} {read : Read α} {items : List α}
    (each : ∀ item ∈ items, (write item).Carries read item) :
    (Write.inOrder (items.map write)).Carries (Read.times read items.length) items := by
  induction items with
  | nil => exact of_emits Emits.nothing (Read.Takes.pure [])
  | cons item items ih =>
      have first := each item List.mem_cons_self
      have others := ih fun other member => each other (List.mem_cons_of_mem _ member)
      exact first.seq (others.returning rfl)

/-- An encoding has the announced size and is taken back whole. -/
theorem takes_of_toBytes {lowering : Lowering} {read : Read α} {value : α} {bytes : Bytes}
    (carries : lowering.write.Carries read value) (encoded : lowering.toBytes = .ok bytes) :
    read.Takes bytes value ∧ bytes.length = lowering.size := by
  obtain ⟨after, run⟩ := Lowering.write_of_toBytes encoded
  obtain ⟨data, emits, takes⟩ := carries _ _ run
  obtain ⟨size, _, rfl⟩ := (Lowering.toBytes_eq_ok_iff emits).mp encoded
  exact ⟨takes, size.symm⟩

end Carries

end Write

end Boundary
