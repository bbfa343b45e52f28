import Boundary.Proofs.Sequencing
import Boundary.Wire.Reader
import Mathlib.Algebra.Ring.Nat

/-! # What a read takes from the wire

A read takes a string of bytes as a value when, wherever it stands and whatever follows
the string, it yields the value and stops behind the string (`Boundary.Read.Takes`).
The bytes of a sequence of reads are those of its parts, one behind the other. What a
big-endian word was written from is read back up to the width of the word
(`Boundary.Read.Takes.word`).
-/

namespace Boundary

namespace BigEndian

/-- The digits of a number give the number back, as far as there are enough of them. -/
theorem decode_encode (width number : Nat) :
    decode (encode width number) = number % 256 ^ width := by
  induction width generalizing number with
  | zero => simp only [encode, decode_nil, Nat.pow_zero, Nat.mod_one]
  | succ width ih =>
      have last : (UInt8.ofNat number).toNat = number % 256 := UInt8.toNat_ofNat
      rw [encode, decode_append_byte, ih, last, Nat.pow_succ, Nat.mul_comm (256 ^ width),
        Nat.mod_mul, Nat.mul_comm 256, Nat.add_comm]

end BigEndian

namespace Read

variable {α β : Type}

theorem bytes_of_le {count : Nat} {start : Reader} (enough : count ≤ start.rest.length) :
    Read.bytes count start =
      .ok (start.rest.take count) ⟨start.position + count, start.rest.drop count⟩ := by
  unfold Read.bytes
  exact if_pos (List.length_take_of_le enough)

/-- A number of bytes cannot be read from fewer. -/
theorem bytes_of_lt {count : Nat} {start : Reader} (short : start.rest.length < count) :
    Read.bytes count start =
      .error (.error (.bufferTooSmall (min (start.position + count) (wordLimit - 1))
        (start.position + start.rest.length))) start := by
  unfold Read.bytes
  refine if_neg fun all => ?_
  rw [List.length_take] at all
  omega

/-- Lifting succeeds as the read from the front does, and counts what it consumed. -/
theorem lift_eq_ok_iff {read : Read α} {bytes : Bytes} {value : α} {consumed : Nat} :
    read.lift bytes = .ok (value, consumed) ↔
      ∃ rest, read (Reader.ofBytes bytes) = .ok value ⟨consumed, rest⟩ := by
  unfold lift
  constructor
  · intro lifted
    split at lifted
    · next result after run =>
      cases lifted
      exact ⟨after.rest, run⟩
    · cases lifted
  · rintro ⟨rest, run⟩
    simp only [run]

/-- Lifting fails as the read from the front does. -/
theorem lift_eq_error_iff {read : Read α} {bytes : Bytes} {fault : Fault CodecError} :
    read.lift bytes = .error fault ↔
      ∃ after, read (Reader.ofBytes bytes) = .error fault after := by
  unfold lift
  constructor
  · intro lifted
    split at lifted
    · cases lifted
    · next other after run =>
      cases lifted
      exact ⟨after, run⟩
  · rintro ⟨after, run⟩
    simp only [run]

/-- The read consumes `data`, and no more, as `value`. -/
def Takes (read : Read α) (data : Bytes) (value : α) : Prop :=
  ∀ position rest, read ⟨position, data ++ rest⟩ = .ok value ⟨position + data.length, rest⟩

namespace Takes

protected theorem pure (value : α) : Takes (pure value) [] value := fun _ _ => rfl

/-- One read after another takes the bytes of both. -/
theorem bind {first : Read α} {next : α → Read β} {front back : Bytes} {middle : α} {value : β}
    (firstTakes : first.Takes front middle) (nextTakes : (next middle).Takes back value) :
    Takes (first >>= next) (front ++ back) value := by
  intro position rest
  rw [List.append_assoc, Act.bind_of_ok (firstTakes position (back ++ rest)), nextTakes,
    List.length_append, Nat.add_assoc]

/-- A read that only reworks what another one yields takes the same bytes. -/
theorem returning {first : Read α} {next : α → Read β} {data : Bytes} {middle : α} {value : β}
    (firstTakes : first.Takes data middle) (done : next middle = pure value) :
    Takes (first >>= next) data value := by
  have whole := firstTakes.bind (done ▸ Takes.pure value)
  rwa [List.append_nil] at whole

protected theorem bytes (data : Bytes) : (Read.bytes data.length).Takes data data := by
  intro position rest
  rw [bytes_of_le (by rw [List.length_append]; exact Nat.le_add_right _ _)]
  simp only [List.take_left, List.drop_left]

/-- Reading a word takes its encoding. -/
protected theorem word (width number : Nat) :
    (Read.word width).Takes (BigEndian.encode width number) (BitVec.ofNat (8 * width) number) := by
  have digits := Takes.bytes (BigEndian.encode width number)
  rw [BigEndian.length_encode] at digits
  refine digits.returning ?_
  rw [BigEndian.decode_encode]
  congr 1
  apply BitVec.eq_of_toNat_eq
  rw [BitVec.toNat_ofNat, BitVec.toNat_ofNat, Nat.pow_mul, Nat.mod_mod]

variable {read : Read α} {data : Bytes} {value : α}

/-- What yields a value without reading takes nothing. -/
theorem of_pure {result : α} (takes : Takes (pure result) data value) :
    data = [] ∧ value = result := by
  have run := takes 0 []
  cases data with
  | nil =>
      cases run
      exact ⟨rfl, rfl⟩
  | cons byte data => cases run

theorem lift (takes : read.Takes data value) (more : Bytes) :
    read.lift (data ++ more) = .ok (value, data.length) := by
  rw [lift_eq_ok_iff, ← Nat.zero_add data.length]
  exact ⟨more, takes 0 more⟩

/-- What a read takes is lifted exactly. -/
theorem liftExact (takes : read.Takes data value) : read.liftExact data = .ok value := by
  have run := takes 0 []
  rw [List.append_nil] at run
  unfold Read.liftExact Reader.ofBytes
  rw [Act.bind_of_ok run]
  rfl

end Takes

end Read

end Boundary
