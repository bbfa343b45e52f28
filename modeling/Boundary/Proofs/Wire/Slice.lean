import Boundary.Wire.Slice
import Mathlib.Data.List.Basic

/-! # Slices that are written and read

A range of a buffer is written exactly when it lies in the buffer. What is read there afterwards
is what was written, and everything around it is as before (`Boundary.Overwrites`). A range that
does not lie in the buffer is refused to both, but the two do not compute its end alike: the
end of a read stops at the greatest word, and the end of a write that is no word panics. They
name the same end, which lies behind the buffer, exactly as long as it is a word
(`Boundary.slice_is_refused_alike_iff`).
-/

namespace Boundary

/-- The data was put in the place of as many bytes, and nothing else changed. -/
structure Overwrites (buffer : Bytes) (start : Nat) (data written : Bytes) : Prop where
  length : written.length = buffer.length
  within : readSlice written start data.length = .ok data
  outside : ∀ index, index < start ∨ start + data.length ≤ index →
    written[index]? = buffer[index]?

/-- Where the write is not made, it reports that it asks for more bytes than there are, and the
read of the same range is refused with the same error. -/
def RefusedAlike (buffer : Bytes) (start : Nat) (data : Bytes) : Prop :=
  ∀ fault, writeSlice buffer start data = .error fault →
    ∃ needed, buffer.length < needed ∧ fault = .error (.bufferTooSmall needed buffer.length) ∧
      readSlice buffer start data.length = .error (.bufferTooSmall needed buffer.length)

section

variable {buffer data : Bytes} {start count : Nat}

theorem readSlice_of_le (within : start + count ≤ buffer.length) :
    readSlice buffer start count = .ok ((buffer.drop start).take count) := by
  unfold readSlice
  exact if_pos within

/-- Beyond the buffer a read asks for the end of its range, or for the greatest word. -/
theorem readSlice_of_lt (beyond : buffer.length < start + count) :
    readSlice buffer start count =
      .error (.bufferTooSmall (min (start + count) (wordLimit - 1)) buffer.length) := by
  unfold readSlice
  exact if_neg (Nat.not_le_of_lt beyond)

/-- A write within a buffer in memory is made. -/
theorem writeSlice_of_le (within : start + data.length ≤ buffer.length)
    (short : buffer.length < wordLimit) : writeSlice buffer start data =
      .ok (buffer.take start ++ data ++ buffer.drop (start + data.length)) := by
  have word : ¬ wordLimit ≤ start + data.length :=
    Nat.not_le_of_lt (Nat.lt_of_le_of_lt within short)
  unfold writeSlice
  exact (if_neg word).trans (if_pos within)

/-- Beyond the buffer a write asks for the end of its range, if that is a word. -/
theorem writeSlice_of_lt (beyond : buffer.length < start + data.length)
    (word : start + data.length < wordLimit) : writeSlice buffer start data =
      .error (.error (.bufferTooSmall (start + data.length) buffer.length)) := by
  unfold writeSlice
  exact (if_neg (Nat.not_le_of_lt word)).trans (if_neg (Nat.not_le_of_lt beyond))

/-- An end that is no word cannot be computed. -/
theorem writeSlice_of_wordLimit_le (overflows : wordLimit ≤ start + data.length) :
    writeSlice buffer start data = .error (.panic .additionOverflow) := by
  unfold writeSlice
  exact if_pos overflows

/-- Putting some bytes in the place of as many others overwrites these. -/
theorem overwrites_of_le (within : start + data.length ≤ buffer.length) :
    Overwrites buffer start data
      (buffer.take start ++ data ++ buffer.drop (start + data.length)) := by
  have front : (buffer.take start).length = start := List.length_take_of_le (by omega)
  have length : (buffer.take start ++ data ++ buffer.drop (start + data.length)).length =
      buffer.length := by
    simp only [List.length_append, front, List.length_drop]
    omega
  refine { length, within := ?_, outside := ?_ }
  · rw [readSlice_of_le (length.symm ▸ within), List.append_assoc]
    rw [List.drop_left' front, List.take_left]
  · intro index outside
    rcases outside with before | behind
    · rw [List.append_assoc, List.getElem?_append_left (front.symm ▸ before),
        List.getElem?_take_of_lt before]
    · have passed : (buffer.take start ++ data).length = start + data.length := by
        rw [List.length_append, front]
      rw [List.getElem?_append_right (passed.symm ▸ behind), passed, List.getElem?_drop]
      congr 1
      omega

/-- What a write leaves, and when it is made. -/
theorem writeSlice_eq_ok_iff (bufferWord : buffer.length < wordLimit) (written : Bytes) :
    writeSlice buffer start data = .ok written ↔ start + data.length ≤ buffer.length ∧
      written = buffer.take start ++ data ++ buffer.drop (start + data.length) := by
  by_cases within : start + data.length ≤ buffer.length
  · simp only [writeSlice_of_le within bufferWord, Except.ok.injEq, within, true_and]
    exact eq_comm
  have refused : ∃ fault, writeSlice buffer start data = .error fault := by
    by_cases word : start + data.length < wordLimit
    · exact ⟨_, writeSlice_of_lt (Nat.lt_of_not_le within) word⟩
    · exact ⟨_, writeSlice_of_wordLimit_le (Nat.le_of_not_lt word)⟩
  obtain ⟨fault, refused⟩ := refused
  simp only [refused, within, reduceCtorEq, false_and]

/-- Writes and reads are refused alike exactly as long as the end of the range is a word. -/
theorem refusedAlike_iff (bufferWord : buffer.length < wordLimit) :
    RefusedAlike buffer start data ↔ start + data.length < wordLimit := by
  constructor
  · intro alike
    by_contra word
    -- The write panics, so it reports nothing at all.
    have panics : writeSlice buffer start data = .error (.panic .additionOverflow) :=
      writeSlice_of_wordLimit_le (Nat.le_of_not_lt word)
    obtain ⟨needed, _, same, _⟩ := alike _ panics
    cases same
  · intro word fault refused
    have beyond : buffer.length < start + data.length := by
      by_contra within
      cases (writeSlice_of_le (Nat.le_of_not_lt within) bufferWord).symm.trans refused
    obtain rfl := Except.error.inj ((writeSlice_of_lt beyond word).symm.trans refused)
    refine ⟨_, beyond, rfl, (readSlice_of_lt beyond).trans ?_⟩
    rw [Nat.min_eq_left (by omega)]

/-- **A range is written exactly when it lies in the buffer, and then nothing else is. A range
that does not is refused as it is to a read, exactly as long as its end is a word**; a write of
any other panics. -/
theorem slice_is_refused_alike_iff (bufferWord : buffer.length < wordLimit) :
    ((∃ written, writeSlice buffer start data = .ok written) ↔
        start + data.length ≤ buffer.length) ∧
      (∀ written, writeSlice buffer start data = .ok written →
        Overwrites buffer start data written) ∧
      (RefusedAlike buffer start data ↔ start + data.length < wordLimit) ∧
      (wordLimit ≤ start + data.length →
        writeSlice buffer start data = .error (.panic .additionOverflow)) := by
  have wrote (written : Bytes) : writeSlice buffer start data = .ok written ↔
      start + data.length ≤ buffer.length ∧ _ := writeSlice_eq_ok_iff bufferWord written
  refine ⟨?_, ?_, refusedAlike_iff bufferWord, writeSlice_of_wordLimit_le⟩
  · simp only [wrote, exists_and_left, exists_eq, and_true]
  · intro written made
    obtain ⟨within, rfl⟩ := (wrote written).mp made
    exact overwrites_of_le within

end

/-- The end of the range is the greatest word. -/
theorem slice_is_refused_alike_at_last_word :
    ([0xaa, 0xbb, 0xcc] : Bytes).length < wordLimit ∧
      wordLimit - 2 + ([0x01] : Bytes).length < wordLimit ∧
        RefusedAlike [0xaa, 0xbb, 0xcc] (wordLimit - 2) [0x01] := by
  have bufferWord : ([0xaa, 0xbb, 0xcc] : Bytes).length < wordLimit := by decide
  have word : wordLimit - 2 + ([0x01] : Bytes).length < wordLimit := by decide
  obtain ⟨-, -, alike, -⟩ := slice_is_refused_alike_iff bufferWord
  exact ⟨bufferWord, word, alike.mpr word⟩

/-- Of three bytes, a write of two that starts at the greatest word panics, where the read of the
same range is refused. -/
theorem slice_past_last_word_panics :
    writeSlice [0xaa, 0xbb, 0xcc] (wordLimit - 1) [0x01, 0x02] =
        .error (.panic (.text "attempt to add with overflow")) ∧
      readSlice [0xaa, 0xbb, 0xcc] (wordLimit - 1) 2 =
        .error (.bufferTooSmall (wordLimit - 1) 3) ∧
      ¬ RefusedAlike [0xaa, 0xbb, 0xcc] (wordLimit - 1) [0x01, 0x02] := by
  have panics : writeSlice [0xaa, 0xbb, 0xcc] (wordLimit - 1) [0x01, 0x02] =
      .error (.panic (.text "attempt to add with overflow")) := by rfl
  have read : readSlice [0xaa, 0xbb, 0xcc] (wordLimit - 1) 2 =
      .error (.bufferTooSmall (wordLimit - 1) 3) := by rfl
  refine ⟨panics, read, fun alike => ?_⟩
  obtain ⟨needed, -, reported, -⟩ := alike _ panics
  cases reported

end Boundary
