import Boundary.Proofs.Wire.Program
import Boundary.Shape.Encoding

/-! # What a writer was made to write

A writer is asked for one step after another and goes on when one fails: for bytes, numbers,
length prefixes, texts and case numbers, for values of some shape, and for values that bring
code of their own. Each step is a program (`Boundary.WriterStep.run_program`), so it is known
which primitive writes it makes, also when it fails between two of them. After every sequence of
steps the buffer holds the data of all primitive writes that succeeded, one behind the other up
to the position, and behind that what it held before
(`Boundary.Writer.steps_are_recorded`).
-/

namespace Boundary

open WriterProgram (word fails inOrder)

/-! ## Programs of values -/

/-- Writes the signed whole seconds and the remaining nanoseconds. -/
def Instant.program (instant : Instant) : WriterProgram :=
  if signedLimit ≤ instant.seconds then fails (.invalidTimestamp instant.text)
  else
    let signed : Int := if instant.isBefore then -instant.seconds else instant.seconds
    (word 8 (BitVec.ofInt 64 signed).toNat).seq (word 4 instant.subsecond)

theorem Instant.run_program (instant : Instant) : instant.program.run = instant.write := by
  unfold program write
  split
  · rfl
  · rw [WriterProgram.run_seq, WriterProgram.run_word, WriterProgram.run_word]

namespace Shape

/-- The program that writes a value. -/
def program : (shape : Shape) → shape.Carrier → WriterProgram
  | scalar type, number => word type.width (BitVec.toNat number)
  | bool, truth => word 1 (Bool.toNat truth)
  | string, text => WriterProgram.text text
  | duration, length => (word 8 (Duration.seconds length)).seq (word 4 (Duration.subsecond length))
  | instant, time => Instant.program time
  | handle, name => word 8 (Handle.raw name).toNat
  | optional item, value =>
    (Option.map item.program value).elim (word 1 0) fun held => (word 1 1).seq held
  | list item, items =>
    (WriterProgram.length (List.length items)).seq (inOrder (List.map item.program items))
  | map key value, entries =>
    (WriterProgram.length (Entries.toList entries).length).seq
      (inOrder ((Entries.toList entries).map fun entry =>
        (key.program entry.1).seq (value.program entry.2)))

/-- The program of a sequence writes its length and its items. -/
theorem run_sequence {α : Type} {program : α → WriterProgram} {lowering : α → Lowering}
    (each : ∀ item, (program item).run = (lowering item).write) (items : List α) :
    ((WriterProgram.length items.length).seq (inOrder (items.map program))).run =
      (Lowering.sequence (items.map lowering)).write := by
  rw [WriterProgram.run_seq, WriterProgram.run_length, WriterProgram.run_inOrder each]
  simp only [Lowering.sequence, List.length_map, List.map_map]
  rfl

/-- The program of a value makes the write that its lowering has. -/
theorem run_program (shape : Shape) (value : shape.Carrier) :
    (shape.program value).run = (shape.lowering value).write := by
  induction shape with
  | scalar type => exact WriterProgram.run_word _ _
  | bool => exact WriterProgram.run_word _ _
  | string => exact WriterProgram.run_text _
  | duration =>
      rw [program, WriterProgram.run_seq, WriterProgram.run_word, WriterProgram.run_word]
      rfl
  | instant => exact Instant.run_program value
  | handle => exact WriterProgram.run_word _ _
  | optional item ih =>
      cases value with
      | none => exact WriterProgram.run_word _ _
      | some held =>
          change ((word 1 1).seq (item.program held)).run = _
          rw [WriterProgram.run_seq, WriterProgram.run_word, ih]
          rfl
  | list item ih => exact run_sequence ih value
  | map key item keyIH itemIH =>
      refine run_sequence (fun entry => ?_) (Entries.toList value)
      rw [WriterProgram.run_seq, keyIH, itemIH]
      rfl

end Shape

/-! ## Steps -/

/-- What a writer can be asked for. -/
inductive WriterStep where
  | bytes (data : Bytes)
  | scalar (type : Scalar) (number : type.Word)
  | length (count : Nat)
  | text (string : String)
  | discriminant (position : Nat)
  /-- A value of a shape. -/
  | typed (shape : Shape) (value : shape.Carrier)
  /-- A value with code of its own. -/
  | custom (program : WriterProgram)

namespace WriterStep

/-- The write of a step. -/
def write : WriterStep → Write
  | bytes data => Write.bytes data
  | scalar type number => type.write number
  | length count => Write.length count
  | text string => Utf8.write string
  | discriminant position => Write.discriminant position
  | typed shape value => (shape.lowering value).write
  | custom program => program.run

/-- The program of a step. -/
def program : WriterStep → WriterProgram
  | bytes data => .primitive data
  | scalar type number => word type.width number.toNat
  | length count => .length count
  | text string => .text string
  | discriminant position => .discriminant position
  | typed shape value => shape.program value
  | custom program => program

/-- **The program of a step writes what the step writes.** -/
theorem run_program (step : WriterStep) : step.program.run = step.write := by
  cases step with
  | bytes data => exact WriterProgram.run_primitive data
  | scalar type number => exact WriterProgram.run_word _ _
  | length count => exact WriterProgram.run_length count
  | text string => exact WriterProgram.run_text string
  | discriminant position => exact WriterProgram.run_discriminant position
  | typed shape value => exact shape.run_program value
  | custom program => rfl

/-- The step makes no more than one primitive write. -/
def IsPrimitive : WriterStep → Prop
  | bytes _ | scalar _ _ | length _ | discriminant _ => True
  | text _ | typed _ _ | custom _ => False

end WriterStep

namespace Write

variable {data : Bytes} {writer after : Writer} {fault : Fault CodecError}

/-- A refused write leaves the writer as it was. -/
theorem eq_of_bytes_error (refused : Write.bytes data writer = .error fault after) :
    after = writer := by
  by_cases room : data.length ≤ writer.untouched.size
  · cases (bytes_of_le room).symm.trans refused
  · cases (bytes_of_lt (Nat.lt_of_not_le room)).symm.trans refused
    rfl

/-- A check in front of a primitive write changes nothing either. -/
theorem eq_of_checked_error {check : Prop} [Decidable check] {cause : CodecError}
    (refused : (if check then Write.bytes data else Act.fail cause) writer =
      .error fault after) : after = writer := by
  by_cases holds : check
  · rw [if_pos holds] at refused
    exact eq_of_bytes_error refused
  · rw [if_neg holds] at refused
    cases refused
    rfl

end Write

/-- A primitive write that fails changes nothing. -/
theorem WriterStep.eq_of_write_error {step : WriterStep} (isPrimitive : step.IsPrimitive)
    {writer after : Writer} {fault : Fault CodecError}
    (refused : step.write writer = .error fault after) : after = writer := by
  cases step with
  | bytes data => exact Write.eq_of_bytes_error refused
  | scalar type number => exact Write.eq_of_bytes_error refused
  | length count => exact Write.eq_of_checked_error refused
  | discriminant position => exact Write.eq_of_checked_error refused
  | text _ | typed _ _ | custom _ => exact isPrimitive.elim

/-! ## Sequences of steps -/

namespace Writer

/-- The writer after some steps, some of which may have failed. -/
def perform (writer : Writer) (steps : List WriterStep) : Writer :=
  steps.foldl (fun writer step => writer.after step.write) writer

/-- The data of all primitive writes of some steps that succeed, in order. -/
def log (writer : Writer) : List WriterStep → List Bytes
  | [] => []
  | step :: rest => step.program.log writer ++ (writer.after step.write).log rest

/-- The writer has put the data of a log into a region. -/
structure Records (writer : Writer) (region : Region) (log : List Bytes) : Prop where
  size : writer.toBytes.length = region.size
  within : writer.position ≤ region.size
  position : writer.position = log.flatten.length
  front : writer.toBytes.take writer.position = log.flatten
  behind : writer.toBytes.drop writer.position = region.toBytes.drop writer.position

/-- Some steps fill in the bytes of their log. -/
theorem perform_eq_advance (steps : List WriterStep) (writer : Writer) :
    (writer.log steps).flatten.length ≤ writer.untouched.size ∧
      writer.perform steps = writer.advance (writer.log steps).flatten := by
  induction steps generalizing writer with
  | nil => exact ⟨Nat.zero_le _, (advance_nil writer).symm⟩
  | cons step rest ih =>
      obtain ⟨fits, left⟩ := step.program.leaves writer
      rw [step.run_program] at left
      obtain ⟨restFits, restLeft⟩ := ih (writer.after step.write)
      rw [left, size_untouched_advance] at restFits
      have flattened : (writer.log (step :: rest)).flatten =
          (step.program.log writer).flatten ++ ((writer.after step.write).log rest).flatten :=
        List.flatten_append
      rw [flattened, List.length_append]
      refine ⟨by rw [left]; omega, ?_⟩
      change (writer.after step.write).perform rest = _
      rw [restLeft, ← advance_append, ← left]

/-- A writer that took some bytes records them. -/
theorem records_advance {region : Region} {log : List Bytes}
    (fits : log.flatten.length ≤ region.size) :
    ((ofRegion region).advance log.flatten).Records region log := by
  have position : ((ofRegion region).advance log.flatten).position = log.flatten.length := by
    rw [position_advance, position_ofRegion, Nat.zero_add]
  refine { size := ?_, within := position ▸ fits, position, front := ?_, behind := ?_ }
  · rw [length_toBytes, position, size_untouched_advance]
    change log.flatten.length + (region.size - log.flatten.length) = region.size
    omega
  · rw [take_toBytes]
    simp only [advance, ofRegion, Array.toList_appendList, List.nil_append]
  · rw [drop_toBytes, position]
    exact Region.toBytes_drop _ region

/-- **After every sequence of steps the buffer holds the data of all primitive writes that
succeeded, in order and up to the position, and from there on what it held before.** The
position never goes back, and a primitive write that fails changes nothing. -/
theorem steps_are_recorded (region : Region) (steps more : List WriterStep) :
    ((ofRegion region).perform steps).Records region ((ofRegion region).log steps) ∧
      ((ofRegion region).perform steps).position ≤
        ((ofRegion region).perform (steps ++ more)).position ∧
      ∀ step : WriterStep, step.IsPrimitive → ∀ fault after,
        step.write ((ofRegion region).perform steps) = .error fault after →
          after = (ofRegion region).perform steps := by
  obtain ⟨fits, left⟩ := perform_eq_advance steps (ofRegion region)
  refine ⟨left ▸ records_advance fits, ?_, ?_⟩
  · obtain ⟨-, later⟩ := perform_eq_advance more ((ofRegion region).perform steps)
    unfold perform at later ⊢
    rw [List.foldl_append, later, position_advance]
    exact Nat.le_add_right _ _
  · intro step isPrimitive fault after refused
    exact WriterStep.eq_of_write_error isPrimitive refused

/-- A list that is cut off between its items, and a byte behind what is left of it. -/
def cutOff : List WriterStep :=
  [.typed (.list (.scalar .u16)) (show List (BitVec 16) from [1, 2]), .scalar .u8 7]

/-- A composite that is cut off by the end of the memory, and a word that comes after it. -/
theorem steps_are_recorded_when_cut_off :
    let writer := (ofRegion (.ofBytes (List.replicate 7 0xee))).perform cutOff
    (WriterStep.scalar .u16 1).IsPrimitive ∧
      ∃ after, (WriterStep.scalar .u16 1).write writer =
          .error (.error (.bufferTooSmall 9 7)) after ∧ after = writer := by
  obtain ⟨-, -, unchanged⟩ :=
    steps_are_recorded (.ofBytes (List.replicate 7 0xee)) cutOff []
  exact ⟨trivial, _, rfl, unchanged (.scalar .u16 1) trivial _ _ rfl⟩

/-- Room for the count, one item and the byte. -/
example : (ofRegion (.ofBytes (List.replicate 7 0xee))).log cutOff =
    [[0, 0, 0, 2], [0, 1], [7]] := by rfl

end Writer

end Boundary
