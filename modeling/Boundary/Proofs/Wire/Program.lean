import Boundary.Proofs.Wire.Emission
import Boundary.Proofs.Wire.Slice

/-! # Programs that write

What a value does with a writer is a program over two primitives: it writes some bytes and goes
on by how that ended, or it looks at the position (`Boundary.WriterProgram`). The log of a run
is the data of its primitive writes that succeeded, in order. A run fills in the bytes of its
log, whichever of its writes failed on the way and however it ends
(`Boundary.WriterProgram.leaves`). A primitive write in memory is a checked write of a slice at
the position, and the end of that slice is always a word
(`Boundary.Write.bytes_eq_writeSlice`).
-/

namespace Boundary

/-- Code that uses a writer. -/
inductive WriterProgram where
  | ends (ending : Outcome CodecError Unit)
  | bytes (data : Bytes) (next : Outcome CodecError Unit → WriterProgram)
  | position (next : Nat → WriterProgram)

/-- The writer after a write, whether it succeeded or not. -/
def Writer.after (writer : Writer) (write : Write) : Writer := (write.observe writer).2

namespace WriterProgram

/-- The write that a program makes. -/
def run : WriterProgram → Write
  | ends ending => Act.ofOutcome ending
  | bytes data next => do
    let outcome ← Act.ofTotal (Write.bytes data).observe
    (next outcome).run
  | position next => do
    let writer ← get
    (next writer.position).run

/-- The data of the primitive writes of a run that succeed, in order. -/
def log : WriterProgram → Writer → List Bytes
  | ends _, _ => []
  | bytes data next, writer =>
    match Write.bytes data writer with
    | .ok done after => data :: (next (.ok done)).log after
    | .error fault after => (next (.error fault)).log after
  | position next, writer => (next writer.position).log writer

/-- One program, and then another unless the first fails. -/
def seq : WriterProgram → WriterProgram → WriterProgram
  | ends (.ok _), second => second
  | ends (.error fault), _ => ends (.error fault)
  | bytes data next, second => bytes data fun outcome => (next outcome).seq second
  | position next, second => position fun place => (next place).seq second

/-- Programs in sequence write one after the other. -/
theorem run_seq (first second : WriterProgram) :
    (first.seq second).run = (do first.run; second.run) := by
  induction first with
  | ends ending =>
      cases ending with
      | ok _ => rfl
      | error _ => rfl
  | bytes data next ih =>
      simp only [seq, run, ih, bind_assoc]
  | position next ih =>
      simp only [seq, run, ih, bind_assoc]

/-! ## The programs of the writes -/

/-- Gives up. -/
def fails (cause : CodecError) : WriterProgram := ends (.error (.error cause))

/-- A primitive write, which ends as it ended. -/
def primitive (data : Bytes) : WriterProgram := bytes data ends

/-- Some programs, up to the first that fails. -/
def inOrder : List WriterProgram → WriterProgram
  | [] => ends (.ok ())
  | first :: others => first.seq (inOrder others)

/-- A primitive step writes its bytes. -/
theorem run_primitive (data : Bytes) : (primitive data).run = Write.bytes data := by
  funext writer
  change (Act.ofTotal (Write.bytes data).observe >>= Act.ofOutcome) writer = _
  rw [Act.bind_ofTotal]
  unfold Act.observe
  cases Write.bytes data writer with
  | ok _ _ => rfl
  | error _ _ => rfl

/-- A list of programs writes in order what its items write. -/
theorem run_inOrder {α : Type} {program : α → WriterProgram} {write : α → Write}
    (each : ∀ item, (program item).run = write item) (items : List α) :
    (inOrder (items.map program)).run = Write.inOrder (items.map write) := by
  induction items with
  | nil => rfl
  | cons item items ih =>
      rw [List.map_cons, List.map_cons, inOrder, run_seq, each, ih]
      rfl

/-- A number as a big-endian word. -/
def word (width number : Nat) : WriterProgram := primitive (BigEndian.encode width number)

/-- A length prefix. -/
def length (count : Nat) : WriterProgram :=
  if count ≤ maxLength then word 4 count else fails (.lengthOverflow count)

/-- The one-based number of the case at a position. -/
def discriminant (position : Nat) : WriterProgram :=
  if position + 1 ≤ maxLength then word 4 (position + 1) else fails (.lengthOverflow position)

/-- A text behind its length. -/
def text (text : String) : WriterProgram :=
  (length (Utf8.encode text).length).seq (primitive (Utf8.encode text))

theorem run_word (width number : Nat) : (word width number).run = Write.word width number :=
  run_primitive _

theorem run_length (count : Nat) : (length count).run = Write.length count := by
  unfold length Write.length
  split
  · exact run_word 4 count
  · rfl

/-- The program of a discriminant writes it. -/
theorem run_discriminant (position : Nat) :
    (discriminant position).run = Write.discriminant position := by
  unfold discriminant Write.discriminant
  split
  · exact run_word 4 (position + 1)
  · rfl

theorem run_text (string : String) : (text string).run = Utf8.write string := by
  rw [text, run_seq, run_length, run_primitive]
  rfl

end WriterProgram

/-! ## Primitive writes in memory -/

namespace Writer

theorem take_toBytes (writer : Writer) :
    writer.toBytes.take writer.position = writer.written.toList := by
  unfold toBytes position
  rw [← Array.length_toList, List.take_left]

theorem drop_toBytes (writer : Writer) :
    writer.toBytes.drop writer.position = writer.untouched.toBytes := by
  unfold toBytes position
  rw [← Array.length_toList, List.drop_left]

theorem length_toBytes (writer : Writer) :
    writer.toBytes.length = writer.position + writer.untouched.size := by
  unfold toBytes position
  rw [List.length_append, Array.length_toList, Region.length_toBytes]

/-- Filling in some bytes puts them at the position. -/
theorem toBytes_advance (data : Bytes) (writer : Writer) :
    (writer.advance data).toBytes = writer.toBytes.take writer.position ++ data ++
      writer.toBytes.drop (writer.position + data.length) := by
  rw [← List.drop_drop, take_toBytes, drop_toBytes]
  simp only [toBytes, advance, Array.toList_appendList, Region.toBytes_drop]

end Writer

namespace Write

variable {data : Bytes} {writer : Writer}

/-- What memory has room for is less than half of the words. -/
theorem position_add_lt (memory : writer.toBytes.length < signedLimit)
    (short : data.length < signedLimit) : writer.position + data.length < wordLimit := by
  have within : writer.position ≤ writer.toBytes.length :=
    writer.length_toBytes ▸ Nat.le_add_right _ _
  have half : signedLimit + signedLimit = wordLimit := rfl
  omega

/-- **A writer over memory writes a slice at its position**, or is refused as the slice is. -/
theorem bytes_eq_writeSlice (memory : writer.toBytes.length < signedLimit)
    (short : data.length < signedLimit) :
    Write.bytes data writer =
        (match writeSlice writer.toBytes writer.position data with
          | .ok _ => .ok () (writer.advance data)
          | .error fault => .error fault writer) ∧
      ∀ buffer, writeSlice writer.toBytes writer.position data = .ok buffer →
        (writer.advance data).toBytes = buffer := by
  have word := position_add_lt memory short
  have size := writer.length_toBytes
  have sizeWord : writer.toBytes.length < wordLimit := Nat.lt_trans memory (by decide)
  by_cases room : data.length ≤ writer.untouched.size
  · have wrote := writeSlice_of_le (show writer.position + data.length ≤ _ by omega) sizeWord
    rw [bytes_of_le room, wrote]
    refine ⟨rfl, fun buffer same => ?_⟩
    rw [Writer.toBytes_advance]
    exact Except.ok.inj same
  · have refused := writeSlice_of_lt (show writer.toBytes.length < _ by omega) word
    rw [bytes_of_lt (Nat.lt_of_not_le room), refused, size]
    exact ⟨rfl, nofun⟩

end Write

/-! ## What a run leaves -/

namespace WriterProgram

/-- **A run fills in the bytes of its log and leaves everything else**, whichever of its writes
failed and however it ends. -/
theorem leaves (program : WriterProgram) (writer : Writer) :
    (program.log writer).flatten.length ≤ writer.untouched.size ∧
      writer.after program.run = writer.advance (program.log writer).flatten := by
  induction program generalizing writer with
  | ends ending =>
      refine ⟨Nat.zero_le _, ?_⟩
      cases ending with
      | ok _ => exact (Writer.advance_nil writer).symm
      | error _ => exact (Writer.advance_nil writer).symm
  | bytes data next ih =>
      by_cases room : data.length ≤ writer.untouched.size
      · have wrote := Write.bytes_of_le room
        obtain ⟨fits, left⟩ := ih (.ok ()) (writer.advance data)
        rw [Writer.size_untouched_advance] at fits
        rw [Writer.advance_append] at left
        simp only [log, wrote, List.flatten_cons, List.length_append]
        refine ⟨by omega, Eq.trans ?_ left⟩
        unfold Writer.after Act.observe
        rw [run, Act.bind_ofTotal, Act.observe_of_ok wrote]
      · have refused := Write.bytes_of_lt (Nat.lt_of_not_le room)
        obtain ⟨fits, left⟩ := ih _ writer
        simp only [log, refused]
        refine ⟨fits, Eq.trans ?_ left⟩
        unfold Writer.after Act.observe
        rw [run, Act.bind_ofTotal, Act.observe_of_error refused]
  | position next ih => exact ih writer.position writer

end WriterProgram

end Boundary
