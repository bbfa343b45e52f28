import Boundary.Buffer
import Boundary.Proofs.Ledger
import Boundary.Proofs.Sequencing

/-! # Buffers that the ledger knows and buffers that it refuses

A buffer holds data when the ledger has its allocation on record, with the capacity that
the buffer claims, and the data lies in it (`Boundary.Buffer.Holds`). It can be read,
released and made room in. A buffer whose allocation is not on record that way is refused
by each operation, without effect (`Boundary.Buffer.Refused`).
-/

namespace Boundary

@[simp] theorem Region.length_read (count : Nat) (region : Region) :
    (region.read count).length = count := by
  simp only [read, List.length_append, List.length_take, List.length_replicate]
  omega

@[simp] theorem Region.read_ofBytes (bytes : Bytes) :
    (Region.ofBytes bytes).read bytes.length = bytes := by
  have whole : bytes.length ≤ (ofBytes bytes).size := Nat.le_add_right _ _
  rw [read_eq_take whole, toBytes_ofBytes, List.take_length]

/-- Fresh memory reads as zeros. -/
@[simp] theorem Region.read_zeroed (count : Nat) :
    (Region.zeroed count).read count = List.replicate count 0 := by
  simp only [read, zeroed, List.take_nil, List.length_nil, Nat.sub_zero, List.nil_append]

/-- A view that can be read shows as many bytes as it has in view. -/
theorem ForeignBytes.eq_take_of_read {view : ForeignBytes} {data : Bytes}
    (viewed : view.read = .ok data) : (view.data.getD []).take view.size = data := by
  unfold ForeignBytes.read at viewed
  split at viewed
  · cases viewed
  · exact Except.ok.inj viewed

namespace Buffer

/-- The ledger has the allocation of the buffer on record, and the data lies at its front. The
buffer without memory holds nothing and needs no record. -/
inductive Holds (ledger : Ledger) : Buffer → Bytes → Prop
  | nothing : Holds ledger .empty []
  | recorded {capacity length : Nat} {address : Address} {contents : Region} {data : Bytes} :
      ledger.find? address = some ⟨capacity, contents⟩ → 0 < capacity → length ≤ capacity →
      length ≤ maxLength → contents.read length = data →
      Holds ledger ⟨capacity, length, some address⟩ data

/-- The ledger without the record of the buffer. -/
def releasedFrom (buffer : Buffer) (ledger : Ledger) : Ledger :=
  match buffer.address with
  | none => ledger
  | some address => ledger.erase address

@[simp] theorem nextAddress_releasedFrom (buffer : Buffer) (ledger : Ledger) :
    (buffer.releasedFrom ledger).nextAddress = ledger.nextAddress := by
  unfold releasedFrom
  split <;> rfl

theorem le_grownCapacity (capacity required : Nat) :
    required ≤ grownCapacity capacity required := by
  unfold grownCapacity
  omega

/-- The allocation that the buffer claims is not on record. -/
def Refused (buffer : Buffer) (ledger : Ledger) : Prop :=
  ∃ address, buffer.address = some address ∧ ¬ ledger.isLive address buffer.capacity

variable {buffer : Buffer} {ledger : Ledger} {data : Bytes}

/-- Memory of some capacity is registered at the next address. -/
theorem record_of_ne_zero {capacity length : Nat} {contents : Region} (positive : capacity ≠ 0) :
    record capacity length contents ledger =
      (⟨capacity, length, some ledger.nextAddress⟩,
        (ledger.register ⟨capacity, contents⟩).2) := by
  unfold record
  rw [if_neg positive]
  rfl

theorem allocate_of_lt {size : Nat} (large : maxLength < size) :
    allocate size ledger = .error (.tooLarge size) ledger := by
  simp only [allocate, large, ↓reduceIte]
  rfl

theorem allocate_of_le {size : Nat} (short : size ≤ maxLength) : allocate size ledger =
    .ok (record size size (Region.zeroed size) ledger).1
      (record size size (Region.zeroed size) ledger).2 := by
  simp only [allocate, Nat.not_lt.mpr short, ↓reduceIte]
  rfl

namespace Holds

theorem length_eq (holds : buffer.Holds ledger data) : data.length = buffer.length := by
  cases holds with
  | nothing => rfl
  | recorded _ _ _ _ same => rw [← same, Region.length_read]

/-- Only the record of the buffer itself matters. -/
theorem congr (holds : buffer.Holds ledger data) {other : Ledger}
    (same : ∀ address, buffer.address = some address →
      other.find? address = ledger.find? address) : buffer.Holds other data := by
  cases holds with
  | nothing => exact .nothing
  | recorded found positive fits short read =>
      exact .recorded ((same _ rfl).trans found) positive fits short read

/-- A buffer that holds data was allocated before. -/
theorem lt_nextAddress (holds : buffer.Holds ledger data) (orderly : ledger.Orderly)
    {address : Address} (located : buffer.address = some address) :
    address < ledger.nextAddress := by
  cases holds with
  | nothing => cases located
  | recorded found _ _ _ _ =>
      cases located
      exact orderly.lt_nextAddress found

/-- A buffer that holds data is laid out well. -/
theorem checkLayout (holds : buffer.Holds ledger data) : buffer.checkLayout = .ok () := by
  cases holds with
  | nothing => rfl
  | @recorded capacity length address _ _ _ positive fits short _ =>
      have sane : ¬ (capacity < length ∨ (Option.isNone (some address)) ≠ (capacity == 0)) := by
        simp only [Option.isNone_some, ne_eq, Bool.false_eq, beq_eq_false_iff_ne]
        omega
      unfold Buffer.checkLayout isNull
      rw [if_neg sane, if_neg (Nat.not_lt.mpr short)]

/-- A buffer that holds data is read as these. -/
theorem read (holds : buffer.Holds ledger data) : buffer.read ledger = .ok data := by
  have layout := holds.checkLayout
  unfold Buffer.read
  rw [layout]
  cases holds with
  | nothing => rfl
  | @recorded capacity length address contents _ found _ _ _ same =>
      have live : ledger.isLive address capacity := Ledger.isLive_iff.mpr ⟨_, found⟩
      have memory : ledger.memory? address = some contents := by
        unfold Ledger.memory?
        rw [found]
        rfl
      change (if ledger.isLive address capacity then _ else _) = _
      rw [if_pos live, memory]
      exact congrArg Except.ok same

/-- A buffer that holds data is checked out, and its record is gone. -/
theorem checkOut (holds : buffer.Holds ledger data) : ∃ block,
    buffer.checkOut ledger = .ok block (buffer.releasedFrom ledger) ∧
      block = buffer.address.bind ledger.find? := by
  have layout := holds.checkLayout
  unfold Buffer.checkOut
  rw [layout]
  cases holds with
  | nothing => exact ⟨none, rfl, rfl⟩
  | recorded found _ _ _ _ =>
      have released := Ledger.release_of_find? found
      refine ⟨_, ?_, found.symm⟩
      simp only [released, releasedFrom]

/-- What is released is what the buffer held. -/
theorem take (holds : buffer.Holds ledger data) :
    buffer.take ledger = .ok data (buffer.releasedFrom ledger) := by
  obtain ⟨_, out, rfl⟩ := holds.checkOut
  unfold Buffer.take
  rw [Act.bind_of_ok out]
  cases holds with
  | nothing => rfl
  | recorded found _ _ _ same =>
      simp only [Option.bind_some, found, same]
      rfl

theorem free (holds : buffer.Holds ledger data) :
    buffer.free ledger = .ok () (buffer.releasedFrom ledger) := by
  unfold Buffer.free
  rw [Act.bind_of_ok holds.take]
  rfl

/-- A length prefix could not count the data with the room behind it. -/
theorem reserve_of_lt (holds : buffer.Holds ledger data) {additional : Nat}
    (large : maxLength < buffer.length + additional) : ∃ size,
    buffer.reserve additional ledger = .error (.tooLarge size) (buffer.releasedFrom ledger) := by
  obtain ⟨_, out, _⟩ := holds.checkOut
  have total : maxLength < min (buffer.length + additional) (wordLimit - 1) :=
    Nat.lt_min.mpr ⟨large, by decide⟩
  unfold Buffer.reserve
  dsimp only
  rw [Act.bind_of_ok out, if_pos total]
  exact ⟨_, rfl⟩

/-- An allocation with enough room is checked out and handed out again. -/
theorem reserve_of_le (holds : buffer.Holds ledger data) {additional : Nat}
    (short : buffer.length + additional ≤ maxLength)
    (fits : buffer.length + additional ≤ buffer.capacity) :
    ∃ kept, buffer.reserve additional ledger = .ok buffer kept ∧
      (ledger.Orderly → ledger.Alike kept) := by
  obtain ⟨_, out, rfl⟩ := holds.checkOut
  have total : min (buffer.length + additional) (wordLimit - 1) = buffer.length + additional :=
    Nat.min_eq_left (Nat.le_trans short (by decide))
  unfold Buffer.reserve
  dsimp only
  rw [Act.bind_of_ok out, total, if_neg (Nat.not_lt.mpr short)]
  cases holds with
  | nothing =>
      obtain rfl : additional = 0 := by
        have none : empty.length + additional ≤ empty.capacity := fits
        simp only [empty] at none
        omega
      exact ⟨ledger, rfl, fun orderly => ⟨orderly, fun _ => rfl, rfl, rfl⟩⟩
  | recorded found _ _ _ _ =>
      simp only [Option.bind_some, found, if_pos fits]
      exact ⟨_, rfl, fun orderly => orderly.alike_registerAgain found⟩

/-- Data that does not fit moves to a new allocation. -/
theorem reserve_of_capacity_lt (holds : buffer.Holds ledger data) {additional : Nat}
    (short : buffer.length + additional ≤ maxLength)
    (lacking : buffer.capacity < buffer.length + additional) :
    ∃ contents : Region, contents.read buffer.length = data ∧
      buffer.reserve additional ledger =
        .ok ⟨grownCapacity buffer.capacity (buffer.length + additional), buffer.length,
            some ledger.nextAddress⟩
          ((buffer.releasedFrom ledger).register
            ⟨grownCapacity buffer.capacity (buffer.length + additional), contents⟩).2 := by
  obtain ⟨_, out, rfl⟩ := holds.checkOut
  have total : min (buffer.length + additional) (wordLimit - 1) = buffer.length + additional :=
    Nat.min_eq_left (Nat.le_trans short (by decide))
  have nonempty : buffer.length + additional ≠ 0 := Nat.ne_zero_of_lt lacking
  have positive : grownCapacity buffer.capacity (buffer.length + additional) ≠ 0 :=
    Nat.ne_of_gt (Nat.lt_of_lt_of_le (Nat.pos_of_ne_zero nonempty) (le_grownCapacity _ _))
  unfold Buffer.reserve
  dsimp only
  rw [Act.bind_of_ok out, total, if_neg (Nat.not_lt.mpr short)]
  cases holds with
  | nothing =>
      refine ⟨Region.zeroed 0, rfl, ?_⟩
      simp only [empty] at nonempty positive ⊢
      simp only [nonempty, ↓reduceIte, record_of_ne_zero positive]
      rfl
  | @recorded _ _ _ contents _ found _ _ _ same =>
      refine ⟨contents, same, ?_⟩
      dsimp only at lacking nonempty positive
      simp only [Option.bind_some, found, Nat.not_le.mpr lacking, nonempty, ↓reduceIte,
        record_of_ne_zero positive]
      rfl

/-- Making room keeps the data, unless there would be too much: then the allocation is gone. -/
theorem reserve_cases (holds : buffer.Holds ledger data) (orderly : ledger.Orderly)
    (additional : Nat) :
    (data.length + additional ≤ maxLength ∧
      ∃ grown after, buffer.reserve additional ledger = .ok grown after ∧
        grown.read after = .ok data ∧ data.length + additional ≤ grown.capacity) ∨
    maxLength < data.length + additional ∧
      ∃ cause after, buffer.reserve additional ledger = .error cause after ∧
        ∀ address, buffer.address = some address → after.find? address = none := by
  rw [holds.length_eq]
  by_cases large : maxLength < buffer.length + additional
  · obtain ⟨size, failed⟩ := holds.reserve_of_lt large
    refine .inr ⟨large, _, _, failed, fun address located => ?_⟩
    rw [releasedFrom, located]
    exact (Ledger.find?_erase ledger address address).trans (if_pos rfl)
  have short : buffer.length + additional ≤ maxLength := Nat.le_of_not_lt large
  by_cases fits : buffer.length + additional ≤ buffer.capacity
  · obtain ⟨kept, reserved, alike⟩ := holds.reserve_of_le short fits
    have again := holds.congr fun address _ => (alike orderly).find? address
    exact .inl ⟨short, buffer, kept, reserved, again.read, fits⟩
  · obtain ⟨contents, same, reserved⟩ :=
      holds.reserve_of_capacity_lt short (Nat.lt_of_not_le fits)
    have grown := le_grownCapacity buffer.capacity (buffer.length + additional)
    have found := Ledger.find?_register (buffer.releasedFrom ledger)
      ⟨grownCapacity buffer.capacity (buffer.length + additional), contents⟩ ledger.nextAddress
    rw [nextAddress_releasedFrom, if_pos rfl] at found
    have moved := Holds.recorded found (by omega) (by omega) (by omega) same
    exact .inl ⟨short, _, _, reserved, moved.read, grown⟩

end Holds

namespace Refused

/-- An allocation that is not on record is not checked out, and nothing changes. The cause is not
that too much was asked for. -/
theorem checkOut (refused : buffer.Refused ledger) : ∃ cause,
    buffer.checkOut ledger = .error cause ledger ∧ ∀ size, cause ≠ .tooLarge size := by
  obtain ⟨address, located, dead⟩ := refused
  unfold Buffer.checkOut
  cases layout : buffer.checkLayout with
  | error cause =>
      refine ⟨cause, rfl, ?_⟩
      rintro size rfl
      unfold Buffer.checkLayout at layout
      split at layout
      · cases layout
      · split at layout <;> cases layout
  | ok accepted =>
      obtain ⟨cause, failed, ordinary⟩ := Ledger.release_of_not_isLive dead
      exact ⟨cause, by simp only [located, failed], ordinary⟩

/-- A buffer that is refused is not read. -/
theorem read (refused : buffer.Refused ledger) : ∃ cause, buffer.read ledger = .error cause := by
  obtain ⟨address, located, dead⟩ := refused
  unfold Buffer.read
  cases buffer.checkLayout with
  | error cause => exact ⟨cause, rfl⟩
  | ok accepted =>
      rw [located]
      change ∃ cause, (if ledger.isLive address buffer.capacity then _ else _) = _
      rw [if_neg dead]
      exact ⟨_, rfl⟩

theorem take (refused : buffer.Refused ledger) :
    ∃ cause, buffer.take ledger = .error cause ledger := by
  obtain ⟨cause, failed, _⟩ := refused.checkOut
  exact ⟨cause, Act.bind_of_error failed⟩

theorem free (refused : buffer.Refused ledger) :
    ∃ cause, buffer.free ledger = .error cause ledger := by
  obtain ⟨cause, failed⟩ := refused.take
  exact ⟨cause, Act.bind_of_error failed⟩

theorem reserve (refused : buffer.Refused ledger) (additional : Nat) : ∃ cause,
    buffer.reserve additional ledger = .error cause ledger ∧ ∀ size, cause ≠ .tooLarge size := by
  obtain ⟨cause, failed, ordinary⟩ := refused.checkOut
  exact ⟨cause, Act.bind_of_error failed, ordinary⟩

end Refused

end Buffer

end Boundary
