import Boundary.Proofs.Buffer.Lowering
import Boundary.Proofs.Schema.Limits

/-! # Buffers that were just made

There are six ways to come by a buffer (`Boundary.Buffer.Construction`). A buffer with memory
that one of them returns can be read and released again, and then its record is gone
(`Boundary.Buffer.Releasable`), unless more data was handed over than a signed 32-bit length
can count. Four of the six refuse to be handed more; bytes that are taken over as they are, and
the encoding of a value, are recorded whatever their size. The buffer for them is on record,
but every operation refuses it (`Boundary.Buffer.Stuck`), and so it stays there
(`Boundary.Buffer.Construction.build_releasable`).
-/

namespace Boundary

namespace Buffer

/-- A way to come by a buffer. The length of a view is a signed 32-bit word. -/
inductive Construction where
  | ofBytes (data : Bytes) (spare : Nat)
  | allocate (size : Nat)
  | ofForeignBytes (view : ForeignBytes) (word : view.length ≤ maxLength)
  | lower (lowering : Lowering)
  | lowerValue (schema : Schema) (value : Value)
  | reserve (buffer : Buffer) (additional : Nat)

/-- What a computation returned, if it did not fail. -/
def returned {ε : Type} : EStateM.Result ε Ledger Buffer → Option (Buffer × Ledger)
  | .ok buffer after => some (buffer, after)
  | .error _ _ => none

/-- A buffer is handed out by a construction that succeeds. -/
theorem returned_eq_some_iff {ε : Type} {result : EStateM.Result ε Ledger Buffer}
    {buffer : Buffer} {after : Ledger} :
    returned result = some (buffer, after) ↔ result = .ok buffer after := by
  cases result with
  | ok made left =>
      rw [returned, Option.some.injEq, Prod.mk.injEq, EStateM.Result.ok.injEq]
  | error fault left => exact iff_of_false nofun nofun

namespace Construction

/-- The buffer that is returned and the ledger that is left, unless the construction fails. -/
def build : Construction → Ledger → Option (Buffer × Ledger)
  | .ofBytes data spare, ledger => some (ofBytesSparing data spare ledger)
  | .allocate size, ledger => returned (Buffer.allocate size ledger)
  | .ofForeignBytes view _, ledger => returned (Buffer.ofForeignBytes view ledger)
  | .lower lowering, ledger => returned (Buffer.lower lowering ledger)
  | .lowerValue schema value, ledger => returned (Buffer.lowerValue schema value ledger)
  | .reserve buffer additional, ledger => returned (buffer.reserve additional ledger)

/-- More data is handed over than a length can count, to one of the two that do not ask. -/
def Overlong : Construction → Prop
  | .ofBytes data _ => maxLength < data.length
  | .lowerValue schema value => ∃ data, schema.encode value = .ok data ∧ maxLength < data.length
  | _ => False

end Construction

/-- The buffer can be read, and released: its record goes off the ledger and no other. -/
structure Releasable (buffer : Buffer) (ledger : Ledger) : Prop where
  recorded : ∃ address, buffer.address = some address ∧ ledger.isLive address buffer.capacity
  read : ∃ data, buffer.read ledger = .ok data
  free : ∃ after, buffer.free ledger = .ok () after ∧ ∀ address, after.find? address =
    if buffer.address = some address then none else ledger.find? address

/-- The buffer is on record, but can neither be read nor released. -/
structure Stuck (buffer : Buffer) (ledger : Ledger) : Prop where
  recorded : ∃ address, buffer.address = some address ∧ ledger.isLive address buffer.capacity
  read : buffer.read ledger = .error (.lengthOverflow buffer.length)
  free : buffer.free ledger = .error (.lengthOverflow buffer.length) ledger

/-! ## Which buffers hold data -/

variable {buffer : Buffer} {ledger after : Ledger} {data : Bytes}

/-- Releasing a buffer takes its block away, and no other. -/
theorem find?_releasedFrom (buffer : Buffer) (ledger : Ledger) (address : Address) :
    (buffer.releasedFrom ledger).find? address =
      if buffer.address = some address then none else ledger.find? address := by
  unfold releasedFrom
  cases buffer.address with
  | none => rfl
  | some located =>
      rw [Ledger.find?_erase]
      simp only [Option.some.injEq, eq_comm]

/-- A buffer that holds data, and has some memory, can be released. -/
theorem Holds.releasable (holds : buffer.Holds ledger data) (positive : 0 < buffer.capacity) :
    buffer.Releasable ledger where
  recorded := by
    cases holds with
    | nothing => exact absurd positive (Nat.lt_irrefl 0)
    | recorded found _ _ _ _ => exact ⟨_, rfl, Ledger.isLive_iff.mpr ⟨_, found⟩⟩
  read := ⟨data, holds.read⟩
  free := ⟨_, holds.free, find?_releasedFrom buffer ledger⟩

/-- A buffer is laid out well if its length, capacity and address go together. -/
theorem checkLayout_eq_ok_iff : buffer.checkLayout = .ok () ↔
    buffer.length ≤ buffer.capacity ∧ (buffer.address = none ↔ buffer.capacity = 0) ∧
      buffer.length ≤ maxLength := by
  have fits : (buffer.capacity < buffer.length ∨ buffer.isNull ≠ (buffer.capacity == 0)) ↔
      ¬ (buffer.length ≤ buffer.capacity ∧ (buffer.address = none ↔ buffer.capacity = 0)) := by
    rw [isNull, ne_eq, Bool.eq_iff_iff, Option.isNone_iff_eq_none, beq_iff_eq,
      not_and_or, Nat.not_le]
  unfold checkLayout
  by_cases sane : buffer.length ≤ buffer.capacity ∧
      (buffer.address = none ↔ buffer.capacity = 0)
  · rw [if_neg (fits.not.mpr (not_not.mpr sane))]
    by_cases short : buffer.length ≤ maxLength
    · rw [if_neg (Nat.not_lt.mpr short)]
      exact iff_of_true rfl ⟨sane.1, sane.2, short⟩
    · rw [if_pos (Nat.lt_of_not_le short)]
      exact iff_of_false nofun fun all => short all.2.2
  · rw [if_pos (fits.mpr sane)]
    exact iff_of_false nofun fun all => sane ⟨all.1, all.2.1⟩

/-- A buffer that can be checked out is laid out well. -/
theorem checkLayout_of_checkOut {block : Option Block}
    (out : buffer.checkOut ledger = .ok block after) : buffer.checkLayout = .ok () := by
  unfold checkOut at out
  cases layout : buffer.checkLayout with
  | error cause =>
      rw [layout] at out
      cases out
  | ok accepted => rfl

/-- Whatever buffer room is made in, what comes of it holds data. -/
theorem Holds.of_reserve {additional : Nat} {grown : Buffer}
    (reserved : buffer.reserve additional ledger = .ok grown after) :
    ∃ data, grown.Holds after data := by
  unfold reserve at reserved
  obtain ⟨block, between, out, rest⟩ := Act.bind_eq_ok_iff.mp reserved
  obtain ⟨fits, null, short⟩ := checkLayout_eq_ok_iff.mp (checkLayout_of_checkOut out)
  generalize total_eq : min (buffer.length + additional) (wordLimit - 1) = total at rest
  generalize (block.map Block.contents).getD (Region.zeroed 0) = contents at rest
  have covers : buffer.length ≤ total := by
    have wide : maxLength ≤ wordLimit - 1 := by decide
    omega
  have moved (recorded : (if total = 0 then pure empty else fun ledger =>
      .ok (record (grownCapacity buffer.capacity total) buffer.length contents ledger).1
        (record (grownCapacity buffer.capacity total) buffer.length contents ledger).2 :
          EStateM BufferError Ledger Buffer) between = .ok grown after) :
      ∃ data, grown.Holds after data := by
    by_cases none : total = 0
    · simp only [none, ↓reduceIte] at recorded
      cases recorded
      exact ⟨[], .nothing⟩
    · simp only [none, ↓reduceIte] at recorded
      cases recorded
      exact ⟨_, holds_record (covers.trans (le_grownCapacity _ _)) short contents between⟩
  split at rest
  · cases rest
  · dsimp only at rest
    cases located : buffer.address with
    | none =>
        rw [located] at rest
        exact moved rest
    | some address =>
        rw [located] at rest
        dsimp only at rest
        split at rest
        · cases rest
          have positive : 0 < buffer.capacity :=
            Nat.pos_of_ne_zero fun none => nomatch located.symm.trans (null.mpr none)
          have found := Ledger.find?_registerAgain between address
            ⟨buffer.capacity, contents⟩ address
          rw [if_pos rfl] at found
          obtain ⟨capacity, length, location⟩ := buffer
          obtain rfl : location = some address := located
          exact ⟨_, .recorded found positive fits short rfl⟩
        · exact moved rest

/-! ## Which constructions make them -/

/-- A value is lowered to a buffer made of its encoding. -/
theorem lowerValue_eq {schema : Schema} {value : Value} (encoded : schema.encode value = .ok data) :
    Buffer.lowerValue schema value ledger =
      .ok (ofBytes data ledger).1 (ofBytes data ledger).2 := by
  unfold Buffer.lowerValue
  rw [encoded]
  rfl

/-- A value that is lowered to a buffer has an encoding. -/
theorem exists_encode_of_lowerValue {schema : Schema} {value : Value}
    (lowered : Buffer.lowerValue schema value ledger = .ok buffer after) :
    ∃ data, schema.encode value = .ok data ∧ ofBytes data ledger = (buffer, after) := by
  cases encoded : schema.encode value with
  | ok data =>
      rw [lowerValue_eq encoded] at lowered
      cases lowered
      exact ⟨data, rfl, rfl⟩
  | error fault =>
      unfold Buffer.lowerValue at lowered
      rw [encoded] at lowered
      cases lowered

/-- A construction that is not handed too much makes a buffer that holds data. -/
theorem Construction.holds_build {construction : Construction}
    (built : construction.build ledger = some (buffer, after))
    (short : ¬ construction.Overlong) : ∃ data, buffer.Holds after data := by
  cases construction with
  | ofBytes data spare =>
      have holds := holds_record (Nat.le_add_right data.length spare) (Nat.le_of_not_lt short)
        (Region.ofBytes data) ledger
      rw [show record _ _ _ ledger = (buffer, after) from Option.some.inj built] at holds
      exact ⟨_, holds⟩
  | allocate size =>
      have allocated := returned_eq_some_iff.mp built
      by_cases large : maxLength < size
      · rw [allocate_of_lt large] at allocated
        cases allocated
      · rw [allocate_of_le (Nat.le_of_not_lt large)] at allocated
        cases allocated
        exact ⟨_, holds_record (Nat.le_refl _) (Nat.le_of_not_lt large) _ ledger⟩
  | ofForeignBytes view word =>
      have copied := returned_eq_some_iff.mp built
      unfold Buffer.ofForeignBytes at copied
      cases viewed : view.read with
      | error cause =>
          rw [viewed] at copied
          cases copied
      | ok data =>
          rw [viewed] at copied
          cases copied
          have within : data.length ≤ view.size := by
            rw [← ForeignBytes.eq_take_of_read viewed]
            exact List.length_take_le _ _
          have counted : view.size ≤ maxLength := Int.toNat_le.mpr word
          exact ⟨data, holds_ofBytes (within.trans counted) ledger⟩
  | lower lowering => exact Holds.of_lower (returned_eq_some_iff.mp built)
  | lowerValue schema value =>
      obtain ⟨data, encoded, handed⟩ :=
        exists_encode_of_lowerValue (returned_eq_some_iff.mp built)
      have counted : data.length ≤ maxLength :=
        Nat.le_of_not_lt fun large => short ⟨data, encoded, large⟩
      have holds := holds_ofBytes counted ledger
      rw [handed] at holds
      exact ⟨data, holds⟩
  | reserve old additional => exact Holds.of_reserve (returned_eq_some_iff.mp built)

theorem ofBytesSparing_eq (spare : Nat) (ledger : Ledger) (positive : data.length + spare ≠ 0) :
    ofBytesSparing data spare ledger =
      (⟨data.length + spare, data.length, some ledger.nextAddress⟩,
        (ledger.register ⟨data.length + spare, Region.ofBytes data⟩).2) :=
  record_of_ne_zero positive

/-- Bytes that a length cannot count are recorded, and refused from then on. -/
theorem stuck_ofBytesSparing (large : maxLength < data.length) (spare : Nat) (ledger : Ledger) :
    (ofBytesSparing data spare ledger).1.Stuck (ofBytesSparing data spare ledger).2 := by
  have positive : data.length + spare ≠ 0 := by omega
  have layout : checkLayout ⟨data.length + spare, data.length, some ledger.nextAddress⟩ =
      .error (.lengthOverflow data.length) := by
    have sane : ¬ (data.length + spare < data.length ∨ false ≠ (data.length + spare == 0)) := by
      simp only [ne_eq, Bool.false_eq, beq_eq_false_iff_ne]
      omega
    unfold checkLayout
    exact (if_neg sane).trans (if_pos large)
  have found := Ledger.find?_register ledger ⟨data.length + spare, Region.ofBytes data⟩
    ledger.nextAddress
  rw [if_pos rfl] at found
  rw [ofBytesSparing_eq spare ledger positive]
  refine ⟨⟨_, rfl, Ledger.isLive_iff.mpr ⟨_, found⟩⟩, ?_, ?_⟩
  · unfold Buffer.read
    rw [layout]
    rfl
  · unfold Buffer.free take
    refine Act.bind_of_error (Act.bind_of_error ?_)
    unfold checkOut
    rw [layout]

/-- What is handed out with too much data is stuck. -/
theorem Construction.stuck_build {construction : Construction}
    (built : construction.build ledger = some (buffer, after))
    (large : construction.Overlong) : buffer.Stuck after := by
  cases construction with
  | ofBytes data spare =>
      have stuck := stuck_ofBytesSparing large spare ledger
      rw [show ofBytesSparing data spare ledger = (buffer, after) from Option.some.inj built]
        at stuck
      exact stuck
  | lowerValue schema value =>
      obtain ⟨data, encoded, handed⟩ :=
        exists_encode_of_lowerValue (returned_eq_some_iff.mp built)
      obtain ⟨other, same, long⟩ := large
      cases encoded.symm.trans same
      have stuck := stuck_ofBytesSparing long 0 ledger
      rw [show ofBytesSparing data 0 ledger = (buffer, after) from handed] at stuck
      exact stuck
  | allocate | ofForeignBytes | lower | reserve => exact large.elim

/-- **A buffer with memory that was just made can be read and released, unless more data was
taken over than a length can count; then it stays on record for good.** -/
theorem Construction.build_releasable {construction : Construction}
    (built : construction.build ledger = some (buffer, after)) (positive : 0 < buffer.capacity) :
    (¬ construction.Overlong → buffer.Releasable after) ∧
      (construction.Overlong → buffer.Stuck after) := by
  refine ⟨fun short => ?_, construction.stuck_build built⟩
  obtain ⟨data, holds⟩ := construction.holds_build built short
  exact holds.releasable positive

/-- The encoding of a value can be too much though no part of the value exceeds the format. -/
theorem Construction.overlong_lowerValue_iff {schema : Schema} {value : Value}
    (conforms : schema.Conforms value) (within : ¬ schema.Exceeds value)
    (short : value.wireSize < signedLimit) :
    (Construction.lowerValue schema value).Overlong ↔ maxLength < value.wireSize := by
  obtain ⟨data, encoded, sized⟩ := (Schema.encode_of_conforms conforms short).1 within
  rw [← sized]
  constructor
  · rintro ⟨other, same, large⟩
    cases encoded.symm.trans same
    exact large
  · exact fun large => ⟨data, encoded, large⟩

/-- Three bytes with room for two more. -/
theorem Construction.build_releasable_spare :
    (Construction.ofBytes [1, 2, 3] 2).build .empty = some (⟨5, 3, some 1⟩,
        (Ledger.empty.register ⟨5, Region.ofBytes [1, 2, 3]⟩).2) ∧
      Releasable ⟨5, 3, some 1⟩ (Ledger.empty.register ⟨5, Region.ofBytes [1, 2, 3]⟩).2 :=
  have built : (Construction.ofBytes [1, 2, 3] 2).build .empty = some (⟨5, 3, some 1⟩,
    (Ledger.empty.register ⟨5, Region.ofBytes [1, 2, 3]⟩).2) := rfl
  have short : ¬ (Construction.ofBytes [1, 2, 3] 2).Overlong :=
    Nat.not_lt.mpr (by decide)
  ⟨built, (Construction.build_releasable built (by decide)).1 short⟩

/-- One byte more than a length can count. -/
theorem Construction.build_overlong_not_releasable : ∃ after,
    (Construction.ofBytes (List.replicate 2147483648 0) 0).build .empty =
        some (⟨2147483648, 2147483648, some 1⟩, after) ∧
      free ⟨2147483648, 2147483648, some 1⟩ after =
        .error (.lengthOverflow 2147483648) after ∧
      ¬ Releasable ⟨2147483648, 2147483648, some 1⟩ after := by
  have of_length (data : Bytes) (size : data.length = 2147483648) : ∃ after,
      (Construction.ofBytes data 0).build .empty =
          some (⟨2147483648, 2147483648, some 1⟩, after) ∧
        free ⟨2147483648, 2147483648, some 1⟩ after =
          .error (.lengthOverflow 2147483648) after ∧
        ¬ Releasable ⟨2147483648, 2147483648, some 1⟩ after := by
    have positive : data.length + 0 ≠ 0 := by
      rw [size]
      decide
    have large : (Construction.ofBytes data 0).Overlong := by
      change maxLength < data.length
      rw [size]
      decide
    have built := congrArg some (ofBytesSparing_eq 0 Ledger.empty positive)
    rw [size] at built
    have stuck := (Construction.ofBytes data 0).stuck_build built large
    refine ⟨_, built, stuck.free, fun releasable => ?_⟩
    obtain ⟨held, read⟩ := releasable.read
    exact nomatch stuck.read.symm.trans read
  exact of_length _ List.length_replicate

end Buffer

end Boundary
