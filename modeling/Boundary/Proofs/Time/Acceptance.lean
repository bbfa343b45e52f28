import Boundary.Proofs.Schema.Limits
import Boundary.Proofs.Time.Clock
import Boundary.Proofs.Wire.Production

/-! # Which timestamps are accepted

Twelve bytes stand for a moment: seconds, and nanoseconds that count away from the epoch
and may be more than a second (`Boundary.Instant.wireMoment`). They are lifted exactly when
the moment is within the range of instants, as the instant at this moment
(`Boundary.Instant.timestamps_are_judged_by_their_moment`). Every instant that is lifted
can be lowered again and is the same when it comes back, except for the earliest of all:
the whole seconds between it and the epoch are more than a signed word holds
(`Boundary.Instant.lifted_timestamps_are_lowered_back`).
-/

namespace Boundary

/-- Any bytes are a word of as many. -/
theorem Read.takes_word {width : Nat} {data : Bytes} (length : data.length = width) :
    (Read.word width).Takes data (BitVec.ofNat (8 * width) (BigEndian.decode data)) := by
  subst length
  have digits := Takes.word data.length (BigEndian.decode data)
  rwa [BigEndian.encode_decode] at digits

namespace Instant

/-! ## Twelve bytes -/

/-- The seconds in the first eight of twelve bytes. -/
def wireSeconds (data : Bytes) : Int :=
  (BitVec.ofNat (8 * 8) (BigEndian.decode (data.take 8))).toInt

/-- The nanoseconds in the last four of twelve bytes. -/
def wireNanos (data : Bytes) : Nat := BigEndian.decode (data.drop 8)

/-- The instant that twelve bytes stand for, if it is one. -/
def ofWire? (data : Bytes) : Option Instant :=
  ofDistance? (wireSeconds data < 0) (wireSeconds data).natAbs (wireNanos data)

/-- The fields of twelve bytes, as a refusal names them. -/
def wireText (data : Bytes) : String := s!"{wireSeconds data}s {wireNanos data}ns"

variable {data : Bytes} {instant : Instant}

theorem wireSeconds_range (data : Bytes) :
    -(signedLimit : Int) ≤ wireSeconds data ∧ wireSeconds data < signedLimit := by
  have below := BitVec.le_toInt (BitVec.ofNat (8 * 8) (BigEndian.decode (data.take 8)))
  have above := BitVec.toInt_lt (x := BitVec.ofNat (8 * 8) (BigEndian.decode (data.take 8)))
  exact ⟨below, above⟩

theorem wireNanos_lt (length : data.length = 12) : wireNanos data < 2 ^ 32 := by
  have small := BigEndian.decode_lt (data.drop 8)
  rw [List.length_drop, length] at small
  exact small

/-- What a read of twelve bytes comes to. -/
theorem read_wire (length : data.length = 12) (position : Nat) (rest : Bytes) :
    Instant.read ⟨position, data ++ rest⟩ =
      match ofWire? data with
      | some instant => .ok instant ⟨position + 12, rest⟩
      | none => .error (.error (.invalidTimestamp (wireText data))) ⟨position + 12, rest⟩ := by
  have front : (data.take 8).length = 8 := List.length_take_of_le (by omega)
  have back : (data.drop 8).length = 4 := by rw [List.length_drop, length]
  have seconds := Read.takes_word front
  have nanos := Read.takes_word back
  have same : (BitVec.ofNat (8 * 4) (BigEndian.decode (data.drop 8))).toNat = wireNanos data :=
    Nat.mod_eq_of_lt (wireNanos_lt length)
  have split : data ++ rest = data.take 8 ++ (data.drop 8 ++ rest) := by
    rw [← List.append_assoc, List.take_append_drop]
  unfold Instant.read
  rw [split, Act.bind_of_ok (seconds _ _), Act.bind_of_ok (nanos _ _), front, back, same]
  unfold ofWire? wireText wireSeconds
  split
  · next instant made =>
    rw [made]
    rfl
  · next made =>
    rw [made]
    rfl

/-! ## Moments -/

/-- The nanoseconds from the epoch that twelve bytes stand for. -/
def wireTotal (data : Bytes) : Int :=
  if wireSeconds data < 0 then wireSeconds data * nanosPerSecond - wireNanos data
  else wireSeconds data * nanosPerSecond + wireNanos data

/-- The seconds from the epoch that twelve bytes stand for, with the fraction of a second. -/
def wireMoment (data : Bytes) : ℚ :=
  if wireSeconds data < 0 then wireSeconds data - wireNanos data / nanosPerSecond
  else wireSeconds data + wireNanos data / nanosPerSecond

/-- The seconds from the epoch, with the fraction of a second. -/
def moment (instant : Instant) : ℚ := instant.nanos / nanosPerSecond

/-- The moment is not before the first instant nor behind the last. -/
def Representable (moment : ℚ) : Prop :=
  -2 ^ 63 ≤ moment ∧ moment ≤ 2 ^ 63 - 1 + 999999999 / nanosPerSecond

/-- The moment is the whole second of the total. -/
theorem wireMoment_eq (data : Bytes) : wireMoment data = wireTotal data / nanosPerSecond := by
  unfold wireMoment wireTotal nanosPerSecond
  split <;> push_cast <;> ring

/-- A moment is in range if the total is. -/
theorem representable_iff (total : Int) :
    Representable (total / nanosPerSecond) ↔ -instantRange ≤ total ∧ total < instantRange := by
  have second : (0 : ℚ) < (nanosPerSecond : ℚ) := by norm_num [nanosPerSecond]
  have start : (-2 ^ 63 : ℚ) ≤ total / nanosPerSecond ↔ -instantRange ≤ total := by
    rw [le_div_iff₀ second, ← Int.cast_le (R := ℚ)]
    norm_num [instantRange, signedLimit, nanosPerSecond]
  have stop : (total / nanosPerSecond : ℚ) ≤ 2 ^ 63 - 1 + 999999999 / nanosPerSecond ↔
      total < instantRange := by
    rw [div_le_iff₀ second, ← Int.le_sub_one_iff, ← Int.cast_le (R := ℚ)]
    norm_num [instantRange, signedLimit, nanosPerSecond]
  exact and_congr start stop

/-- Twelve bytes stand for the instant with their total. -/
theorem ofWire?_eq_some_iff : ofWire? data = some instant ↔ instant.nanos = wireTotal data := by
  unfold ofWire? wireTotal
  rw [ofDistance?_eq_some_iff]
  unfold nanosPerSecond
  by_cases before : wireSeconds data < 0
  · simp only [before, decide_true, ↓reduceIte]
    omega
  · simp only [before, decide_false, Bool.false_eq_true, ↓reduceIte]
    omega

/-- Twelve bytes stand for an instant if their moment is in range. -/
theorem exists_ofWire?_iff : (∃ instant, ofWire? data = some instant) ↔
    Representable (wireMoment data) := by
  rw [wireMoment_eq, representable_iff]
  constructor
  · rintro ⟨instant, made⟩
    rw [← ofWire?_eq_some_iff.mp made]
    exact ⟨instant.start_le, instant.lt_stop⟩
  · rintro ⟨start, stop⟩
    exact ⟨⟨wireTotal data, start, stop⟩, ofWire?_eq_some_iff.mpr rfl⟩

/-- The moment of an instant is that of the bytes that stand for it. -/
theorem moment_eq_of_ofWire? (made : ofWire? data = some instant) :
    instant.moment = wireMoment data := by
  rw [wireMoment_eq, moment, ofWire?_eq_some_iff.mp made]

/-- A clock at the epoch is set to the instant, back or ahead. -/
theorem ofWire?_eq_some_iff_clock (length : data.length = 12) :
    ofWire? data = some instant ↔
      ∃ distance, Duration.ofParts? (wireSeconds data).natAbs (wireNanos data) = some distance ∧
        (if wireSeconds data < 0 then Clock.epoch.back? distance
          else Clock.epoch.ahead? distance) = some instant.clock := by
  have range := wireSeconds_range data
  have small := wireNanos_lt length
  -- The distance is never too long for a duration.
  have short : (wireSeconds data).natAbs * nanosPerSecond + wireNanos data <
      wordLimit * nanosPerSecond := by
    unfold signedLimit at range
    unfold wordLimit nanosPerSecond
    omega
  have made : Duration.ofParts? (wireSeconds data).natAbs (wireNanos data) = some ⟨_, short⟩ :=
    dif_pos short
  rw [made, ofWire?_eq_some_iff]
  simp only [Option.some.injEq, exists_eq_left']
  have epoch : Clock.epoch.total = 0 := rfl
  unfold wireTotal
  split
  · rw [Clock.back?_eq_some_iff, total_clock, epoch]
    unfold nanosPerSecond
    dsimp only
    omega
  · rw [Clock.ahead?_eq_some_iff, total_clock, epoch]
    unfold nanosPerSecond
    dsimp only
    omega

/-! ## Lifting -/

/-- What twelve bytes are decoded as. -/
theorem decode_wire (length : data.length = 12) : Shape.instant.decode data =
    match ofWire? data with
    | some instant => .ok instant
    | none => .error (.error (.invalidTimestamp (wireText data))) := by
  have run := read_wire length 0 []
  rw [List.append_nil] at run
  change Instant.read.liftExact data = _
  unfold Read.liftExact Reader.ofBytes
  cases made : ofWire? data with
  | some instant =>
      rw [made] at run
      rw [Act.bind_of_ok run]
      rfl
  | none =>
      rw [made] at run
      rw [Act.bind_of_error run]
      rfl

/-- Twelve bytes are decoded to the instant that they stand for. -/
theorem decode_eq_ok_iff (length : data.length = 12) :
    Shape.instant.decode data = .ok instant ↔ ofWire? data = some instant := by
  rw [decode_wire length]
  cases ofWire? data with
  | some other => exact ⟨fun same => congrArg some (Except.ok.inj same), fun same =>
      congrArg Except.ok (Option.some.inj same)⟩
  | none => exact iff_of_false nofun nofun

/-- A schema lifts the instant that the shape decodes, and takes all of the bytes. -/
theorem lift_wire (length : data.length = 12) (more : Bytes) :
    Schema.timestamp.lift (data ++ more) =
      (Shape.instant.decode data).map fun instant => (Value.timestamp instant, 12) := by
  have run := read_wire length 0 more
  rw [decode_wire length]
  unfold Schema.lift Read.lift Reader.ofBytes
  rw [Schema.read]
  cases made : ofWire? data with
  | some instant =>
      rw [made] at run
      rw [Act.bind_of_ok run]
      rfl
  | none =>
      rw [made] at run
      rw [Act.bind_of_error run]
      rfl

/-- The answer to twelve bytes is the instant at the moment that they stand for, and a refusal that
names their fields if there is none. -/
structure Judged (data : Bytes) (answer : Outcome CodecError Instant) : Prop where
  calm : ∀ payload, answer ≠ .error (.panic payload)
  accepted_iff : (∃ instant, answer = .ok instant) ↔ Representable (wireMoment data)
  exact : ∀ instant, answer = .ok instant → instant.moment = wireMoment data
  refused : ¬ Representable (wireMoment data) → answer = .error (.error (.invalidTimestamp
    s!"{wireSeconds data}s {wireNanos data}ns"))
  /-- Checked arithmetic on seconds and nanoseconds comes to the same. -/
  clock : ∀ instant, answer = .ok instant ↔
    ∃ distance, Duration.ofParts? (wireSeconds data).natAbs (wireNanos data) = some distance ∧
      (if wireSeconds data < 0 then Clock.epoch.back? distance
        else Clock.epoch.ahead? distance) = some instant.clock

/-- **Timestamps are accepted within the range of instants.** Any twelve bytes are lifted without a
panic, as the instant at the moment that they stand for, if this is within the range of instants,
and otherwise they are refused with their fields. Nanoseconds of a second and more carry, on the
side of the epoch on which the seconds are. -/
theorem timestamps_are_judged_by_their_moment (length : data.length = 12) :
    Judged data (Shape.instant.decode data) ∧
      ∀ more, Schema.timestamp.lift (data ++ more) =
        (Shape.instant.decode data).map fun instant => (Value.timestamp instant, 12) := by
  have decoded (instant : Instant) :
      Shape.instant.decode data = .ok instant ↔ ofWire? data = some instant :=
    decode_eq_ok_iff length
  have whole := decode_wire length
  refine ⟨⟨?_, ?_, ?_, ?_, ?_⟩, lift_wire length⟩
  · intro payload panicked
    rw [whole] at panicked
    split at panicked <;> cases panicked
  · exact (exists_congr decoded).trans exists_ofWire?_iff
  · intro instant lifted
    exact moment_eq_of_ofWire? ((decoded instant).mp lifted)
  · intro outside
    rw [whole]
    cases made : ofWire? data with
    | some instant => exact absurd (exists_ofWire?_iff.mp ⟨instant, made⟩) outside
    | none => rfl
  · intro instant
    exact (decoded instant).trans (ofWire?_eq_some_iff_clock length)

/-- A second's worth of nanoseconds leads back to the first instant, and one nanosecond more is
refused. -/
theorem timestamps_are_judged_at_the_start :
    let first : Bytes := [128, 0, 0, 0, 0, 0, 0, 1, 59, 154, 202, 0]
    let before : Bytes := [128, 0, 0, 0, 0, 0, 0, 1, 59, 154, 202, 1]
    first.length = 12 ∧ before.length = 12 ∧
      Judged first (Shape.instant.decode first) ∧ Judged before (Shape.instant.decode before) ∧
      (∃ instant : Instant, Shape.instant.decode first = .ok instant ∧ instant.moment = -2 ^ 63) ∧
      Shape.instant.decode before =
        .error (.error (.invalidTimestamp "-9223372036854775807s 1000000001ns")) := by
  intro first before
  have accepted := (@timestamps_are_judged_by_their_moment first rfl).1
  have refused := (@timestamps_are_judged_by_their_moment before rfl).1
  have firstSeconds : wireSeconds first = -9223372036854775807 := by decide
  have firstNanos : wireNanos first = 1000000000 := by decide
  have beforeSeconds : wireSeconds before = -9223372036854775807 := by decide
  have beforeNanos : wireNanos before = 1000000001 := by decide
  have firstMoment : wireMoment first = -2 ^ 63 := by
    norm_num [wireMoment, firstSeconds, firstNanos, nanosPerSecond]
  have outside : ¬ Representable (wireMoment before) := by
    norm_num [Representable, wireMoment, beforeSeconds, beforeNanos, nanosPerSecond]
  refine ⟨rfl, rfl, accepted, refused, ?_, ?_⟩
  · have inside : Representable (wireMoment first) := by
      norm_num [Representable, firstMoment, nanosPerSecond]
    obtain ⟨instant, lifted⟩ := accepted.accepted_iff.mpr inside
    exact ⟨instant, lifted, (accepted.exact instant lifted).trans firstMoment⟩
  · have told := refused.refused outside
    rw [beforeSeconds, beforeNanos] at told
    exact told

/-! ## Lowering what was lifted -/

/-- The first instant of all. -/
def earliest : Instant := ⟨-instantRange, by decide, by decide⟩

/-- The earliest instant is at the very start of the range. -/
theorem eq_earliest_iff : instant = earliest ↔ instant.nanos = -instantRange := by
  constructor
  · rintro rfl
    rfl
  · intro same
    cases instant
    cases same
    rfl

/-- What is lifted does not lie just before the epoch: there the seconds are zero, and count as
after it. -/
theorem not_justBeforeEpoch_of_ofWire? (made : ofWire? data = some instant) :
    ¬ instant.JustBeforeEpoch := by
  have total := ofWire?_eq_some_iff.mp made
  unfold JustBeforeEpoch
  rintro ⟨late, early⟩
  unfold wireTotal at total
  unfold nanosPerSecond at *
  split at total <;> omega

/-- The earliest instant is the only one that is too far from the epoch to be written. -/
theorem signedLimit_le_seconds_iff :
    signedLimit ≤ instant.seconds ↔ instant = earliest := by
  have start := instant.start_le
  have stop := instant.lt_stop
  rw [eq_earliest_iff]
  unfold seconds
  unfold instantRange signedLimit nanosPerSecond at *
  omega

/-- Seconds and nanoseconds that come to the earliest instant: nothing is left of the nanoseconds
once their whole seconds are counted. -/
theorem wireTotal_eq_start_iff (length : data.length = 12) : wireTotal data = -instantRange ↔
    ∃ carried ≤ 4, wireSeconds data = carried - signedLimit ∧
      wireNanos data = carried * nanosPerSecond := by
  have range := wireSeconds_range data
  have small := wireNanos_lt length
  unfold wireTotal instantRange signedLimit nanosPerSecond at *
  constructor
  · intro total
    refine ⟨wireNanos data / 1000000000, by omega, ?_⟩
    split at total <;> omega
  · rintro ⟨carried, few, seconds, nanos⟩
    rw [if_pos (by omega)]
    omega

/-- The earliest instant is not encoded. -/
theorem encode_earliest : Shape.instant.encode earliest =
    .error (.error (.invalidTimestamp earliest.text)) := by
  have refused : earliest.write = Act.fail (.invalidTimestamp earliest.text) := by
    unfold Instant.write
    rw [if_pos (signedLimit_le_seconds_iff.mpr rfl)]
    rfl
  change Lowering.toBytes ⟨12, earliest.write⟩ = _
  rw [refused]
  rfl

/-- An instant that was lifted is written, and read back as it is. -/
theorem encode_of_ofWire? (made : ofWire? data = some instant) (later : instant ≠ earliest) :
    ∃ again : Bytes, Shape.instant.encode instant = .ok again ∧ again.length = 12 ∧
      Shape.instant.decode again = .ok instant := by
  have near : ¬ signedLimit * nanosPerSecond ≤ instant.nanos.natAbs := fun far =>
    later (signedLimit_le_seconds_iff.mp ((Nat.le_div_iff_mul_le (by decide)).mpr far))
  have fills : (Lowering.mk 12 instant.write).write.Fills 12 _ := instant.write_fills
  obtain ⟨again, encoded, _⟩ := (Lowering.toBytes_of_fills fills rfl (by decide)).1 near
  obtain ⟨takes, size⟩ := instant.carries.takes_of_toBytes encoded
  rw [(received_eq_self_iff instant).mpr (not_justBeforeEpoch_of_ofWire? made)] at takes
  exact ⟨again, encoded, size, takes.liftExact⟩

/-- **What is lifted from the wire can be lowered back, save the earliest instant.** Lowering an
instant that was lifted from twelve bytes gives twelve bytes that are lifted as the same instant.
The one exception is the earliest instant, 2^63 seconds before the epoch: it is lifted from the
five pairs of seconds and nanoseconds that come to it, and refused when it is lowered. -/
theorem lifted_timestamps_are_lowered_back (length : data.length = 12)
    (lifted : Shape.instant.decode data = .ok instant) :
    (instant ≠ earliest → ∃ again : Bytes, Shape.instant.encode instant = .ok again ∧
      again.length = 12 ∧ Shape.instant.decode again = .ok instant) ∧
    (instant = earliest →
      Shape.instant.encode instant = .error (.error (.invalidTimestamp instant.text))) ∧
    (instant = earliest ↔ ∃ carried ≤ 4, wireSeconds data = carried - signedLimit ∧
      wireNanos data = carried * nanosPerSecond) := by
  have made := (decode_eq_ok_iff length).mp lifted
  refine ⟨encode_of_ofWire? made, ?_, ?_⟩
  · rintro rfl
    exact encode_earliest
  · rw [eq_earliest_iff, ofWire?_eq_some_iff.mp made]
    exact wireTotal_eq_start_iff length

/-- Nanoseconds of more than a second come back as seconds and the rest. -/
theorem lifted_timestamps_are_lowered_back_carried :
    let data : Bytes := [255, 255, 255, 255, 255, 255, 255, 251, 89, 104, 47, 0]
    let instant : Instant := ⟨-6500000000, by decide, by decide⟩
    data.length = 12 ∧ Shape.instant.decode data = .ok instant ∧
      ∃ again : Bytes, Shape.instant.encode instant = .ok again ∧ again.length = 12 ∧
        Shape.instant.decode again = .ok instant := by
  intro data instant
  have lifted : Shape.instant.decode data = .ok instant := by cbv
  have later : instant ≠ earliest := by decide
  exact ⟨rfl, lifted, (lifted_timestamps_are_lowered_back rfl lifted).1 later⟩

/-- The least number of seconds without nanoseconds is lifted, and what it is lifted as is not
lowered. -/
theorem earliest_is_lifted_and_not_lowered :
    let data : Bytes := [128, 0, 0, 0, 0, 0, 0, 0, 0, 0, 0, 0]
    Shape.instant.decode data = .ok earliest ∧
      (∀ again : Bytes, Shape.instant.encode earliest ≠ .ok again) ∧
      Shape.instant.encode earliest = .error (.error (.invalidTimestamp
        "SystemTime \x7b tv_sec: -9223372036854775808, tv_nsec: 0 \x7d")) := by
  intro data
  have lifted : Shape.instant.decode data = .ok earliest := by cbv
  have worded : earliest.text =
      "SystemTime \x7b tv_sec: -9223372036854775808, tv_nsec: 0 \x7d" := by decide +kernel
  refine ⟨lifted, fun again encoded => ?_, ?_⟩
  · cases encode_earliest.symm.trans encoded
  · rw [encode_earliest, worded]

end Instant

end Boundary
