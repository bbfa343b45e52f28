import Boundary.Proofs.Wire.ReadBack
import Boundary.Shape.Decoding
import Boundary.Shape.Encoding
import Mathlib

/-! # Durations and instants across the wire

A duration is read back as it was written. An instant is read back as it was written
unless it lies before the epoch by less than a second: its whole seconds are then zero
and carry no sign, and what is read back lies as long after the epoch as the instant
lies before it (`Boundary.Instant.received`,
`Boundary.Instant.decode_encode_eq_self_iff`).
-/

namespace Boundary

/-- Less than a second of nanoseconds fits a word. -/
theorem toNat_word_of_lt_second {nanos : Nat} (short : nanos < nanosPerSecond) :
    (BitVec.ofNat (8 * 4) nanos).toNat = nanos := by
  rw [BitVec.toNat_ofNat]
  exact Nat.mod_eq_of_lt (Nat.lt_trans short (by decide))

namespace Duration

/-- A duration is made of its seconds and the rest. -/
theorem ofParts?_seconds_subsecond (duration : Duration) :
    ofParts? duration.seconds duration.subsecond = some duration := by
  have whole : duration.seconds * nanosPerSecond + duration.subsecond = duration.nanos :=
    Nat.div_add_mod' duration.nanos nanosPerSecond
  unfold ofParts?
  rw [dif_pos (by rw [whole]; exact duration.nanos_lt), Option.some.injEq]
  cases duration
  simp only [whole]

theorem seconds_lt (duration : Duration) : duration.seconds < wordLimit :=
  Nat.div_lt_of_lt_mul (Nat.mul_comm _ _ ▸ duration.nanos_lt)

theorem subsecond_lt (duration : Duration) : duration.subsecond < nanosPerSecond :=
  Nat.mod_lt _ (by decide)

/-- What is written for a duration is read back as it. -/
protected theorem carries (duration : Duration) :
    duration.write.Carries Duration.read duration := by
  refine (Write.Carries.word 8 duration.seconds).seq ?_
  refine (Write.Carries.word 4 duration.subsecond).returning ?_
  have seconds : (BitVec.ofNat (8 * 8) duration.seconds).toNat = duration.seconds := by
    rw [BitVec.toNat_ofNat]
    exact Nat.mod_eq_of_lt duration.seconds_lt
  rw [seconds, toNat_word_of_lt_second duration.subsecond_lt, ofParts?_seconds_subsecond]

end Duration

namespace Instant

/-- The instant lies before the epoch, by less than a second. -/
def JustBeforeEpoch (instant : Instant) : Prop :=
  -(nanosPerSecond : Int) < instant.nanos ∧ instant.nanos < 0

instance (instant : Instant) : Decidable instant.JustBeforeEpoch :=
  inferInstanceAs (Decidable (_ ∧ _))

/-- What is read back when an instant is written: an instant just before the epoch
comes out on the other side of it. -/
def received (instant : Instant) : Instant :=
  if just : instant.JustBeforeEpoch then
    ⟨-instant.nanos, by
      unfold JustBeforeEpoch instantRange nanosPerSecond signedLimit at *
      omega, by
      unfold JustBeforeEpoch instantRange nanosPerSecond signedLimit at *
      omega⟩
  else
    instant

/-- Just before the epoch the sign is lost, and nowhere else. -/
theorem received_nanos (instant : Instant) : instant.received.nanos =
    if instant.JustBeforeEpoch then -instant.nanos else instant.nanos := by
  unfold received
  split <;> rfl

/-- An instant is received as it is, unless it lies just before the epoch. -/
theorem received_eq_self_iff (instant : Instant) :
    instant.received = instant ↔ ¬ instant.JustBeforeEpoch := by
  constructor
  · intro same just
    have mirrored := instant.received_nanos
    rw [same, if_pos just] at mirrored
    unfold JustBeforeEpoch at just
    omega
  · intro apart
    exact dif_neg apart

/-- An instant is made of its nanoseconds. -/
theorem ofNanos?_eq_some_iff {nanos : Int} {instant : Instant} :
    ofNanos? nanos = some instant ↔ instant.nanos = nanos := by
  unfold ofNanos?
  constructor
  · intro found
    split at found
    · split at found
      · cases found
        rfl
      · cases found
    · cases found
  · rintro rfl
    rw [dif_pos instant.start_le, dif_pos instant.lt_stop]

theorem ofDistance?_eq_some_iff {before : Bool} {seconds nanos : Nat} {instant : Instant} :
    ofDistance? before seconds nanos = some instant ↔
      instant.nanos = if before then -(seconds * nanosPerSecond + nanos : Int)
        else (seconds * nanosPerSecond + nanos : Int) :=
  ofNanos?_eq_some_iff

/-- The whole seconds of an instant, with the side of the epoch as their sign. -/
def signedSeconds (instant : Instant) : Int :=
  if instant.isBefore then -instant.seconds else instant.seconds

/-- The distance of an instant to the epoch, in seconds and the rest. -/
theorem natAbs_nanos_eq (instant : Instant) :
    instant.nanos.natAbs = instant.seconds * nanosPerSecond + instant.subsecond :=
  (Nat.div_add_mod' _ _).symm

theorem subsecond_lt (instant : Instant) : instant.subsecond < nanosPerSecond :=
  Nat.mod_lt _ (by decide)

/-- Whole seconds of zero have no sign, so that the side of the epoch is lost. -/
theorem ofDistance?_signedSeconds (instant : Instant) :
    ofDistance? (instant.signedSeconds < 0) instant.signedSeconds.natAbs instant.subsecond =
      some instant.received := by
  have parts := instant.natAbs_nanos_eq
  have short := instant.subsecond_lt
  rw [ofDistance?_eq_some_iff, received_nanos]
  unfold signedSeconds isBefore JustBeforeEpoch
  unfold nanosPerSecond at *
  by_cases before : instant.nanos < 0
  · by_cases whole : instant.seconds = 0
    -- A zero has no sign, so the read takes the later side of the epoch.
    · have just : -((1000000000 : Nat) : Int) < instant.nanos := by omega
      simp only [before, just, whole, decide_true, and_self, ↓reduceIte, Int.natCast_zero,
        Int.neg_zero, Int.lt_irrefl, decide_false, Bool.false_eq_true, Int.natAbs_zero]
      omega
    · have apart : ¬ -((1000000000 : Nat) : Int) < instant.nanos := by omega
      have negative : -(instant.seconds : Int) < 0 := by omega
      simp only [before, apart, negative, decide_true, false_and, ↓reduceIte, Int.natAbs_neg,
        Int.natAbs_natCast]
      omega
  · have unsigned : ¬ (instant.seconds : Int) < 0 := by omega
    simp only [before, unsigned, decide_false, and_false, Bool.false_eq_true, ↓reduceIte,
      Int.natAbs_natCast]
    omega

/-- Signed seconds within the range of a word are read back from it. -/
theorem toInt_word_signedSeconds {instant : Instant} (fits : instant.seconds < signedLimit) :
    (BitVec.ofInt 64 instant.signedSeconds).toInt = instant.signedSeconds := by
  rw [BitVec.toInt_ofInt]
  unfold signedLimit at fits
  unfold signedSeconds
  apply Int.bmod_eq_of_le <;> split <;> omega

/-- What is written for an instant is read back as what is received of it. -/
protected theorem carries (instant : Instant) :
    instant.write.Carries Instant.read instant.received := by
  by_cases fits : instant.seconds < signedLimit
  · have plain : instant.write = (do
        Write.word 8 (BitVec.ofInt 64 instant.signedSeconds).toNat
        Write.word 4 instant.subsecond : Write) := by
      unfold Instant.write
      rw [if_neg (by omega)]
      rfl
    rw [plain]
    refine (Write.Carries.bits 8 (BitVec.ofInt 64 instant.signedSeconds)).seq ?_
    refine (Write.Carries.word 4 instant.subsecond).returning ?_
    simp only [toInt_word_signedSeconds fits, toNat_word_of_lt_second instant.subsecond_lt,
      ofDistance?_signedSeconds]
  · have refused : instant.write = Act.fail (.invalidTimestamp instant.text) := by
      unfold Instant.write
      rw [if_pos (by omega)]
      rfl
    rw [refused]
    exact Write.Carries.fail _ _ _

/-- **Round trip of instants.** The encoding of an instant has twelve bytes and decodes,
and it decodes to the instant exactly when the instant does not lie just before the
epoch. One that does comes back as far after the epoch as it lies before it. -/
theorem decode_encode_eq_self_iff {instant : Instant} {bytes : Bytes}
    (encoded : Shape.instant.encode instant = .ok bytes) :
    bytes.length = 12 ∧
      (Shape.instant.decode bytes = .ok instant ↔ ¬ instant.JustBeforeEpoch) ∧
      (instant.JustBeforeEpoch →
        ∃ mirrored : Instant, Shape.instant.decode bytes = .ok mirrored ∧
          mirrored.nanos = -instant.nanos) := by
  obtain ⟨takes, length⟩ := instant.carries.takes_of_toBytes encoded
  have decoded : Shape.instant.decode bytes = .ok instant.received := takes.liftExact
  refine ⟨length, ?_, ?_⟩
  · rw [← received_eq_self_iff]
    constructor
    · intro same
      exact Except.ok.inj (decoded.symm.trans same)
    · intro same
      exact decoded.trans (congrArg Except.ok same)
  · intro just
    exact ⟨instant.received, decoded, by rw [received_nanos, if_pos just]⟩

/-- One and a half seconds before the epoch, the seconds carry the sign. -/
theorem decode_encode_second_and_half_before :
    let instant : Instant := ⟨-1500000000, by decide, by decide⟩
    let bytes : Bytes := [255, 255, 255, 255, 255, 255, 255, 255, 29, 205, 101, 0]
    Shape.instant.encode instant = .ok bytes ∧ ¬ instant.JustBeforeEpoch ∧
      Shape.instant.decode bytes = .ok instant := by
  intro instant bytes
  have encoded : Shape.instant.encode instant = .ok bytes := by cbv
  have apart : ¬ instant.JustBeforeEpoch := by decide
  exact ⟨encoded, apart, (decode_encode_eq_self_iff encoded).2.1.mpr apart⟩

/-- The instant one nanosecond before the epoch comes back one nanosecond after it. -/
theorem decode_encode_nanosecond_before :
    let instant : Instant := ⟨-1, by decide, by decide⟩
    let bytes : Bytes := [0, 0, 0, 0, 0, 0, 0, 0, 0, 0, 0, 1]
    Shape.instant.encode instant = .ok bytes ∧
      Shape.instant.decode bytes = .ok (⟨1, by decide, by decide⟩ : Instant) ∧
      Shape.instant.decode bytes ≠ .ok instant := by
  intro instant bytes
  have decoded : Shape.instant.decode bytes = .ok (⟨1, by decide, by decide⟩ : Instant) := by
    cbv
  refine ⟨by cbv, decoded, ?_⟩
  intro same
  have mirrored := congrArg Instant.nanos (Except.ok.inj (decoded.symm.trans same))
  revert mirrored
  decide

end Instant

end Boundary
