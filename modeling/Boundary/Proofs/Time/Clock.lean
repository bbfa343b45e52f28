import Boundary.Proofs.Time

/-! # Seconds and nanoseconds

A clock shows whole seconds, held by a signed 64-bit word, and the nanoseconds into the
second. Setting it ahead carries and setting it back borrows, and each of the additions
that this takes is checked by itself. The sum is exact all the same: a clock can be set
ahead or back exactly when the total of nanoseconds is one that a clock can show, and it
shows that total then (`Boundary.Clock.ahead?_eq_some_iff`,
`Boundary.Clock.back?_eq_some_iff`). Clocks and instants are the same points in time
(`Boundary.Instant.total_clock`).
-/

namespace Boundary

/-- Whole seconds from the epoch, negative before it, and nanoseconds into the second. -/
structure Clock where
  seconds : Int
  nanos : Nat
  start_le : -(signedLimit : Int) ≤ seconds
  lt_stop : seconds < signedLimit
  nanos_lt : nanos < nanosPerSecond
  deriving DecidableEq

namespace Clock

/-- The nanoseconds from the epoch. -/
def total (clock : Clock) : Int := clock.seconds * nanosPerSecond + clock.nanos

/-- The clock at the epoch. -/
def epoch : Clock := ⟨0, 0, by decide, by decide, by decide⟩

/-- The clock that shows the seconds and nanoseconds, if a word holds the seconds. -/
def showing? (seconds : Int) (nanos : Nat) (nanos_lt : nanos < nanosPerSecond) : Option Clock :=
  if within : -(signedLimit : Int) ≤ seconds ∧ seconds < signedLimit then
    some ⟨seconds, nanos, within.1, within.2, nanos_lt⟩
  else
    none

theorem carried_lt (clock : Clock) (length : Duration) :
    clock.nanos + length.subsecond - nanosPerSecond < nanosPerSecond := by
  have short := clock.nanos_lt
  have added := length.subsecond_lt
  omega

theorem borrowed_lt {clock : Clock} {length : Duration}
    (borrows : clock.nanos < length.subsecond) :
    clock.nanos + nanosPerSecond - length.subsecond < nanosPerSecond := by
  have removed := length.subsecond_lt
  omega

/-- The clock set ahead. A second's worth of nanoseconds carries. -/
def ahead? (clock : Clock) (length : Duration) : Option Clock :=
  let seconds := clock.seconds + length.seconds
  if seconds < signedLimit then
    if carries : clock.nanos + length.subsecond < nanosPerSecond then
      showing? seconds (clock.nanos + length.subsecond) carries
    else
      showing? (seconds + 1) (clock.nanos + length.subsecond - nanosPerSecond)
        (carried_lt clock length)
  else
    none

/-- The clock set back. Nanoseconds that are missing are borrowed from a second. -/
def back? (clock : Clock) (length : Duration) : Option Clock :=
  let seconds := clock.seconds - length.seconds
  if -(signedLimit : Int) ≤ seconds then
    if borrows : clock.nanos < length.subsecond then
      showing? (seconds - 1) (clock.nanos + nanosPerSecond - length.subsecond)
        (borrowed_lt borrows)
    else
      showing? seconds (clock.nanos - length.subsecond)
        (Nat.lt_of_le_of_lt (Nat.sub_le _ _) clock.nanos_lt)
  else
    none

variable {clock other : Clock} {length : Duration}

/-- A clock shows its total and no other clock does. -/
theorem eq_of_total_eq (same : clock.total = other.total) : clock = other := by
  obtain ⟨seconds, nanos, start, stop, short⟩ := clock
  obtain ⟨otherSeconds, otherNanos, otherStart, otherStop, otherShort⟩ := other
  simp only [total, nanosPerSecond] at same short otherShort
  obtain rfl : seconds = otherSeconds := by omega
  obtain rfl : nanos = otherNanos := by omega
  rfl

/-- A clock shows seconds and nanoseconds if they add up to its total. -/
theorem showing?_eq_some_iff {seconds : Int} {nanos : Nat} (short : nanos < nanosPerSecond) :
    showing? seconds nanos short = some clock ↔
      clock.total = seconds * nanosPerSecond + nanos := by
  unfold showing?
  split
  · next within =>
    constructor
    · intro shown
      cases shown
      rfl
    · intro same
      exact congrArg some (eq_of_total_eq same.symm)
  · next outside =>
    refine iff_of_false nofun fun same => outside ?_
    have start := clock.start_le
    have stop := clock.lt_stop
    have small := clock.nanos_lt
    simp only [total, nanosPerSecond] at same small short
    omega

/-- **Carrying is exact.** -/
theorem ahead?_eq_some_iff :
    clock.ahead? length = some other ↔ other.total = clock.total + length.nanos := by
  have parts : length.seconds * nanosPerSecond + length.subsecond = length.nanos :=
    Nat.div_add_mod' _ _
  have short := length.subsecond_lt
  have small := clock.nanos_lt
  have stop := other.lt_stop
  have otherSmall := other.nanos_lt
  unfold ahead?
  dsimp only
  split
  · split
    · rw [showing?_eq_some_iff]
      simp only [total, nanosPerSecond] at *
      omega
    · rw [showing?_eq_some_iff]
      simp only [total, nanosPerSecond] at *
      omega
  · refine iff_of_false nofun fun same => ?_
    simp only [total, nanosPerSecond] at *
    omega

/-- **Borrowing is exact.** -/
theorem back?_eq_some_iff :
    clock.back? length = some other ↔ other.total = clock.total - length.nanos := by
  have parts : length.seconds * nanosPerSecond + length.subsecond = length.nanos :=
    Nat.div_add_mod' _ _
  have short := length.subsecond_lt
  have small := clock.nanos_lt
  have start := other.start_le
  have otherSmall := other.nanos_lt
  unfold back?
  dsimp only
  split
  · split
    · rw [showing?_eq_some_iff]
      simp only [total, nanosPerSecond] at *
      omega
    · rw [showing?_eq_some_iff]
      simp only [total, nanosPerSecond] at *
      omega
  · refine iff_of_false nofun fun same => ?_
    simp only [total, nanosPerSecond] at *
    omega

end Clock

/-- The clock at an instant. -/
def Instant.clock (instant : Instant) : Clock where
  seconds := instant.nanos / nanosPerSecond
  nanos := (instant.nanos % nanosPerSecond).toNat
  start_le := by
    have start := instant.start_le
    unfold instantRange nanosPerSecond at *
    omega
  lt_stop := by
    have stop := instant.lt_stop
    unfold instantRange nanosPerSecond at *
    omega
  nanos_lt := by
    unfold nanosPerSecond
    omega

@[simp] theorem Instant.total_clock (instant : Instant) : instant.clock.total = instant.nanos := by
  unfold Instant.clock Clock.total nanosPerSecond
  dsimp only
  omega

end Boundary
