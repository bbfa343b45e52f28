import Boundary.Wire.Reader
import Boundary.Wire.Writer

/-!
# Durations and instants

Both are exact counts of nanoseconds.  A duration is shorter than 2^64 seconds; an instant is
counted from the epoch and lies less than 2^63 seconds after it or at most as much before it.

On the wire each is a 64-bit count of seconds and a 32-bit count of nanoseconds.  The nanoseconds
read from the wire may be a second or more: they carry.  The seconds of an instant have the sign of
the instant and its nanoseconds count away from the epoch on the same side, so an instant less than
a second before the epoch is written like the one as long after it.
-/

namespace Boundary

/-- The number of nanoseconds in a second. -/
def nanosPerSecond : Nat := 1000000000

/-- A length of time in nanoseconds. -/
structure Duration where
  nanos : Nat
  nanos_lt : nanos < wordLimit * nanosPerSecond
  deriving DecidableEq

namespace Duration

/-- The whole seconds of a duration. -/
def seconds (duration : Duration) : Nat := duration.nanos / nanosPerSecond

/-- The nanoseconds of a duration past its last whole second. -/
def subsecond (duration : Duration) : Nat := duration.nanos % nanosPerSecond

/-- A number of seconds and nanoseconds, if their sum is short enough for a duration. -/
def ofParts? (seconds nanos : Nat) : Option Duration :=
  if short : seconds * nanosPerSecond + nanos < wordLimit * nanosPerSecond then
    some ⟨_, short⟩
  else
    none

/-- Writes whole seconds and remaining nanoseconds. -/
def write (duration : Duration) : Write := do
  Write.word 8 duration.seconds
  Write.word 4 duration.subsecond

/-- Reads seconds and nanoseconds; a sum too long for a duration panics. -/
def read : Read Duration := do
  let seconds ← Read.word 8
  let nanos ← Read.word 4
  match ofParts? seconds.toNat nanos.toNat with
  | some duration => return duration
  | none => Act.unwind (.text "overflow in Duration::new")

end Duration

/-- The number of nanoseconds on either side of the epoch that instants cover. -/
def instantRange : Int := signedLimit * nanosPerSecond

/-- A point in time, in nanoseconds from the epoch. -/
structure Instant where
  nanos : Int
  start_le : -instantRange ≤ nanos
  lt_stop : nanos < instantRange
  deriving DecidableEq

namespace Instant

/-- A number of nanoseconds from the epoch, if it is within the range of instants. -/
def ofNanos? (nanos : Int) : Option Instant :=
  if start_le : -instantRange ≤ nanos then
    if lt_stop : nanos < instantRange then some ⟨nanos, start_le, lt_stop⟩ else none
  else
    none

/-- The instant so many seconds and nanoseconds from the epoch, before or after it. -/
def ofDistance? (before : Bool) (seconds nanos : Nat) : Option Instant :=
  let distance : Int := seconds * nanosPerSecond + nanos
  ofNanos? (if before then -distance else distance)

/-- Whether the instant lies before the epoch. -/
def isBefore (instant : Instant) : Bool := instant.nanos < 0

/-- The whole seconds between the instant and the epoch. -/
def seconds (instant : Instant) : Nat := instant.nanos.natAbs / nanosPerSecond

/-- The nanoseconds between the instant and the epoch past the whole seconds. -/
def subsecond (instant : Instant) : Nat := instant.nanos.natAbs % nanosPerSecond

/-- The text of an instant in messages: the second it falls in and the nanoseconds into it. -/
def text (instant : Instant) : String :=
  let second := Int.fdiv instant.nanos nanosPerSecond
  let nanos := Int.fmod instant.nanos nanosPerSecond
  s!"SystemTime \x7b tv_sec: {second}, tv_nsec: {nanos} \x7d"

/-- Writes the signed whole seconds and the remaining nanoseconds. -/
def write (instant : Instant) : Write := do
  if signedLimit ≤ instant.seconds then
    Act.fail (.invalidTimestamp instant.text)
  let signed : Int := if instant.isBefore then -instant.seconds else instant.seconds
  Write.word 8 (BitVec.ofInt 64 signed).toNat
  Write.word 4 instant.subsecond

/-- Reads signed seconds and nanoseconds, which count away from the epoch on the side of the
seconds. -/
def read : Read Instant := do
  let seconds := (← Read.word 8).toInt
  let nanos := (← Read.word 4).toNat
  match ofDistance? (seconds < 0) seconds.natAbs nanos with
  | some instant => return instant
  | none => Act.fail (.invalidTimestamp s!"{seconds}s {nanos}ns")

end Instant

end Boundary
