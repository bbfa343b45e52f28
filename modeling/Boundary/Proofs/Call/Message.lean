import Boundary.Proofs.Call.Lifting
import Boundary.Proofs.Call.Report

/-! # The text of a panic

A panic is explained by its message, as far as a length prefix can count it together with
its own four bytes. What is left of a longer message is the longest part at its front that
ends with a whole character (`Boundary.LongestFront`, `Boundary.reportable_longest`). The
buffer that holds it is one that either side can read, lift and give back, after which
nothing but what was there before is on record
(`Boundary.Status.panic_message_is_told`).
-/

namespace Boundary

/-- The text is what of a message fits into a number of bytes: a part at its front, made of whole
characters, and no such part that fits is longer. -/
structure LongestFront (limit : Nat) (message text : String) : Prop where
  front : text.toList <+: message.toList
  fits : Utf8.size text ≤ limit
  longest : ∀ other : String, other.toList <+: message.toList → Utf8.size other ≤ limit →
    other.toList <+: text.toList

/-- A text that is cut is a front of the text. -/
theorem takeWithin_prefix (limit : Nat) (characters : List Char) :
    takeWithin limit characters <+: characters := by
  induction characters generalizing limit with
  | nil => exact List.prefix_rfl
  | cons character rest ih =>
      unfold takeWithin
      split
      · exact List.cons_prefix_cons.mpr ⟨rfl, ih _⟩
      · exact List.nil_prefix

/-- Characters at the front that fit are not left out. -/
theorem prefix_takeWithin {limit : Nat} {front characters : List Char}
    (within : front <+: characters) (fits : Utf8.size (String.ofList front) ≤ limit) :
    front <+: takeWithin limit characters := by
  induction characters generalizing limit front with
  | nil => exact within
  | cons character rest ih =>
      cases front with
      | nil => exact List.nil_prefix
      | cons first others =>
          obtain ⟨rfl, inner⟩ := List.cons_prefix_cons.mp within
          rw [Utf8.size_ofList_cons] at fits
          unfold takeWithin
          rw [if_pos (by omega)]
          exact List.cons_prefix_cons.mpr ⟨rfl, ih inner (by omega)⟩

-- An accent of two bytes is left out whole where one byte is left for it.
example : takeWithin 2 ['h', 'é', '!'] = ['h'] := by decide

/-- What is reported of a message is its longest front that leaves room for a length. -/
theorem reportable_longest (message : String) :
    LongestFront (maxLength - 4) message (reportable message) where
  front := by
    unfold reportable
    rw [String.toList_ofList]
    exact takeWithin_prefix _ _
  fits := size_takeWithin_le _ _
  longest other within fits := by
    unfold reportable
    rw [String.toList_ofList]
    refine prefix_takeWithin within ?_
    rwa [String.ofList_toList]

/-- A message that fits is not cut. -/
theorem LongestFront.eq_of_fits {limit : Nat} {message text : String}
    (longest : LongestFront limit message text) (fits : Utf8.size message ≤ limit) :
    text = message := by
  have whole := longest.longest message List.prefix_rfl fits
  exact String.toList_inj.mp (longest.front.eq_of_length_le whole.length_le)

/-! ## The buffer of the text -/

namespace Buffer

/-- The buffer holds a text, in memory of just that size. Either side can lift the text, and the
host can give the buffer back unread. Each leaves on record what was there before. -/
structure Explains (before after : Ledger) (text : String) (buffer : Buffer) : Prop where
  length : buffer.length = 4 + Utf8.size text
  capacity : buffer.capacity = buffer.length
  short : buffer.capacity ≤ maxLength
  lift : ∀ side : Side, ∃ left, (side.lift (.typed Utf8.read) buffer).observe after =
    (.ok text, left) ∧ left.blocks = before.blocks
  release : ∃ left, (Caller.inProcess.release buffer).observe after = (.ok (), left) ∧
    left.blocks = before.blocks

variable {ledger : Ledger}

/-- A record that is made and taken away again leaves the others as they were. -/
theorem blocks_releasedFrom_record (orderly : ledger.Orderly) (capacity length : Nat)
    (contents : Region) :
    ((record capacity length contents ledger).1.releasedFrom
      (record capacity length contents ledger).2).blocks = ledger.blocks := by
  by_cases none : capacity = 0
  · rw [record, if_pos none]
    rfl
  · have kept : ledger.blocks.filter (fun entry => entry.1 != ledger.nextAddress) =
        ledger.blocks := by
      refine List.filter_eq_self.mpr fun entry member => bne_iff_ne.mpr ?_
      exact Nat.ne_of_lt (orderly.issued entry member)
    rw [record_of_ne_zero none]
    exact (List.filter_cons_of_neg (by simp)).trans kept

/-- The buffer of a message explains what can be reported of it. -/
theorem explains_messageBuffer (orderly : ledger.Orderly) (message : String) :
    (messageBuffer message ledger).1.Explains ledger (messageBuffer message ledger).2
      (reportable message) := by
  obtain ⟨data, filled, length, lifted⟩ := messageBuffer_eq message
  have short : data.length ≤ maxLength := length ▸ size_reportable_le message
  rw [filled]
  have holds := holds_ofBytes short ledger
  have restored := blocks_releasedFrom_record orderly data.length data.length (.ofBytes data)
  have made : ofBytes data ledger = _ := record_of_ne_zero (by omega : data.length + 0 ≠ 0)
  refine ⟨?_, ?_, ?_, fun side => ⟨_, Act.observe_of_ok ?_, restored⟩,
    ⟨_, Act.observe_of_ok (Caller.release_inProcess holds), restored⟩⟩
  · rw [made]
    exact length
  · rw [made]
    rfl
  · rw [made]
    exact short
  · rw [side.lift_eq (.typed Utf8.read) holds, Wanted.decode, lifted]
    rfl

end Buffer

/-- **A panic is explained by as much of its message as can be counted.** Whatever the message is,
the status says that a panic came about, and its buffer explains the longest part at the front of
the message that leaves room for its length, which is all of a message that does. -/
theorem Status.panic_message_is_told (message : String) {ledger : Ledger}
    (orderly : ledger.Orderly) :
    let left := Status.panic message ledger
    left.1.meaning? = some .panic ∧
      ∃ text, LongestFront (maxLength - 4) message text ∧
        (Utf8.size message ≤ maxLength - 4 → text = message) ∧
        left.1.errorBuffer.Explains ledger left.2 text := by
  intro left
  have longest := reportable_longest message
  refine ⟨meaning?_panic message ledger, reportable message, longest, longest.eq_of_fits, ?_⟩
  have explains := Buffer.explains_messageBuffer orderly message
  rwa [show left = _ from panic_eq message ledger]

/-- A message with an accent is told beside an allocation that stays. -/
theorem Status.panic_message_is_told_accented :
    let ledger : Ledger := ⟨[(1, ⟨8, .zeroed 8⟩)], [], 2⟩
    let left := Status.panic "hé" ledger
    ledger.Orderly ∧ Utf8.size "hé" ≤ maxLength - 4 ∧ left.1.errorBuffer = ⟨7, 7, some 2⟩ ∧
      left.1.errorBuffer.Explains ledger left.2 "hé" := by
  intro ledger left
  have orderly : ledger.Orderly := ⟨by decide, by decide⟩
  have fits : Utf8.size "hé" ≤ maxLength - 4 := by decide +kernel
  obtain ⟨_, text, _, whole, explains⟩ := Status.panic_message_is_told "hé" orderly
  rw [whole fits] at explains
  exact ⟨orderly, fits, by decide +kernel, explains⟩

end Boundary
