import Boundary.Proofs.Buffer.Holding
import Boundary.Proofs.Wire.ReadBack

/-! # What the ledger gains

Claims are added to a ledger when afterwards it has them on record along with what it had
before, and nothing else (`Boundary.Ledger.Adds`). Claims that are new are gained
(`Boundary.Ledger.Gains`). Handing memory out gains the claim of one buffer, and giving new
memory back gains nothing. Of the ways in which a value is lowered, two are tidy: one that
encodes gains the claim of the buffer that holds its data, and one that is refused gains
nothing. A value that panics while it writes leaves the memory on record that was handed out
for it (`Boundary.Buffer.lower_cases`).
-/

namespace Boundary

namespace Ledger

variable {before between after ledger : Ledger} {claims others : List (Address × Nat)}
  {address : Address} {capacity : Nat}

/-- Storing changes the contents of one block. -/
theorem find?_store (ledger : Ledger) (stored : Address) (contents : Region) (address : Address) :
    (ledger.store stored contents).find? address =
      (ledger.find? address).map fun block =>
        if address = stored then { block with contents } else block := by
  unfold store find?
  induction ledger.blocks with
  | nil => rfl
  | cons entry rest ih =>
      obtain ⟨listed, block⟩ := entry
      rw [List.map_cons, List.lookup_cons, List.lookup_cons]
      by_cases written : listed = stored
      · subst listed
        by_cases here : address = stored
        · simp only [here, ↓reduceIte, beq_self_eq_true, Option.map_some]
        · simp only [↓reduceIte, beq_eq_false_iff_ne.mpr here]
          exact ih
      · by_cases here : address = listed
        · simp only [written, here, ↓reduceIte, beq_self_eq_true, Option.map_some]
        · simp only [written, ↓reduceIte, beq_eq_false_iff_ne.mpr here]
          exact ih

theorem Orderly.store (orderly : ledger.Orderly) (stored : Address) (contents : Region) :
    (ledger.store stored contents).Orderly := by
  have addresses : (ledger.store stored contents).blocks.map Prod.fst =
      ledger.blocks.map Prod.fst := by
    unfold Ledger.store
    rw [List.map_map]
    refine List.map_congr_left fun entry _ => ?_
    by_cases written : entry.1 = stored
    · simp only [Function.comp, written, ↓reduceIte]
    · simp only [Function.comp, written, ↓reduceIte]
  constructor
  · rw [addresses]
    exact orderly.distinct
  · intro entry member
    have listed : entry.1 ∈ (ledger.store stored contents).blocks.map Prod.fst :=
      List.mem_map_of_mem member
    rw [addresses] at listed
    obtain ⟨original, known, same⟩ := List.mem_map.mp listed
    rw [← same]
    exact orderly.issued original known

/-- An address that was not handed out yet has nothing on record. -/
theorem Orderly.not_isLive (orderly : ledger.Orderly) (unused : ledger.nextAddress ≤ address)
    (capacity : Nat) : ¬ ledger.isLive address capacity := by
  rw [isLive_iff]
  rintro ⟨_, found⟩
  exact Nat.lt_irrefl _ (Nat.lt_of_lt_of_le (orderly.lt_nextAddress found) unused)

/-- A block that is registered is live at the next address. -/
theorem isLive_register (ledger : Ledger) (block : Block) (address : Address) (capacity : Nat) :
    (ledger.register block).2.isLive address capacity ↔
      if address = ledger.nextAddress then block.capacity = capacity
      else ledger.isLive address capacity := by
  unfold isLive
  rw [find?_register]
  split
  · rw [Option.any_some, beq_iff_eq]
  · rfl

/-- A block that is erased is not live any more. -/
theorem isLive_erase (ledger : Ledger) (erased address : Address) (capacity : Nat) :
    (ledger.erase erased).isLive address capacity ↔
      address ≠ erased ∧ ledger.isLive address capacity := by
  unfold isLive
  rw [find?_erase]
  split
  · next same => exact iff_of_false Bool.false_ne_true fun both => both.1 same
  · next differs => exact (and_iff_right differs).symm

/-- Storing makes nothing live. -/
theorem isLive_store (ledger : Ledger) (stored : Address) (contents : Region)
    (address : Address) (capacity : Nat) :
    (ledger.store stored contents).isLive address capacity = ledger.isLive address capacity := by
  unfold isLive
  rw [find?_store]
  cases ledger.find? address with
  | none => rfl
  | some block =>
      rw [Option.map_some, Option.any_some, Option.any_some]
      split <;> rfl

/-- Afterwards the claims are on record, and what was on record before. Nothing else is. -/
structure Adds (before after : Ledger) (claims : List (Address × Nat)) : Prop where
  orderly : after.Orderly
  isLive_iff : ∀ address capacity, after.isLive address capacity ↔
    before.isLive address capacity ∨ (address, capacity) ∈ claims

/-- The claims that are added are new. -/
structure Gains (before after : Ledger) (claims : List (Address × Nat)) : Prop
    extends Adds before after claims where
  fresh : ∀ claim ∈ claims, before.nextAddress ≤ claim.1
  advance : before.nextAddress ≤ after.nextAddress

namespace Gains

protected theorem refl (orderly : ledger.Orderly) : ledger.Gains ledger [] where
  orderly := orderly
  isLive_iff _ _ := by rw [or_iff_left List.not_mem_nil]
  fresh := List.forall_mem_nil _
  advance := Nat.le_refl _

/-- What is gained in two steps is gained. -/
protected theorem trans (first : before.Gains between claims)
    (second : between.Gains after others) : before.Gains after (claims ++ others) where
  orderly := second.orderly
  isLive_iff address capacity := by
    rw [second.isLive_iff, first.isLive_iff, List.mem_append, or_assoc]
  fresh := by
    intro claim member
    rcases List.mem_append.mp member with early | late
    · exact first.fresh claim early
    · exact Nat.le_trans first.advance (second.fresh claim late)
  advance := Nat.le_trans first.advance second.advance

/-- Registering a block gains its memory. -/
theorem register (orderly : ledger.Orderly) (block : Block) :
    ledger.Gains (ledger.register block).2 [(ledger.nextAddress, block.capacity)] where
  orderly := orderly.register block
  isLive_iff address capacity := by
    rw [isLive_register, List.mem_singleton, Prod.mk.injEq]
    by_cases here : address = ledger.nextAddress
    · have none := orderly.not_isLive (Nat.le_of_eq here.symm) capacity
      rw [if_pos here, or_iff_right none, and_iff_right here]
      exact eq_comm
    · rw [if_neg here, or_iff_left fun claimed => here claimed.1]
  fresh := by
    intro claim member
    rw [List.mem_singleton.mp member]
  advance := Nat.le_succ _

/-- What memory holds does not matter. -/
theorem store (gains : before.Gains after claims) (stored : Address) (contents : Region) :
    before.Gains (after.store stored contents) claims where
  orderly := gains.orderly.store stored contents
  isLive_iff address capacity := by rw [isLive_store, gains.isLive_iff]
  fresh := gains.fresh
  advance := gains.advance

/-- What was gained is given back. -/
theorem erase (gains : before.Gains after [(address, capacity)]) (orderly : before.Orderly) :
    before.Gains (after.erase address) [] where
  orderly := gains.orderly.erase address
  isLive_iff other size := by
    rw [isLive_erase, gains.isLive_iff, or_iff_left List.not_mem_nil, List.mem_singleton,
      Prod.mk.injEq]
    have unused := gains.fresh _ List.mem_cons_self
    by_cases here : other = address
    · have none := orderly.not_isLive (here ▸ unused) size
      exact iff_of_false (fun both => both.1 here) none
    · rw [and_iff_right here, or_iff_left fun claimed => here claimed.1]
  fresh := List.forall_mem_nil _
  advance := gains.advance

end Gains

end Ledger

/-- The value panics while it writes itself into memory that it was given. -/
structure Lowering.Abandons (lowering : Lowering) : Prop where
  positive : 0 < lowering.size
  short : lowering.size ≤ maxLength
  panics : ∃ payload, lowering.fill = .error (.panic payload)

namespace Buffer

/-- The allocation that the buffer claims, if any: where it is, and how large. -/
def claims (buffer : Buffer) : List (Address × Nat) :=
  buffer.address.toList.map fun address => (address, buffer.capacity)

variable {ledger : Ledger} {lowering : Lowering} {data : Bytes} {capacity length : Nat}

/-- A buffer that is recorded over memory holds what the memory reads as. -/
theorem holds_record (fits : length ≤ capacity) (short : length ≤ maxLength) (contents : Region)
    (ledger : Ledger) : (record capacity length contents ledger).1.Holds
      (record capacity length contents ledger).2 (contents.read length) := by
  by_cases none : capacity = 0
  · obtain rfl : length = 0 := by omega
    have nothing : contents.read 0 = [] := List.eq_nil_of_length_eq_zero (Region.length_read _ _)
    rw [record, if_pos none, nothing]
    exact .nothing
  · have found := Ledger.find?_register ledger ⟨capacity, contents⟩ ledger.nextAddress
    rw [if_pos rfl] at found
    rw [record_of_ne_zero none]
    exact .recorded found (Nat.pos_of_ne_zero none) fits short rfl

theorem holds_ofBytes (short : data.length ≤ maxLength) (ledger : Ledger) :
    (ofBytes data ledger).1.Holds (ofBytes data ledger).2 data := by
  have holds := holds_record (Nat.le_refl data.length) short (Region.ofBytes data) ledger
  rwa [Region.read_ofBytes] at holds

/-- Recording a buffer gains its memory. -/
theorem gains_record (orderly : ledger.Orderly) (capacity length : Nat) (contents : Region) :
    ledger.Gains (record capacity length contents ledger).2
      (record capacity length contents ledger).1.claims := by
  by_cases none : capacity = 0
  · rw [record, if_pos none]
    exact .refl orderly
  · rw [record_of_ne_zero none]
    exact .register orderly ⟨capacity, contents⟩

/-- A new buffer that is released leaves nothing behind. -/
theorem gains_releasedFrom {buffer : Buffer} {after : Ledger}
    (gains : ledger.Gains after buffer.claims) (orderly : ledger.Orderly) :
    ledger.Gains (buffer.releasedFrom after) [] := by
  unfold claims at gains
  unfold releasedFrom
  cases located : buffer.address with
  | none =>
      rw [located] at gains
      exact gains
  | some address =>
      rw [located] at gains
      exact gains.erase orderly

/-- The memory that is handed out to a value of an announced size. -/
def room (size : Nat) (ledger : Ledger) : Buffer × Ledger :=
  record size size (Region.zeroed size) ledger

/-- Room that the format allows is given. -/
theorem allocating_of_le {size : Nat} (short : size ≤ maxLength) :
    ((Act.ofReporting (allocate size)).mapError Error.buffer : LedgerAct Buffer) ledger =
      .ok (room size ledger).1 (room size ledger).2 := by
  unfold Act.mapError Act.ofReporting
  rw [allocate_of_le short]
  rfl

theorem freeing_of_holds {buffer : Buffer} (holds : buffer.Holds ledger data) :
    ((Act.ofReporting buffer.free).mapError Error.buffer : LedgerAct Unit) ledger =
      .ok () (buffer.releasedFrom ledger) := by
  unfold Act.mapError Act.ofReporting
  rw [holds.free]

theorem announcing_of_lt (word : lowering.size < wordLimit) (ledger : Ledger) :
    ((Act.ofOutcome lowering.announce).mapError Error.codec : LedgerAct Nat) ledger =
      .ok lowering.size ledger := by
  rw [Lowering.announce_of_lt word]
  rfl

/-- A value that is too large for a buffer fails before any memory is handed out. -/
theorem lower_of_lt (large : maxLength < lowering.size) :
    ∃ fault, ∀ ledger, Buffer.lower lowering ledger = .error fault ledger := by
  by_cases word : lowering.size < wordLimit
  · refine ⟨.error (.buffer (.tooLarge lowering.size)), fun ledger => ?_⟩
    refine (Act.bind_of_ok (announcing_of_lt word ledger)).trans (Act.bind_of_error ?_)
    unfold Act.mapError Act.ofReporting
    rw [allocate_of_lt large]
    rfl
  · refine ⟨.panic .additionOverflow, fun ledger => Act.bind_of_error ?_⟩
    rw [Lowering.announce_of_le (Nat.le_of_not_lt word)]
    rfl

/-- A value that is not too large is given memory to fill. -/
theorem lower_of_le (short : lowering.size ≤ maxLength) (ledger : Ledger) :
    Buffer.lower lowering ledger =
      (room lowering.size ledger).1.finishFilling lowering.fill
        (room lowering.size ledger).2 := by
  have word : lowering.size < wordLimit := Nat.lt_of_le_of_lt short (by decide)
  refine (Act.bind_of_ok (announcing_of_lt word ledger)).trans ?_
  exact Act.bind_of_ok (allocating_of_le short)

/-- A value that fills its memory is handed over in it. -/
theorem lower_of_fill (short : lowering.size ≤ maxLength) (filled : lowering.fill = .ok data)
    (ledger : Ledger) : ∃ after,
    Buffer.lower lowering ledger = .ok (room lowering.size ledger).1 after ∧
      (room lowering.size ledger).1.Holds after
        ((Region.ofBytes data).read lowering.size) ∧
      (ledger.Orderly → ledger.Gains after (room lowering.size ledger).1.claims) := by
  rw [lower_of_le short, filled]
  by_cases none : lowering.size = 0
  · rw [none]
    exact ⟨ledger, rfl, .nothing, fun orderly => .refl orderly⟩
  · have handed : room lowering.size ledger = _ := record_of_ne_zero none
    rw [handed]
    refine ⟨_, rfl, .recorded ?_ (Nat.pos_of_ne_zero none) (Nat.le_refl _) short rfl,
      fun orderly => (Ledger.Gains.register orderly _).store _ _⟩
    rw [Ledger.find?_store, Ledger.find?_register, if_pos rfl, Option.map_some, if_pos rfl]

/-- A value that is refused gives its memory back. -/
theorem lower_of_fill_error {cause : CodecError} (short : lowering.size ≤ maxLength)
    (failed : lowering.fill = .error (.error cause)) (ledger : Ledger) : ∃ after,
    Buffer.lower lowering ledger = .error (.error (.codec cause)) after ∧
      (ledger.Orderly → ledger.Gains after []) := by
  have holds := holds_record (Nat.le_refl _) short (Region.zeroed lowering.size) ledger
  refine ⟨(room lowering.size ledger).1.releasedFrom (room lowering.size ledger).2,
    ?_, fun orderly => gains_releasedFrom (gains_record orderly _ _ _) orderly⟩
  rw [lower_of_le short, failed]
  exact Act.bind_of_ok (freeing_of_holds holds)

/-- A value that panics while it writes leaves its memory handed out. -/
theorem lower_of_fill_panic {payload : PanicPayload} (short : lowering.size ≤ maxLength)
    (panicked : lowering.fill = .error (.panic payload)) (ledger : Ledger) :
    Buffer.lower lowering ledger =
      .error (.panic payload) (room lowering.size ledger).2 := by
  rw [lower_of_le short, panicked]
  rfl

/-- A buffer that is lowered to holds data. -/
theorem Holds.of_lower {buffer : Buffer} {after : Ledger}
    (lowered : Buffer.lower lowering ledger = .ok buffer after) :
    ∃ data, buffer.Holds after data := by
  by_cases large : maxLength < lowering.size
  · obtain ⟨_, failed⟩ := lower_of_lt large
    cases lowered.symm.trans (failed ledger)
  have short := Nat.le_of_not_lt large
  match filled : lowering.fill with
  | .ok data =>
      obtain ⟨_, done, holds, _⟩ := lower_of_fill short filled ledger
      cases lowered.symm.trans done
      exact ⟨_, holds⟩
  | .error (.error cause) =>
      obtain ⟨_, failed, _⟩ := lower_of_fill_error short filled ledger
      cases lowered.symm.trans failed
  | .error (.panic payload) => cases lowered.symm.trans (lower_of_fill_panic short filled ledger)

/-- How a value can end up that is lowered, and what the ledger gains by it. -/
inductive Lowered (lowering : Lowering) (ledger : Ledger) :
    EStateM.Result (Fault Error) Ledger Buffer → Prop
  | handed {buffer : Buffer} {after : Ledger} : ¬ lowering.Abandons →
      ledger.Gains after buffer.claims → Lowered lowering ledger (.ok buffer after)
  | refused {fault : Fault Error} {after : Ledger} : ¬ lowering.Abandons →
      ledger.Gains after [] → Lowered lowering ledger (.error fault after)
  | abandoned {fault : Fault Error} {after : Ledger} : lowering.Abandons →
      ledger.Gains after [(ledger.nextAddress, lowering.size)] →
      Lowered lowering ledger (.error fault after)

/-- **Everything that lowering a value can come to**, with what it leaves in the ledger. -/
theorem lower_cases (orderly : ledger.Orderly) (lowering : Lowering) :
    Lowered lowering ledger (Buffer.lower lowering ledger) := by
  by_cases large : maxLength < lowering.size
  · obtain ⟨_, failed⟩ := lower_of_lt large
    rw [failed]
    have none : ¬ lowering.Abandons := fun abandons => Nat.not_le_of_lt large abandons.short
    exact .refused none (.refl orderly)
  have short := Nat.le_of_not_lt large
  match filled : lowering.fill with
  | .ok data =>
      obtain ⟨after, done, _, gains⟩ := lower_of_fill short filled ledger
      rw [done]
      have none : ¬ lowering.Abandons := fun ⟨_, _, _, panicked⟩ =>
        nomatch filled.symm.trans panicked
      exact .handed none (gains orderly)
  | .error (.error cause) =>
      obtain ⟨after, failed, gains⟩ := lower_of_fill_error short filled ledger
      rw [failed]
      have none : ¬ lowering.Abandons := fun ⟨_, _, _, panicked⟩ =>
        nomatch filled.symm.trans panicked
      exact .refused none (gains orderly)
  | .error (.panic payload) =>
      rw [lower_of_fill_panic short filled ledger]
      have gains := gains_record orderly lowering.size lowering.size
        (Region.zeroed lowering.size)
      by_cases none : lowering.size = 0
      · rw [none] at gains ⊢
        exact .refused (fun abandons => Nat.ne_of_gt abandons.positive none) gains
      · rw [record_of_ne_zero none] at gains
        rw [room, record_of_ne_zero none]
        exact .abandoned ⟨Nat.pos_of_ne_zero none, short, payload, filled⟩ gains

end Buffer

end Boundary
