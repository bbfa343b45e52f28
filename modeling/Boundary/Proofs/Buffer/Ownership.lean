import Boundary.Proofs.Buffer.Holding

/-! # Who owns which allocation

The core hands out buffers and takes them back, in any order and along with copies that
should have been forgotten. `Boundary.Ownership` keeps, next to the ledger, what the users of
the core are entitled to expect of it: the buffers they own with the data in them, every
allocation that was made and every one that was given back. After every run of operations
the ledger agrees with it (`Boundary.Ownership.Reachable.accounted`): it counts the
allocations that were not given back, none of them is given back twice, copies that are
out of date are refused without effect, and what is owned is read as it was written.
-/

namespace Boundary

/-- The ledger and what its users know. -/
structure Ownership where
  ledger : Ledger
  /-- The buffers that were handed out and not given up, each with its data. -/
  owned : List (Buffer × Bytes)
  /-- Every buffer with an allocation of its own that was ever handed out. -/
  made : List Buffer
  /-- The addresses of the allocations that were given back. -/
  released : List Address

namespace Ownership

/-- What the core can be asked to do with buffers. -/
inductive Operation where
  | allocate (size : Nat)
  | ofBytes (data : Bytes) (spare : Nat)
  | ofForeignBytes (view : ForeignBytes)
  | reserve (buffer : Buffer) (additional : Nat)
  | read (buffer : Buffer)
  | take (buffer : Buffer)
  | free (buffer : Buffer)

/-- A buffer is handed out. It has an allocation unless its capacity is zero. -/
def granted (ownership : Ownership) (ledger : Ledger) (buffer : Buffer) (data : Bytes) :
    Ownership where
  ledger := ledger
  owned := (buffer, data) :: ownership.owned
  made := if buffer.capacity = 0 then ownership.made else buffer :: ownership.made
  released := ownership.released

/-- A buffer is given up, and so is its allocation. A buffer without one can be kept. -/
def surrendered (ownership : Ownership) (ledger : Ledger) (buffer : Buffer) : Ownership where
  ledger := ledger
  owned := ownership.owned.filter fun held =>
    held.1.address = none ∨ held.1.address ≠ buffer.address
  made := ownership.made
  released := buffer.address.toList ++ ownership.released

/-- What is known of the data in a buffer. -/
def dataOf (ownership : Ownership) (buffer : Buffer) : Bytes :=
  (ownership.owned.lookup buffer).getD []

/-- The core carries out an operation, and its users conclude from the answer what became of
their buffers. -/
def step (ownership : Ownership) : Operation → Ownership
  | .allocate size =>
    match Buffer.allocate size ownership.ledger with
    | .ok buffer ledger => ownership.granted ledger buffer (List.replicate size 0)
    | .error _ ledger => { ownership with ledger }
  | .ofBytes data spare =>
    let (buffer, ledger) := Buffer.ofBytesSparing data spare ownership.ledger
    ownership.granted ledger buffer data
  | .ofForeignBytes view =>
    match Buffer.ofForeignBytes view ownership.ledger with
    | .ok buffer ledger => ownership.granted ledger buffer ((view.data.getD []).take view.size)
    | .error _ ledger => { ownership with ledger }
  | .reserve buffer additional =>
    match buffer.reserve additional ownership.ledger with
    | .ok grown ledger =>
      -- An allocation that is handed out again was neither given back nor made.
      if grown.address = buffer.address then { ownership with ledger }
      else (ownership.surrendered ledger buffer).granted ledger grown (ownership.dataOf buffer)
    -- By the time that a size turns out to be too large, the old allocation is checked out.
    | .error (.tooLarge _) ledger => ownership.surrendered ledger buffer
    | .error _ ledger => { ownership with ledger }
  | .read _ => ownership
  | .take buffer =>
    match buffer.take ownership.ledger with
    | .ok _ ledger => ownership.surrendered ledger buffer
    | .error _ ledger => { ownership with ledger }
  | .free buffer =>
    match buffer.free ownership.ledger with
    | .ok _ ledger => ownership.surrendered ledger buffer
    | .error _ ledger => { ownership with ledger }

/-- A copy of a buffer whose allocation was given back, or a copy with another capacity. -/
inductive Outdated (ownership : Ownership) : Buffer → Prop
  | stale {original : Buffer} {address : Address} : original ∈ ownership.made →
      original.address = some address → address ∈ ownership.released → Outdated ownership original
  | altered {original : Buffer} {capacity : Nat} : original ∈ ownership.made →
      capacity ≠ original.capacity → Outdated ownership { original with capacity := capacity }

/-- A user may present what it owns, and copies that it should have forgotten. -/
def Presentable (ownership : Ownership) (buffer : Buffer) : Prop :=
  (∃ data, (buffer, data) ∈ ownership.owned) ∨ ownership.Outdated buffer

/-- The data of a buffer can be counted by a length prefix. -/
def Permits (ownership : Ownership) : Operation → Prop
  | .allocate _ => True
  | .ofBytes data _ => data.length ≤ maxLength
  | .ofForeignBytes view => view.length ≤ maxLength
  | .reserve buffer _ | .read buffer | .take buffer | .free buffer => ownership.Presentable buffer

/-- What a run of permitted operations leads to, from a ledger that has nothing on record. -/
inductive Reachable : Ownership → Prop
  | start {ledger : Ledger} : ledger.blocks = [] → Reachable ⟨ledger, [], [], []⟩
  | step {ownership : Ownership} {operation : Operation} : Reachable ownership →
      ownership.Permits operation → Reachable (ownership.step operation)

/-- The ledger and its users agree. -/
structure Sound (ownership : Ownership) : Prop where
  orderly : ownership.ledger.Orderly
  balance : ownership.ledger.outstanding + ownership.released.length = ownership.made.length
  apart : (ownership.made.map Buffer.address).Nodup
  made : ∀ original ∈ ownership.made, ∃ address < ownership.ledger.nextAddress,
    original.address = some address ∧
      ∀ block, ownership.ledger.find? address = some block → block.capacity = original.capacity
  once : ownership.released.Nodup
  released : ∀ address ∈ ownership.released,
    some address ∈ ownership.made.map Buffer.address ∧ ownership.ledger.find? address = none
  owned : ∀ held ∈ ownership.owned, held.1.Holds ownership.ledger held.2
  listed : ∀ held ∈ ownership.owned, held.1.address ≠ none → held.1 ∈ ownership.made

variable {ownership : Ownership} {buffer : Buffer} {data : Bytes}

namespace Sound

/-- A ledger without blocks has no owners. -/
theorem start {ledger : Ledger} (nothing : ledger.blocks = []) :
    Sound ⟨ledger, [], [], []⟩ where
  orderly := by
    constructor <;> simp only [nothing, List.map_nil, List.nodup_nil, List.not_mem_nil,
      false_imp_iff, implies_true]
  balance := congrArg List.length nothing
  apart := List.nodup_nil
  made := List.forall_mem_nil _
  once := List.nodup_nil
  released := List.forall_mem_nil _
  owned := List.forall_mem_nil _
  listed := List.forall_mem_nil _

/-- Nothing changes when the ledger keeps what it has on record. -/
theorem alike (sound : ownership.Sound) {ledger : Ledger} (alike : ownership.ledger.Alike ledger) :
    Sound { ownership with ledger } where
  orderly := alike.orderly
  balance := by rw [alike.outstanding, sound.balance]
  apart := sound.apart
  made := by simpa only [alike.nextAddress, alike.find?] using sound.made
  once := sound.once
  released := by simpa only [alike.find?] using sound.released
  owned held member := (sound.owned held member).congr fun address _ => alike.find? address
  listed := sound.listed

/-- Allocations that were made have addresses that were handed out. -/
theorem lt_nextAddress (sound : ownership.Sound) {address : Address}
    (made : some address ∈ ownership.made.map Buffer.address) :
    address < ownership.ledger.nextAddress := by
  obtain ⟨original, member, located⟩ := List.mem_map.mp made
  obtain ⟨other, earlier, same, _⟩ := sound.made original member
  obtain rfl : other = address := Option.some.inj (same.symm.trans located)
  exact earlier

/-- A new allocation is added to those that were made. -/
theorem granted (sound : ownership.Sound) {capacity length : Nat} {contents : Region}
    (positive : 0 < capacity) (fits : length ≤ capacity) (short : length ≤ maxLength)
    (same : contents.read length = data) :
    (ownership.granted (ownership.ledger.register ⟨capacity, contents⟩).2
      ⟨capacity, length, some ownership.ledger.nextAddress⟩ data).Sound := by
  have fresh : ∀ address < ownership.ledger.nextAddress,
      (ownership.ledger.register ⟨capacity, contents⟩).2.find? address =
        ownership.ledger.find? address := by
    intro address earlier
    rw [Ledger.find?_register, if_neg (Nat.ne_of_lt earlier)]
  have here := Ledger.find?_register ownership.ledger ⟨capacity, contents⟩
    ownership.ledger.nextAddress
  rw [if_pos rfl] at here
  constructor
  · exact sound.orderly.register _
  · have balance := sound.balance
    simp only [Ownership.granted, Nat.ne_of_gt positive, ↓reduceIte, List.length_cons,
      Ledger.outstanding_register]
    omega
  · simp only [Ownership.granted, Nat.ne_of_gt positive, ↓reduceIte]
    refine List.nodup_cons.mpr ⟨fun made => ?_, sound.apart⟩
    exact Nat.lt_irrefl _ (sound.lt_nextAddress made)
  · simp only [Ownership.granted, Nat.ne_of_gt positive, ↓reduceIte]
    refine List.forall_mem_cons.mpr ⟨⟨_, Nat.lt_succ_self _, rfl, ?_⟩, ?_⟩
    · intro block found
      cases here.symm.trans found
      rfl
    · intro original member
      obtain ⟨address, earlier, located, same⟩ := sound.made original member
      refine ⟨address, Nat.lt_succ_of_lt earlier, located, ?_⟩
      rw [fresh address earlier]
      exact same
  · exact sound.once
  · simp only [Ownership.granted, Nat.ne_of_gt positive, ↓reduceIte]
    intro address member
    obtain ⟨made, gone⟩ := sound.released address member
    exact ⟨List.mem_cons_of_mem _ made, (fresh address (sound.lt_nextAddress made)).trans gone⟩
  · refine List.forall_mem_cons.mpr ⟨.recorded here positive fits short same, ?_⟩
    intro held member
    have holds := sound.owned held member
    exact holds.congr fun address located =>
      fresh address (holds.lt_nextAddress sound.orderly located)
  · simp only [Ownership.granted, Nat.ne_of_gt positive, ↓reduceIte]
    refine List.forall_mem_cons.mpr ⟨fun _ => List.mem_cons_self, fun held member located => ?_⟩
    exact List.mem_cons_of_mem _ (sound.listed held member located)

/-- What `record` hands out is owned, with or without an allocation. -/
theorem recorded (sound : ownership.Sound) {capacity length : Nat} {contents : Region}
    (fits : length ≤ capacity) (short : length ≤ maxLength) (same : contents.read length = data) :
    (ownership.granted (Buffer.record capacity length contents ownership.ledger).2
      (Buffer.record capacity length contents ownership.ledger).1 data).Sound := by
  by_cases none : capacity = 0
  · obtain rfl : length = 0 := by omega
    obtain rfl : [] = data :=
      (List.eq_nil_of_length_eq_zero (Region.length_read _ _)).symm.trans same
    rw [Buffer.record, if_pos none]
    exact { sound with
      owned := List.forall_mem_cons.mpr ⟨.nothing, sound.owned⟩
      listed := List.forall_mem_cons.mpr ⟨fun located => absurd rfl located, sound.listed⟩ }
  · rw [Buffer.record_of_ne_zero none]
    exact sound.granted (Nat.pos_of_ne_zero none) fits short same

/-- What is given up is released, and was not before. -/
theorem surrendered (sound : ownership.Sound) (member : (buffer, data) ∈ ownership.owned) :
    (ownership.surrendered (buffer.releasedFrom ownership.ledger) buffer).Sound := by
  have made := sound.listed _ member
  cases sound.owned _ member with
  | nothing =>
      exact { sound with
        owned := fun held kept => sound.owned held (List.mem_of_mem_filter kept)
        listed := fun held kept => sound.listed held (List.mem_of_mem_filter kept) }
  | @recorded _ _ address _ _ found _ _ _ _ =>
      have erased := Ledger.find?_erase ownership.ledger address
      constructor
      · exact sound.orderly.erase address
      · have balance := sound.balance
        have taken := sound.orderly.outstanding_erase found
        simp only [Ownership.surrendered, Buffer.releasedFrom, Option.toList_some,
          List.singleton_append, List.length_cons]
        omega
      · exact sound.apart
      · intro original listed
        obtain ⟨other, earlier, located, same⟩ := sound.made original listed
        refine ⟨other, earlier, located, fun block remains => same block ?_⟩
        have kept := (erased other).symm.trans remains
        split at kept
        · cases kept
        · exact kept
      · refine List.nodup_cons.mpr ⟨fun again => ?_, sound.once⟩
        cases (sound.released address again).2.symm.trans found
      · refine List.forall_mem_cons.mpr ⟨⟨?_, (erased address).trans (if_pos rfl)⟩, ?_⟩
        · exact List.mem_map.mpr ⟨_, made (Option.some_ne_none address), rfl⟩
        · intro other given
          obtain ⟨known, gone⟩ := sound.released other given
          refine ⟨known, (erased other).trans ?_⟩
          rw [gone, ite_self]
      · intro held kept
        obtain ⟨listed, apart⟩ := List.mem_filter.mp kept
        refine (sound.owned held listed).congr fun other located => (erased other).trans (if_neg ?_)
        rintro rfl
        simp only [located, decide_eq_true_eq] at apart
        exact apart.elim (Option.some_ne_none _) fun differs => differs rfl
      · exact fun held kept => sound.listed held (List.mem_of_mem_filter kept)

/-- No outdated copy has its allocation on record. -/
theorem refused (sound : ownership.Sound) (outdated : ownership.Outdated buffer) :
    buffer.Refused ownership.ledger := by
  cases outdated with
  | @stale _ address _ located given =>
      refine ⟨address, located, fun live => ?_⟩
      obtain ⟨contents, found⟩ := Ledger.isLive_iff.mp live
      cases (sound.released address given).2.symm.trans found
  | altered member differs =>
      obtain ⟨address, _, located, same⟩ := sound.made _ member
      refine ⟨address, located, fun live => ?_⟩
      obtain ⟨contents, found⟩ := Ledger.isLive_iff.mp live
      exact differs (same _ found)

/-- What is known of the data in an owned buffer is what it holds. -/
theorem holds_dataOf (sound : ownership.Sound) (member : (buffer, data) ∈ ownership.owned) :
    buffer.Holds ownership.ledger (ownership.dataOf buffer) := by
  unfold dataOf
  cases looked : ownership.owned.lookup buffer with
  | none =>
      have apart := List.lookup_eq_none_iff.mp looked _ member
      simp only [bne_self_eq_false, Bool.false_eq_true] at apart
  | some known =>
      obtain ⟨before, after, split, _⟩ := List.lookup_eq_some_iff.mp looked
      exact sound.owned (buffer, known) (split ▸ List.mem_append_cons_self)

/-- Growing a buffer keeps the ownership sound, also when it fails. -/
theorem reserve (sound : ownership.Sound) (presented : ownership.Presentable buffer)
    (additional : Nat) : (ownership.step (.reserve buffer additional)).Sound := by
  simp only [Ownership.step]
  rcases presented with ⟨data, member⟩ | outdated
  · have holds := sound.holds_dataOf member
    have given := sound.surrendered member
    by_cases large : maxLength < buffer.length + additional
    · obtain ⟨size, failed⟩ := holds.reserve_of_lt large
      rw [failed]
      exact given
    by_cases fits : buffer.length + additional ≤ buffer.capacity
    · obtain ⟨kept, reserved, alike⟩ := holds.reserve_of_le (Nat.le_of_not_lt large) fits
      simp only [reserved, ↓reduceIte]
      exact sound.alike (alike sound.orderly)
    · obtain ⟨contents, same, reserved⟩ :=
        holds.reserve_of_capacity_lt (Nat.le_of_not_lt large) (Nat.lt_of_not_le fits)
      have moved : some ownership.ledger.nextAddress ≠ buffer.address := fun located =>
        Nat.lt_irrefl _ (holds.lt_nextAddress sound.orderly located.symm)
      simp only [reserved, moved, ↓reduceIte]
      have grown := Buffer.le_grownCapacity buffer.capacity (buffer.length + additional)
      rw [← Buffer.nextAddress_releasedFrom buffer ownership.ledger]
      exact given.granted (by omega) (by omega) (by omega) same
  · obtain ⟨cause, failed, ordinary⟩ := (sound.refused outdated).reserve additional
    rw [failed]
    cases cause with
    | tooLarge size => exact absurd rfl (ordinary size)
    | _ => exact sound

/-- Every permitted operation keeps the ledger and its users in agreement. -/
theorem step (sound : ownership.Sound) {operation : Operation}
    (permitted : ownership.Permits operation) : (ownership.step operation).Sound := by
  cases operation with
  | allocate size =>
      simp only [Ownership.step]
      by_cases large : maxLength < size
      · rw [Buffer.allocate_of_lt large]
        exact sound
      · rw [Buffer.allocate_of_le (Nat.le_of_not_lt large)]
        exact sound.recorded (Nat.le_refl _) (Nat.le_of_not_lt large) (Region.read_zeroed size)
  | ofBytes data spare =>
      exact sound.recorded (Nat.le_add_right _ _) permitted (Region.read_ofBytes data)
  | ofForeignBytes view =>
      simp only [Ownership.step, Buffer.ofForeignBytes]
      cases viewed : view.read with
      | error cause => exact sound
      | ok data =>
          obtain rfl := ForeignBytes.eq_take_of_read viewed
          have short : ((view.data.getD []).take view.size).length ≤ maxLength :=
            Nat.le_trans (List.length_take_le _ _) (Int.toNat_le.mpr permitted)
          exact sound.recorded (Nat.le_add_right _ _) short (Region.read_ofBytes _)
  | reserve buffer additional => exact sound.reserve permitted additional
  | read buffer => exact sound
  | take buffer =>
      simp only [Ownership.step]
      rcases permitted with ⟨data, member⟩ | outdated
      · rw [(sound.owned _ member).take]
        exact sound.surrendered member
      · obtain ⟨cause, failed⟩ := (sound.refused outdated).take
        rw [failed]
        exact sound
  | free buffer =>
      simp only [Ownership.step]
      rcases permitted with ⟨data, member⟩ | outdated
      · rw [(sound.owned _ member).free]
        exact sound.surrendered member
      · obtain ⟨cause, failed⟩ := (sound.refused outdated).free
        rw [failed]
        exact sound

end Sound

/-- Along every run the ledger and its users agree. -/
theorem Reachable.sound (reachable : ownership.Reachable) : ownership.Sound := by
  induction reachable with
  | start nothing => exact .start nothing
  | step _ permitted ih => exact ih.step permitted

/-- **The ledger accounts for every allocation.** Whatever was asked of the core so far, the
ledger counts the allocations that were made, each at its own address, less those that were
given back, of which none was given back twice. Copies that are out of date are refused by
each operation, which leaves the ledger as it was. What is owned is read and taken as it was
written. Making room in it keeps the data, and adds the room that was asked for unless a
length prefix could not count as much: then the buffer is released. -/
theorem Reachable.accounted (reachable : ownership.Reachable) :
    ownership.ledger.outstanding + ownership.released.length = ownership.made.length ∧
      (ownership.made.map Buffer.address).Nodup ∧ ownership.released.Nodup ∧
      (∀ address ∈ ownership.released, some address ∈ ownership.made.map Buffer.address) ∧
      (∀ buffer, ownership.Outdated buffer →
        (∃ cause, buffer.read ownership.ledger = .error cause) ∧
        (∃ cause, buffer.take ownership.ledger = .error cause ownership.ledger) ∧
        (∃ cause, buffer.free ownership.ledger = .error cause ownership.ledger) ∧
        ∀ additional, ∃ cause,
          buffer.reserve additional ownership.ledger = .error cause ownership.ledger) ∧
      ∀ buffer data, (buffer, data) ∈ ownership.owned →
        buffer.read ownership.ledger = .ok data ∧
        (∃ after, buffer.take ownership.ledger = .ok data after) ∧
        (∃ after, buffer.free ownership.ledger = .ok () after) ∧
        ∀ additional,
          (data.length + additional ≤ maxLength ∧
            ∃ grown ledger, buffer.reserve additional ownership.ledger = .ok grown ledger ∧
              grown.read ledger = .ok data ∧ data.length + additional ≤ grown.capacity) ∨
          maxLength < data.length + additional ∧
            ∃ cause ledger, buffer.reserve additional ownership.ledger = .error cause ledger ∧
              ∀ address, buffer.address = some address → ledger.find? address = none := by
  have sound := reachable.sound
  refine ⟨sound.balance, sound.apart, sound.once, fun address given => (sound.released _ given).1,
    fun buffer outdated => ?_, fun buffer data member => ?_⟩
  · have refused := sound.refused outdated
    refine ⟨refused.read, refused.take, refused.free, fun additional => ?_⟩
    obtain ⟨cause, failed, _⟩ := refused.reserve additional
    exact ⟨cause, failed⟩
  · have holds := sound.owned _ member
    exact ⟨holds.read, ⟨_, holds.take⟩, ⟨_, holds.free⟩,
      fun additional => holds.reserve_cases sound.orderly additional⟩

/-- An allocation moves to make room. Its old address and a wrong capacity are of no use. -/
theorem Reachable.accounted_for_copies :
    let data : Bytes := [97, 98, 99]
    let first : Buffer := ⟨3, 3, some 1⟩
    let grown : Buffer := ⟨103, 3, some 2⟩
    let wrong : Buffer := { grown with capacity := 3 }
    let ownership : Ownership :=
      ⟨⟨[(2, ⟨103, .ofBytes data⟩)], [], 3⟩, [(grown, data)], [grown, first], [1]⟩
    ownership.Reachable ∧ ownership.ledger.outstanding + 1 = 2 ∧
      ownership.Outdated first ∧
      (∃ cause, first.take ownership.ledger = .error cause ownership.ledger) ∧
      ownership.Outdated wrong ∧
      (∃ cause, wrong.free ownership.ledger = .error cause ownership.ledger) ∧
      grown.read ownership.ledger = .ok data := by
  intro data first grown wrong ownership
  let start : Ownership := ⟨.empty, [], [], []⟩
  let handed : Ownership := ⟨⟨[(1, ⟨3, .ofBytes data⟩)], [], 2⟩, [(first, data)], [first], []⟩
  have begun : start.step (.ofBytes data 0) = handed := rfl
  have moved : handed.step (.reserve first 100) = ownership := rfl
  have short : start.Permits (.ofBytes data 0) := (by decide : 3 ≤ maxLength)
  have owned : handed.Permits (.reserve first 100) := .inl ⟨data, List.mem_cons_self⟩
  have reachable : ownership.Reachable :=
    moved ▸ Reachable.step (begun ▸ .step (.start rfl) short) owned
  have stale : ownership.Outdated first :=
    .stale (List.mem_cons_of_mem _ List.mem_cons_self) rfl List.mem_cons_self
  have altered : ownership.Outdated wrong :=
    @Outdated.altered ownership grown 3 List.mem_cons_self (by decide)
  obtain ⟨balance, _, _, _, refused, holds⟩ := reachable.accounted
  exact ⟨reachable, balance, stale, (refused first stale).2.1, altered,
    (refused wrong altered).2.2.1, (holds grown data List.mem_cons_self).1⟩

end Ownership

end Boundary
