import Boundary.Proofs.Wire.Consumption
import Boundary.Wire.Utf8

/-! # Reads decided by the bytes they consume

A read is local when nothing behind the bytes it consumes has a say in its result, and
nothing short of them is enough for it (`Boundary.Read.Local`): a success depends on the
consumed bytes alone and every shorter input is a short read, and a failure that is not
a short read stays when the input goes on. Reading a number of bytes is local, and
reads put together from local reads are (`Boundary.Read.Local.bind`,
`Boundary.Read.Local.times`).
-/

namespace Boundary

namespace Read

/-- The fault of a read that reaches past the end of its input. -/
def ShortRead (fault : Fault CodecError) : Prop :=
  ∃ needed available, fault = .error (.bufferTooSmall needed available)

variable {α β : Type}

/-- No proper front part of `data` is enough for the read. -/
def Starves (read : Read α) (data : Bytes) : Prop :=
  ∀ position front back, data = front ++ back → back ≠ [] →
    ∃ fault after, ShortRead fault ∧ read ⟨position, front⟩ = .error fault after

/-- After a front that was taken, it is the rest of the bytes that starves what follows. -/
theorem Starves.bind {read : Read α} {next : α → Read β} {front back : Bytes} {middle : α}
    (taken : read.Takes front middle) (frontStarves : read.Starves front)
    (backStarves : (next middle).Starves back) : Starves (read >>= next) (front ++ back) := by
  intro position short missing split nonempty
  -- The input ends behind the front, at its end, or within it.
  rcases List.append_eq_append_iff.mp split with ⟨between, rfl, rest⟩ | ⟨between, rfl, rest⟩
  · obtain ⟨fault, after, isShort, run⟩ :=
      backStarves (position + front.length) between missing rest nonempty
    exact ⟨fault, after, isShort, (Act.bind_of_ok (taken position between)).trans run⟩
  · by_cases reached : between = []
    · subst reached
      rw [List.append_nil] at taken
      rw [List.nil_append] at rest
      obtain ⟨fault, after, isShort, run⟩ :=
        backStarves (position + short.length) [] missing rest.symm nonempty
      have whole := taken position []
      rw [List.append_nil] at whole
      exact ⟨fault, after, isShort, (Act.bind_of_ok whole).trans run⟩
    · obtain ⟨fault, after, isShort, run⟩ := frontStarves position short between rfl reached
      exact ⟨fault, after, isShort, Act.bind_of_error run⟩

theorem Starves.bytes (data : Bytes) : (Read.bytes data.length).Starves data := by
  intro position front back split nonempty
  have shorter : front.length < data.length := by
    rw [split, List.length_append]
    exact Nat.lt_add_of_pos_right (List.length_pos_iff.mpr nonempty)
  exact ⟨_, _, ⟨_, _, rfl⟩, bytes_of_lt shorter⟩

/-- The read is decided by the bytes it consumes. -/
structure Local (read : Read α) : Prop where
  consumed : ∀ start value after, read start = .ok value after →
    ∃ data, start.rest = data ++ after.rest ∧ after.position = start.position + data.length ∧
      read.Takes data value ∧ read.Starves data
  refused : ∀ start fault after, read start = .error fault after → ¬ ShortRead fault →
    ∀ more, ∃ left, read ⟨start.position, start.rest ++ more⟩ = .error fault left

namespace Local

protected theorem pure (value : α) : Local (pure value) where
  consumed start result after run := by
    cases run
    refine ⟨[], rfl, rfl, Takes.pure value, ?_⟩
    intro position front back split nonempty
    exact absurd (List.append_eq_nil_iff.mp split.symm).2 nonempty
  refused start fault after run := by cases run

/-- Giving up takes no look at the input. -/
theorem throwing (fault : Fault CodecError) : Local (throw fault : Read α) where
  consumed start value after run := by cases run
  refused start other after run _ more := by
    cases run
    exact ⟨_, rfl⟩

protected theorem bytes (count : Nat) : Local (Read.bytes count) where
  consumed start value after run := by
    by_cases enough : count ≤ start.rest.length
    · rw [bytes_of_le enough] at run
      cases run
      have size : (start.rest.take count).length = count := List.length_take_of_le enough
      have taken := Takes.bytes (start.rest.take count)
      have starved := Starves.bytes (start.rest.take count)
      rw [size] at taken starved
      exact ⟨_, (List.take_append_drop count start.rest).symm, by rw [size], taken, starved⟩
    · rw [bytes_of_lt (Nat.lt_of_not_le enough)] at run
      cases run
  refused start fault after run lasting := by
    by_cases enough : count ≤ start.rest.length
    · rw [bytes_of_le enough] at run
      cases run
    · rw [bytes_of_lt (Nat.lt_of_not_le enough)] at run
      cases run
      exact absurd ⟨_, _, rfl⟩ lasting

/-- One local read after another is local. -/
theorem bind {read : Read α} {next : α → Read β} (first : read.Local)
    (rest : ∀ value, (next value).Local) : Local (read >>= next) where
  consumed start value after run := by
    obtain ⟨middle, between, firstRun, nextRun⟩ := Act.bind_eq_ok_iff.mp run
    obtain ⟨front, startSplit, betweenPosition, frontTakes, frontStarves⟩ :=
      first.consumed start middle between firstRun
    obtain ⟨back, betweenSplit, afterPosition, backTakes, backStarves⟩ :=
      (rest middle).consumed between value after nextRun
    refine ⟨front ++ back, ?_, ?_, frontTakes.bind backTakes, ?_⟩
    · rw [startSplit, betweenSplit, List.append_assoc]
    · rw [afterPosition, betweenPosition, List.length_append, Nat.add_assoc]
    · exact .bind frontTakes frontStarves backStarves
  refused start fault after run lasting more := by
    rcases Act.bind_eq_error_iff.mp run with failed | ⟨middle, between, firstRun, nextRun⟩
    · obtain ⟨left, stays⟩ := first.refused start fault after failed lasting more
      exact ⟨left, Act.bind_of_error stays⟩
    · obtain ⟨front, startSplit, betweenPosition, frontTakes, _⟩ :=
        first.consumed start middle between firstRun
      obtain ⟨left, stays⟩ := (rest middle).refused between fault after nextRun lasting more
      refine ⟨left, ?_⟩
      rw [startSplit, List.append_assoc, Act.bind_of_ok (frontTakes _ _), ← betweenPosition]
      exact stays

protected theorem word (width : Nat) : Local (Read.word width) :=
  (Local.bytes width).bind fun _ => .pure _

protected theorem byte : Local Read.byte := (Local.word 1).bind fun _ => .pure _

protected theorem length : Local Read.length := by
  refine (Local.word 4).bind fun word => ?_
  split
  · exact .throwing _
  · exact .pure _

protected theorem discriminant (typeName : String) (caseCount : Nat) :
    Local (Read.discriminant typeName caseCount) := by
  refine (Local.word 4).bind fun word => ?_
  dsimp only
  split
  · exact .pure _
  · exact .throwing _

protected theorem text : Local Utf8.read := by
  refine Local.length.bind fun count => (Local.bytes count).bind fun data => ?_
  split
  · exact .pure _
  · exact .throwing _

theorem times {item : Read α} (each : item.Local) (count : Nat) :
    Local (Read.times item count) := by
  induction count with
  | zero => exact .pure []
  | succ count ih => exact each.bind fun first => ih.bind fun others => .pure _

/-- What a sequence takes consists of what its parts take. -/
theorem of_takes_bind {read : Read α} {next : α → Read β} {data : Bytes} {value : β}
    (first : read.Local) (rest : ∀ middle, (next middle).Local)
    (takes : Takes (read >>= next) data value) :
    ∃ front middle back, data = front ++ back ∧ read.Takes front middle ∧
      (next middle).Takes back value := by
  have run := takes 0 []
  rw [List.append_nil] at run
  obtain ⟨middle, between, firstRun, nextRun⟩ := Act.bind_eq_ok_iff.mp run
  obtain ⟨front, split, _, frontTakes, _⟩ := first.consumed _ _ _ firstRun
  obtain ⟨back, between, _, backTakes, _⟩ := (rest middle).consumed _ _ _ nextRun
  refine ⟨front, middle, back, ?_, frontTakes, backTakes⟩
  rw [List.append_nil] at between
  rw [← between]
  exact split

variable {read : Read α} {bytes : Bytes} {value : α} {consumed : Nat} {fault : Fault CodecError}

/-- What was lifted splits its input into the bytes it took and those it did not reach. -/
theorem split_of_lift (decided : read.Local) (lifted : read.lift bytes = .ok (value, consumed)) :
    ∃ data rest, bytes = data ++ rest ∧ consumed = data.length ∧ read.Takes data value ∧
      read.Starves data := by
  obtain ⟨rest, run⟩ := lift_eq_ok_iff.mp lifted
  obtain ⟨data, whole, position, takes, starves⟩ := decided.consumed _ _ _ run
  exact ⟨data, rest, whole, position.trans (Nat.zero_add _), takes, starves⟩

theorem consumed_le (decided : read.Local) (lifted : read.lift bytes = .ok (value, consumed)) :
    consumed ≤ bytes.length := by
  obtain ⟨data, rest, rfl, rfl, _⟩ := decided.split_of_lift lifted
  rw [List.length_append]
  exact Nat.le_add_right _ _

/-- What follows the consumed bytes can be exchanged. -/
theorem lift_take_append (decided : read.Local)
    (lifted : read.lift bytes = .ok (value, consumed)) (more : Bytes) :
    read.lift (bytes.take consumed ++ more) = .ok (value, consumed) := by
  obtain ⟨data, rest, rfl, rfl, takes, _⟩ := decided.split_of_lift lifted
  rw [List.take_left]
  exact takes.lift more

/-- Of the consumed bytes none can be missing. -/
theorem lift_take_of_lt (decided : read.Local)
    (lifted : read.lift bytes = .ok (value, consumed)) {count : Nat} (short : count < consumed) :
    ∃ needed available,
      read.lift (bytes.take count) = .error (.error (.bufferTooSmall needed available)) := by
  obtain ⟨data, rest, rfl, rfl, _, starves⟩ := decided.split_of_lift lifted
  have missing : data.drop count ≠ [] := by
    intro nothing
    have covered := List.drop_eq_nil_iff.mp nothing
    omega
  obtain ⟨_, after, ⟨needed, available, rfl⟩, starved⟩ :=
    starves 0 (data.take count) (data.drop count) (List.take_append_drop _ _).symm missing
  refine ⟨needed, available, lift_eq_error_iff.mpr ⟨after, ?_⟩⟩
  rw [List.take_append_of_le_length (Nat.le_of_lt short)]
  exact starved

/-- A failure other than a short read is not cured by more input. -/
theorem lift_append_of_error (decided : read.Local) (lifted : read.lift bytes = .error fault)
    (lasting : ¬ ShortRead fault) (more : Bytes) : read.lift (bytes ++ more) = .error fault := by
  obtain ⟨after, run⟩ := lift_eq_error_iff.mp lifted
  obtain ⟨left, stays⟩ := decided.refused _ _ _ run lasting more
  exact lift_eq_error_iff.mpr ⟨left, stays⟩

end Local

end Read

end Boundary
