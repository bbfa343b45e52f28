import Boundary.Proofs.Schema.Structure
import Boundary.Proofs.Wire.Locality
import Mathlib

/-! # Lifting is decided by the bytes it consumes

Reading under any schema is local (`Boundary.Schema.read_local`). A value lifted from the
front of some bytes is therefore lifted from the bytes it took, whatever follows them,
and from none of their proper prefixes; and of the failures only a short read can be
cured by more input (`Boundary.Schema.lift_local`).
-/

namespace Boundary

open Read (Local)

theorem Duration.read_local : Duration.read.Local := by
  refine (Local.word 8).bind fun seconds => (Local.word 4).bind fun nanos => ?_
  split
  · exact .pure _
  · exact .throwing _

/-- Reading an instant is local. -/
theorem Instant.read_local : Instant.read.Local := by
  refine (Local.word 8).bind fun seconds => (Local.word 4).bind fun nanos => ?_
  dsimp only
  split
  · exact .pure _
  · exact .throwing _

theorem Handle.read_local : Handle.read.Local := (Local.word 8).bind fun _ => .pure _

namespace Schema

/-- Reading fields is local, if reading each of them is. -/
theorem readFields_local {declared : List (String × Schema)}
    (each : ∀ field ∈ declared, field.2.read.Local) : (readFields declared).Local := by
  induction declared with
  | nil => exact .pure []
  | cons first rest ih =>
      obtain ⟨name, schema⟩ := first
      have head := each (name, schema) List.mem_cons_self
      have tail := ih fun field member => each field (List.mem_cons_of_mem _ member)
      exact head.bind fun value => tail.bind fun others => .pure _

/-- Reading under a schema is decided by the bytes it consumes. -/
theorem read_local (schema : Schema) : schema.read.Local := by
  induction schema with
  | bool =>
      refine Local.byte.bind fun tag => ?_
      split
      · exact .pure _
      · exact .pure _
      · exact .throwing _
  | scalar type => exact (Local.word type.width).bind fun _ => .pure _
  | string => exact Local.text.bind fun _ => .pure _
  | bytes => exact Local.length.bind fun count => (Local.bytes count).bind fun _ => .pure _
  | timestamp => exact Instant.read_local.bind fun _ => .pure _
  | duration => exact Duration.read_local.bind fun _ => .pure _
  | object name => exact Handle.read_local.bind fun _ => .pure _
  | optional item ih =>
      refine Local.byte.bind fun tag => ?_
      split
      · exact .pure _
      · exact ih.bind fun _ => .pure _
      · exact .throwing _
  | sequence item ih =>
      exact Local.length.bind fun count => (ih.times count).bind fun _ => .pure _
  | map key mapped keyIh mappedIh =>
      have entry := keyIh.bind fun first => mappedIh.bind fun second => Local.pure (first, second)
      exact Local.length.bind fun count => (entry.times count).bind fun _ => .pure _
  | record name declared ih => exact (readFields_local ih).bind fun _ => .pure _
  | enumeration name variants ih =>
      refine (Local.discriminant name variants.length).bind fun position => ?_
      rw [readVariants_eq_map, List.getElem?_map]
      cases listed : variants[position]? with
      | none => exact .throwing _
      | some variant =>
          exact (readFields_local (ih variant (List.mem_of_getElem? listed))).bind fun _ => .pure _

/-- **Lifting is decided by the bytes it consumes.** A lifted value takes up a front part
of the input. It is lifted from this part in front of any other bytes, while each of
the part's proper prefixes is a short read. A failure other than a short read stays
when the input goes on. -/
theorem lift_local (schema : Schema) (bytes : Bytes) :
    (∀ value consumed, schema.lift bytes = .ok (value, consumed) →
      consumed ≤ bytes.length ∧
        (∀ more, schema.lift (bytes.take consumed ++ more) = .ok (value, consumed)) ∧
        ∀ count < consumed, ∃ needed available,
          schema.lift (bytes.take count) = .error (.error (.bufferTooSmall needed available))) ∧
    ∀ fault, schema.lift bytes = .error fault →
      (∀ needed available, fault ≠ .error (.bufferTooSmall needed available)) →
        ∀ more, schema.lift (bytes ++ more) = .error fault := by
  have decided := schema.read_local
  constructor
  · intro value consumed lifted
    exact ⟨decided.consumed_le lifted, decided.lift_take_append lifted,
      fun _ short => decided.lift_take_of_lt lifted short⟩
  · intro fault lifted lasting more
    refine decided.lift_append_of_error lifted ?_ more
    rintro ⟨needed, available, same⟩
    exact lasting needed available same

/-- A sequence of one text behind its prefixes: exchanged and cut after it was lifted, and
refused for good when the text is malformed. -/
theorem lift_local_greeting :
    let schema : Schema := .sequence .string
    let bytes : Bytes := [0, 0, 0, 1, 0, 0, 0, 2, 104, 105, 77]
    let malformed : Bytes := [0, 0, 0, 1, 0, 0, 0, 1, 255]
    let greeting : Value := .sequence [.string "hi"]
    schema.lift bytes = .ok (greeting, 10) ∧
      schema.lift (bytes.take 10 ++ [1, 2, 3]) = .ok (greeting, 10) ∧
      (∃ needed available,
        schema.lift (bytes.take 7) = .error (.error (.bufferTooSmall needed available))) ∧
      schema.lift malformed = .error (.error .invalidUtf8) ∧
      schema.lift (malformed ++ [104]) = .error (.error .invalidUtf8) := by
  intro schema bytes malformed greeting
  have lifted : schema.lift bytes = .ok (greeting, 10) := by cbv
  have refused : schema.lift malformed = .error (.error .invalidUtf8) := by cbv
  obtain ⟨_, exchanged, cut⟩ := (lift_local schema bytes).1 greeting 10 lifted
  exact ⟨lifted, exchanged [1, 2, 3], cut 7 (by decide), refused,
    (lift_local schema malformed).2 _ refused (by simp) [104]⟩

end Schema

end Boundary
