import Boundary.Proofs.Schema.Structure
import Boundary.Proofs.Time
import Mathlib

/-! # Round trip of values by schema

What a schema writes it reads back: the write of a value under a schema carries the
value to the read of that schema, unless an instant just before the epoch lies within
the value (`Boundary.Schema.carries`). An encoding therefore decodes to the value it was
made from, alone and in front of other bytes
(`Boundary.Schema.decode_and_lift_of_encode`).
-/

namespace Boundary

/-- No instant within the value lies just before the epoch. -/
def Value.InstantsSettled (value : Value) : Prop :=
  ∀ instant : Instant, (Value.timestamp instant).Within value → ¬ instant.JustBeforeEpoch

namespace Schema

theorem scalar_carries (type : Scalar) (word : type.Word) :
    (type.write word).Carries type.read word :=
  .bits type.width word

theorem handle_carries (handle : Handle) : handle.write.Carries Handle.read handle :=
  (Write.Carries.bits 8 handle.raw.toBitVec).returning rfl

/-- Fields are read back one by one, under the names they were declared with. -/
theorem fields_carries {declared : List (String × Schema)} {fields : List (String × Value)}
    (each : ∀ field ∈ declared, ∀ value : Value, value.InstantsSettled →
      (field.2.write value).Carries field.2.read value)
    (named : declared.map Prod.fst = fields.map Prod.fst)
    (settled : ∀ field ∈ fields, field.2.InstantsSettled) :
    (writeFields declared fields).Carries (readFields declared) fields := by
  induction declared generalizing fields with
  | nil =>
      cases fields with
      | nil => exact .of_emits .nothing (.pure [])
      | cons _ _ => cases named
  | cons first rest ih =>
      cases fields with
      | nil => cases named
      | cons given others =>
          obtain ⟨name, schema⟩ := first
          obtain ⟨givenName, value⟩ := given
          obtain ⟨rfl, restNamed⟩ := List.cons.inj named
          have head := each (name, schema) List.mem_cons_self value (settled _ List.mem_cons_self)
          have tail := ih (fun field member => each field (List.mem_cons_of_mem _ member)) restNamed
            (fun field member => settled field (List.mem_cons_of_mem _ member))
          simp only [writeFields, readFields]
          exact head.seq (tail.returning rfl)

/-- What a schema writes it reads back. -/
theorem carries (schema : Schema) (value : Value) (settled : value.InstantsSettled) :
    (schema.write value).Carries schema.read value := by
  induction schema generalizing value with
  | bool =>
      cases value with
      | bool truth =>
          refine (Write.Carries.byte truth.toNat ?_).returning ?_
          · cases truth <;> decide
          · cases truth <;> rfl
      | _ => exact .fail _ _ _
  | scalar type =>
      cases value with
      | scalar other word =>
          by_cases same : type = other
          · subst same
            simp only [write, ↓reduceIte]
            exact (scalar_carries type word).returning rfl
          · simp only [write, same, ↓reduceIte]
            exact .fail _ _ _
      | _ => exact .fail _ _ _
  | string =>
      cases value with
      | string text => exact (Write.Carries.text text).returning rfl
      | _ => exact .fail _ _ _
  | bytes =>
      cases value with
      | bytes data =>
          refine (Write.Carries.length data.length).seq ?_
          exact (Write.Carries.bytes data).returning rfl
      | _ => exact .fail _ _ _
  | timestamp =>
      cases value with
      | timestamp instant =>
          have back := instant.received_eq_self_iff.mpr (settled instant .self)
          have carried := instant.carries
          rw [back] at carried
          exact carried.returning rfl
      | _ => exact .fail _ _ _
  | duration =>
      cases value with
      | duration length => exact length.carries.returning rfl
      | _ => exact .fail _ _ _
  | object name =>
      cases value with
      | object handle => exact (handle_carries handle).returning rfl
      | _ => exact .fail _ _ _
  | optional item ih =>
      cases value with
      | absent => exact (Write.Carries.byte 0 (by decide)).returning rfl
      | present inner =>
          have carried := ih inner fun instant within => settled instant (.present within)
          exact (Write.Carries.byte 1 (by decide)).seq (carried.returning rfl)
      | _ => exact .fail _ _ _
  | sequence item ih =>
      cases value with
      | sequence items =>
          have carried : (Write.inOrder (items.map item.write)).Carries
              (Read.times item.read items.length) items :=
            .inOrder fun value member =>
              ih value fun instant within => settled instant (.item member within)
          exact (Write.Carries.length items.length).seq (carried.returning rfl)
      | _ => exact .fail _ _ _
  | map key mapped keyIh mappedIh =>
      cases value with
      | map entries =>
          refine (Write.Carries.length entries.length).seq (Write.Carries.returning ?_ rfl)
          refine .inOrder fun entry member => ?_
          have first := keyIh entry.1 fun instant within => settled instant (.key member within)
          have second := mappedIh entry.2 fun instant within =>
            settled instant (.mapped member within)
          exact first.seq (second.returning rfl)
      | _ => exact .fail _ _ _
  | record name declared ih =>
      cases value with
      | record fields =>
          simp only [write, read]
          refine .guarded fun accepted => ?_
          have carried := fields_carries ih (checkFields_eq_ok_iff.mp accepted)
            fun field member instant within => settled instant (.field member within)
          exact carried.returning rfl
      | _ => exact .fail _ _ _
  | enumeration name variants ih =>
      cases value with
      | variant variant fields =>
          simp only [write, read, writeVariant_eq, Nat.zero_add]
          split
          · exact .fail _ _ _
          · next position declared found =>
            -- The write goes by name and the read by position, to the same variant.
            have listed := getElem?_of_variant?_eq_some found
            obtain ⟨known, _⟩ := List.getElem?_eq_some_iff.mp listed
            refine (Write.Carries.discriminant name known).seq (.guarded fun accepted => ?_)
            rw [readVariants_eq_map, List.getElem?_map, listed]
            have carried := fields_carries (ih _ (List.mem_of_getElem? listed))
              (checkFields_eq_ok_iff.mp accepted)
              fun field member instant within => settled instant (.content member within)
            exact carried.returning rfl
      | _ => exact .fail _ _ _

/-- **Round trip of values.** An encoding decodes to the value it was made from, and in
front of other bytes it is lifted as that value with exactly its own bytes consumed. -/
theorem decode_and_lift_of_encode {schema : Schema} {value : Value} {bytes : Bytes}
    (settled : value.InstantsSettled) (encoded : schema.encode value = .ok bytes) :
    schema.decode bytes = .ok value ∧
      ∀ more, schema.lift (bytes ++ more) = .ok (value, bytes.length) := by
  obtain ⟨size, written⟩ := toBytes_of_encode encoded
  obtain ⟨takes, _⟩ := (carries schema value settled).takes_of_toBytes written
  exact ⟨takes.liftExact, takes.lift⟩

/-- Repeated keys, the bits of a not-a-number and an instant more than a second before
the epoch all come back. -/
theorem decode_and_lift_of_encode_seen :
    let schema : Schema := .enumeration "event" [("none", []),
      ("seen", [("at", .timestamp), ("marks", .map (.scalar .u8) (.optional (.scalar .f32)))])]
    let value : Value := .variant "seen" [("at", .timestamp ⟨-1500000000, by decide, by decide⟩),
      ("marks", .map [(.scalar .u8 7, .absent),
        (.scalar .u8 7, .present (.scalar .f32 0x7fc00001))])]
    let bytes : Bytes := [0, 0, 0, 2, 255, 255, 255, 255, 255, 255, 255, 255, 29, 205, 101, 0,
      0, 0, 0, 2, 7, 0, 7, 1, 127, 192, 0, 1]
    value.InstantsSettled ∧ schema.encode value = .ok bytes ∧ schema.decode bytes = .ok value ∧
      schema.lift (bytes ++ [9, 9]) = .ok (value, 28) := by
  intro schema value bytes
  have settled : value.InstantsSettled := by
    intro instant within
    simp only [value] at within
    cases within with
    | content member inside =>
        simp only [List.mem_cons, List.not_mem_nil, or_false] at member
        rcases member with rfl | rfl
        · cases inside
          decide
        · cases inside with
          | key member inside | mapped member inside =>
              simp only [List.mem_cons, List.not_mem_nil, or_false] at member
              rcases member with rfl | rfl
              · cases inside
              · rcases inside with _ | ⟨⟨⟩⟩
  have encoded : schema.encode value = .ok bytes := by cbv
  have back := decode_and_lift_of_encode settled encoded
  exact ⟨settled, encoded, back.1, back.2 [9, 9]⟩

end Schema

end Boundary
