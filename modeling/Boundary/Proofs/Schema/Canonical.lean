import Boundary.Proofs.Schema.Conformance
import Boundary.Proofs.Wire.Production
import Mathlib

/-! # One encoding for every value

Whatever a schema reads conforms to it, and has the size of the bytes that were consumed
for it. Unless the schema has durations or timestamps, whose nanoseconds may carry, these
bytes are also the ones that the schema writes for the value
(`Boundary.Schema.read_produces`). So of all byte strings only the encoding of a value
is lifted as that value (`Boundary.Schema.size_and_encode_of_lift`). Variants are read by
position and written by name, for which reason names must not repeat.
-/

namespace Boundary

/-- The bytes belong to a value that `fits`. They are as many as its `size` says, and in an
`exact` format they are the ones that are written for it. -/
structure Read.Restored {α : Type} (fits : α → Prop) (size : α → Nat) (exact : Prop)
    (write : α → Write) (data : Bytes) (value : α) : Prop where
  fits : fits value
  size : size value = data.length
  emits : exact → (write value).Emits data

/-- What is read a number of times is restored item by item. -/
theorem Read.Produces.restored_times {α : Type} {item : Read α} {fits : α → Prop} {size : α → Nat}
    {exact : Prop} {write : α → Write} (each : item.Produces (Read.Restored fits size exact write))
    (count : Nat) :
    (Read.times item count).Produces fun data values => values.length = count ∧
      Read.Restored (fun values => ∀ value ∈ values, fits value)
        (fun values => (values.map size).sum) exact
        (fun values => Write.inOrder (values.map write)) data values := by
  refine each.times ⟨List.forall_mem_nil _, rfl, fun _ => .nothing⟩ ?_ count
  intro front value back values first others
  refine ⟨List.forall_mem_cons.mpr ⟨first.fits, others.fits⟩, ?_, ?_⟩
  · rw [List.map_cons, List.sum_cons, first.size, others.size, List.length_append]
  · intro exact
    exact (first.emits exact).seq (others.emits exact)

/-- An instant is read from twelve bytes. -/
theorem Instant.read_produces : Instant.read.Produces fun data _ => data.length = 12 := by
  refine (Read.Produces.word 8).bind ?_
  rintro _ seconds rfl
  refine (Read.Produces.word 4).bind ?_
  rintro _ nanos rfl
  dsimp only
  split
  · exact .pure rfl
  · exact .throwing _

/-- A duration is read from twelve bytes. -/
theorem Duration.read_produces : Duration.read.Produces fun data _ => data.length = 12 := by
  refine (Read.Produces.word 8).bind ?_
  rintro _ seconds rfl
  refine (Read.Produces.word 4).bind ?_
  rintro _ nanos rfl
  split
  · exact .pure rfl
  · exact .throwing _

theorem Handle.read_produces : Handle.read.Produces fun data handle =>
    data = BigEndian.encode 8 handle.raw.toNat :=
  (Read.Produces.word 8).returning fun _ _ holds => holds

namespace Schema

/-- No enumeration in the schema lists two variants of one name. -/
def VariantsDistinct (schema : Schema) : Prop :=
  ∀ name variants, (enumeration name variants).Within schema → (variants.map Prod.fst).Nodup

/-- The schema has neither timestamps nor durations. -/
def Timeless (schema : Schema) : Prop :=
  ∀ part : Schema, part.Within schema → part ≠ .timestamp ∧ part ≠ .duration

variable {piece schema : Schema}

/-- Where variants have distinct names, those of a part have. -/
theorem VariantsDistinct.part (distinct : schema.VariantsDistinct)
    (within : piece.Within schema) : piece.VariantsDistinct :=
  fun name variants inner => distinct name variants (inner.trans within)

/-- A part of a schema without times has none. -/
theorem Timeless.part (timeless : schema.Timeless) (within : piece.Within schema) :
    piece.Timeless :=
  fun inmost inner => timeless inmost (inner.trans within)

/-- The bytes are an encoding of the value under the schema. -/
abbrev Recovered (schema : Schema) : Bytes → Value → Prop :=
  Read.Restored schema.Conforms Value.wireSize schema.Timeless schema.write

/-- The bytes are encodings of the fields, one behind the other. -/
structure FieldsRecovered (declared : List (String × Schema)) (data : Bytes)
    (fields : List (String × Value)) : Prop where
  named : declared.map Prod.fst = fields.map Prod.fst
  conform : ∀ pair ∈ declared.zip fields, pair.1.2.Conforms pair.2.2
  size : Value.fieldsWireSize fields = data.length
  emits : (∀ field ∈ declared, field.2.Timeless) → (writeFields declared fields).Emits data

/-- Fields are recovered from what was consumed for them, if each of them is. -/
theorem readFields_produces {declared : List (String × Schema)}
    (each : ∀ field ∈ declared, field.2.read.Produces field.2.Recovered) :
    (readFields declared).Produces (FieldsRecovered declared) := by
  induction declared with
  | nil => exact .pure ⟨rfl, List.forall_mem_nil _, rfl, fun _ => .nothing⟩
  | cons first rest ih =>
      obtain ⟨name, schema⟩ := first
      have head := each (name, schema) List.mem_cons_self
      have tail := ih fun field member => each field (List.mem_cons_of_mem _ member)
      refine head.bind fun front value first => tail.returning fun back fields others => ?_
      refine ⟨congrArg (name :: ·) others.named, ?_, ?_, ?_⟩
      · exact List.forall_mem_cons.mpr ⟨first.fits, others.conform⟩
      · rw [Value.fieldsWireSize, first.size, others.size, List.length_append]
      · intro timeless
        obtain ⟨headTimeless, restTimeless⟩ := List.forall_mem_cons.mp timeless
        exact (first.emits headTimeless).seq (others.emits restTimeless)

/-- What a schema reads, it read from an encoding of it. -/
theorem read_produces (schema : Schema) (distinct : schema.VariantsDistinct) :
    schema.read.Produces schema.Recovered := by
  induction schema with
  | bool =>
      refine Read.Produces.byte.bind ?_
      rintro _ tag rfl
      split
      · exact .pure ⟨.bool false, rfl, fun _ => .bytes _⟩
      · exact .pure ⟨.bool true, rfl, fun _ => .bytes _⟩
      · exact .throwing _
  | scalar type =>
      refine (Read.Produces.word type.width).returning ?_
      rintro _ word rfl
      refine ⟨.scalar type word, (BigEndian.length_encode _ _).symm, fun _ => ?_⟩
      rw [Schema.write, if_pos rfl]
      exact .bytes _
  | string =>
      refine Read.Produces.text.returning ?_
      rintro _ text ⟨short, rfl⟩
      refine ⟨.string text, ?_, fun _ => .counted short⟩
      rw [List.length_append, BigEndian.length_encode]
      rfl
  | bytes =>
      refine Read.Produces.length.bind ?_
      rintro _ count ⟨short, rfl⟩
      refine (Read.Produces.bytes count).returning ?_
      rintro data _ ⟨rfl, rfl⟩
      refine ⟨.bytes data, ?_, fun _ => .counted short⟩
      rw [List.length_append, BigEndian.length_encode]
      rfl
  | timestamp =>
      refine Instant.read_produces.returning fun data instant length => ?_
      exact ⟨.timestamp instant, length.symm, fun timeless => absurd rfl (timeless _ .self).1⟩
  | duration =>
      refine Duration.read_produces.returning fun data duration length => ?_
      exact ⟨.duration duration, length.symm, fun timeless => absurd rfl (timeless _ .self).2⟩
  | object name =>
      refine Handle.read_produces.returning ?_
      rintro _ handle rfl
      exact ⟨.object name handle, (BigEndian.length_encode _ _).symm, fun _ => .bytes _⟩
  | optional item ih =>
      refine Read.Produces.byte.bind ?_
      rintro _ tag rfl
      split
      · exact .pure ⟨.absent item, rfl, fun _ => .bytes _⟩
      · refine (ih (distinct.part (.optional .self))).returning fun data value held => ?_
        refine ⟨.present held.fits, ?_, fun timeless => ?_⟩
        · rw [Value.wireSize, held.size, List.length_append, BigEndian.length_encode]
        · exact (Write.Emits.bytes _).seq (held.emits (timeless.part (.optional .self)))
      · exact .throwing _
  | sequence item ih =>
      refine Read.Produces.length.bind ?_
      rintro _ count ⟨short, rfl⟩
      refine ((ih (distinct.part (.sequence .self))).restored_times count).returning ?_
      rintro data values ⟨rfl, held⟩
      refine ⟨.sequence held.fits, ?_, fun timeless => ?_⟩
      · rw [Value.wireSize, Value.itemsWireSize_eq_sum, held.size, List.length_append,
          BigEndian.length_encode]
      · exact (Write.Emits.length short).seq (held.emits (timeless.part (.sequence .self)))
  | map key mapped keyIH mappedIH =>
      have entry : Read.Produces (do return (← key.read, ← mapped.read))
          (Read.Restored (fun entry => key.Conforms entry.1 ∧ mapped.Conforms entry.2)
            (fun entry => entry.1.wireSize + entry.2.wireSize) (Schema.map key mapped).Timeless
            fun entry => do key.write entry.1; mapped.write entry.2) := by
        refine (keyIH (distinct.part (.key .self))).bind fun front name nameHeld => ?_
        refine (mappedIH (distinct.part (.mapped .self))).returning fun back value held => ?_
        refine ⟨⟨nameHeld.fits, held.fits⟩, ?_, fun timeless => ?_⟩
        · rw [nameHeld.size, held.size, List.length_append]
        · exact (nameHeld.emits (timeless.part (.key .self))).seq
            (held.emits (timeless.part (.mapped .self)))
      refine Read.Produces.length.bind ?_
      rintro _ count ⟨short, rfl⟩
      refine (entry.restored_times count).returning ?_
      rintro data entries ⟨rfl, held⟩
      refine ⟨.map (fun entry member => (held.fits entry member).1)
        (fun entry member => (held.fits entry member).2), ?_, fun timeless => ?_⟩
      · rw [Value.wireSize, Value.entriesWireSize_eq_sum, held.size, List.length_append,
          BigEndian.length_encode]
      · exact (Write.Emits.length short).seq (held.emits timeless)
  | record name declared ih =>
      have each := readFields_produces fun field member =>
        ih field member (distinct.part (.field member .self))
      refine each.returning fun data fields held => ?_
      refine ⟨.record held.named held.conform, held.size, fun timeless => ?_⟩
      rw [Schema.write, ofExcept_bind_of_ok (checkFields_eq_ok_iff.mpr held.named)]
      exact held.emits fun field member => timeless.part (.field member .self)
  | enumeration name variants ih =>
      refine (Read.Produces.discriminant name variants.length).bind ?_
      rintro _ position ⟨known, early, rfl⟩
      rw [readVariants_eq_map, List.getElem?_map]
      cases listed : variants[position]? with
      | none => exact .throwing _
      | some variant =>
          obtain ⟨variantName, declared⟩ := variant
          have member := List.mem_of_getElem? listed
          -- What was chosen by its position is written by its name.
          have found := variant?_of_getElem? (distinct name variants .self) listed
          have each := readFields_produces fun field inner =>
            ih _ member field inner (distinct.part (.content member inner .self))
          refine each.returning fun data fields held => ?_
          refine ⟨.variant found held.named held.conform, ?_, fun timeless => ?_⟩
          · rw [Value.wireSize, held.size, List.length_append, BigEndian.length_encode]
          · have checked := ofExcept_bind_of_ok
              ((@checkFields_eq_ok_iff name declared fields).mpr held.named)
            simp only [Schema.write, writeVariant_eq, found, Nat.zero_add, checked]
            exact (Write.Emits.discriminant early).seq
              (held.emits fun field inner => timeless.part (.content member inner .self))

/-- **A lifted value conforms and has one encoding.** It has the size of the bytes it was lifted
from. Without timestamps and durations it is encoded as these bytes, being no more than memory
can hold, and no others are lifted as it. -/
theorem size_and_encode_of_lift {schema : Schema} (distinct : schema.VariantsDistinct)
    {bytes : Bytes} {value : Value} {consumed : Nat}
    (lifted : schema.lift bytes = .ok (value, consumed)) :
    schema.Conforms value ∧ schema.size value = .ok consumed ∧
      (schema.Timeless →
        (consumed < signedLimit → schema.encode value = .ok (bytes.take consumed)) ∧
        ∀ others count, schema.lift others = .ok (value, count) →
          others.take count = bytes.take consumed) := by
  have produces := schema.read_produces distinct
  obtain ⟨length, fits, size, emits⟩ := produces.of_lift lifted
  have sized : schema.size value = .ok consumed :=
    (size_eq_ok_iff schema value _).mpr ⟨fits, by rw [size, length]⟩
  refine ⟨fits, sized, fun timeless => ⟨fun short => ?_, fun others count again => ?_⟩⟩
  · rw [encode_of_size sized]
    exact (Lowering.toBytes_eq_ok_iff (emits timeless)).mpr
      ⟨length.symm, length.symm ▸ short, rfl⟩
  · exact ((produces.of_lift again).2.emits timeless).unique (emits timeless)

/-- Bytes that follow the value do not matter, and the fields of a variant stay its own. -/
theorem size_and_encode_of_lift_remark :
    let schema : Schema := .enumeration "note" [("none", []), ("remark", [("text", .string)])]
    let bytes : Bytes := [0, 0, 0, 2, 0, 0, 0, 2, 104, 105, 77]
    let value : Value := .variant "remark" [("text", .string "hi")]
    schema.VariantsDistinct ∧ schema.Timeless ∧ schema.lift bytes = .ok (value, 10) ∧
      schema.Conforms value ∧ schema.size value = .ok 10 ∧
      schema.encode value = .ok [0, 0, 0, 2, 0, 0, 0, 2, 104, 105] := by
  intro schema bytes value
  have lifted : schema.lift bytes = .ok (value, 10) := by cbv
  have pieces : ∀ piece : Schema, piece.Within schema → piece = schema ∨ piece = .string := by
    intro piece within
    change piece.Within (.enumeration _ _) at within
    cases within with
    | self => exact .inl rfl
    | content variantMember fieldMember inner =>
        simp only [List.mem_cons, List.not_mem_nil, or_false] at variantMember
        rcases variantMember with rfl | rfl
        · cases fieldMember
        · obtain rfl := List.mem_singleton.mp fieldMember
          cases inner
          exact .inr rfl
  have distinct : schema.VariantsDistinct := by
    intro name variants within
    rcases pieces _ within with same | same
    · obtain ⟨_, rfl⟩ := Schema.enumeration.inj same
      decide
    · cases same
  have timeless : schema.Timeless := by
    intro piece within
    rcases pieces _ within with rfl | rfl
    · simp [schema]
    · simp
  obtain ⟨conforms, sized, canonical⟩ := size_and_encode_of_lift distinct lifted
  exact ⟨distinct, timeless, lifted, conforms, sized, (canonical timeless).1 (by decide)⟩

end Schema

end Boundary
