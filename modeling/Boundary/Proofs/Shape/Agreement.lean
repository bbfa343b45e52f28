import Boundary.Proofs.Entries
import Boundary.Proofs.Wire.Agreement
import Boundary.Proofs.Wire.Emission
import Boundary.Schema.Decoding
import Boundary.Schema.Encoding
import Boundary.Shape.Decoding
import Boundary.Shape.Encoding
import Mathlib

/-! # Shapes agree with the schemas that lay them out

Values are encoded and decoded along a shape or along a schema, by definitions that do
not refer to each other. Where the schema lays out the shape both say the same
(`Boundary.Shape.agrees_with_schema`): a value of the shape has the encoding of the value
on its own, and every input is refused with the same fault or decoded to values that
correspond, of which only the one of the shape forgets the earlier entries of a key.
-/

namespace Boundary.Shape

/-- A schema with the structure of a shape. A handle may be of any object type. -/
inductive LaidOutBy : Shape → Schema → Prop
  | scalar (type : Scalar) : LaidOutBy (.scalar type) (.scalar type)
  | bool : LaidOutBy .bool .bool
  | string : LaidOutBy .string .string
  | duration : LaidOutBy .duration .duration
  | instant : LaidOutBy .instant .timestamp
  | handle (name : String) : LaidOutBy .handle (.object name)
  | optional {item : Shape} {schema : Schema} (laid : item.LaidOutBy schema) :
      LaidOutBy (.optional item) (.optional schema)
  | list {item : Shape} {schema : Schema} (laid : item.LaidOutBy schema) :
      LaidOutBy (.list item) (.sequence schema)
  | map {key value : Shape} {keySchema valueSchema : Schema} (keyLaid : key.LaidOutBy keySchema)
      (valueLaid : value.LaidOutBy valueSchema) :
      LaidOutBy (.map key value) (.map keySchema valueSchema)

/-- A shape is laid out by its own schema. -/
theorem laidOutBy_schema (shape : Shape) : shape.LaidOutBy shape.schema := by
  induction shape with
  | scalar type => exact .scalar type
  | bool => exact .bool
  | string => exact .string
  | duration => exact .duration
  | instant => exact .instant
  | handle => exact .handle ""
  | optional item ih => exact .optional ih
  | list item ih => exact .list ih
  | map key value keyIH valueIH => exact .map keyIH valueIH

/-- A value on its own says the same as a value of the shape. A list of entries that repeats
keys says what the last entry of each key does, in whatever order the map is traversed. -/
def Represents : (shape : Shape) → shape.Carrier → Value → Prop
  | scalar type, word, dynamic => dynamic = .scalar type word
  | bool, truth, dynamic => dynamic = .bool truth
  | string, text, dynamic => dynamic = .string text
  | duration, length, dynamic => dynamic = .duration length
  | instant, time, dynamic => dynamic = .timestamp time
  | handle, name, dynamic => dynamic = .object name
  | optional _, none, dynamic => dynamic = .absent
  | optional item, some value, dynamic =>
      ∃ held, item.Represents value held ∧ dynamic = .present held
  | list item, items, dynamic =>
      ∃ held, List.Forall₂ item.Represents items held ∧ dynamic = .sequence held
  | map key value, entries, dynamic =>
      ∃ pairs listed,
        List.Forall₂ (fun pair entry =>
          key.Represents pair.1 entry.1 ∧ value.Represents pair.2 entry.2) pairs listed ∧
        (∀ name, entries.get? name = Entries.lastValue? pairs name) ∧ dynamic = .map listed

/-- The value on its own that is made of a value of a shape says the same. -/
theorem represents_toValue (shape : Shape) (value : shape.Carrier) :
    shape.Represents value (shape.toValue value) := by
  induction shape with
  | scalar | bool | string | duration | instant | handle => rfl
  | optional item ih =>
      cases value with
      | none => rfl
      | some value => exact ⟨_, ih value, rfl⟩
  | list item ih =>
      exact ⟨_, List.forall₂_map_right_iff.mpr (List.forall₂_same.mpr fun value _ => ih value), rfl⟩
  | map key value keyIH valueIH =>
      refine ⟨Entries.toList value, _, ?_, ?_, rfl⟩
      · exact List.forall₂_map_right_iff.mpr
          (List.forall₂_same.mpr fun entry _ => ⟨keyIH entry.1, valueIH entry.2⟩)
      · exact Entries.get?_eq_lastValue? value

variable {shape : Shape} {schema : Schema}

section Encoding

variable {α β : Type} {counterpart : α → β} {lowering : α → Lowering}

/-- The sizes of counterparts add up to the size of the lowerings. -/
theorem sumSizes_map {sizeOf : β → Except CodecError Nat}
    (each : ∀ item, sizeOf (counterpart item) = .ok (lowering item).size)
    (items : List α) (total : Nat) :
    Schema.sumSizes sizeOf (items.map counterpart) total =
      .ok (total + Lowering.totalSize (items.map lowering)) := by
  induction items generalizing total with
  | nil => exact congrArg Except.ok (Nat.add_zero total).symm
  | cons item rest ih =>
      rw [List.map_cons, List.map_cons, Lowering.totalSize_cons, ← Nat.add_assoc,
        Schema.sumSizes, each]
      exact ih (total + (lowering item).size)

/-- A sequence of counterparts is written as the sequence of lowerings. -/
theorem write_sequence {part : β → Write}
    (each : ∀ item, part (counterpart item) = (lowering item).write) (items : List α) :
    (do Write.length (items.map counterpart).length
        Write.inOrder ((items.map counterpart).map part)) =
      (Lowering.sequence (items.map lowering)).write := by
  have parts : part ∘ counterpart = Lowering.write ∘ lowering := funext each
  unfold Lowering.sequence
  rw [List.length_map, List.length_map, List.map_map, List.map_map, parts]

/-- The schema announces the size that the shape does. -/
theorem size_toValue (laid : shape.LaidOutBy schema) (value : shape.Carrier) :
    schema.size (shape.toValue value) = .ok (shape.lowering value).size := by
  induction laid with
  | scalar type => exact if_pos rfl
  | bool | string | duration | instant | handle => rfl
  | optional laid ih =>
      cases value with
      | none => rfl
      | some value =>
          simp only [toValue, Schema.size, ih]
          rfl
  | list laid ih => exact sumSizes_map ih value 4
  | map keyLaid valueLaid keyIH valueIH =>
      refine sumSizes_map (fun entry => ?_) (Entries.toList value) 4
      simp only [keyIH, valueIH]
      rfl

/-- The schema writes what the shape does. -/
theorem write_toValue (laid : shape.LaidOutBy schema) (value : shape.Carrier) :
    schema.write (shape.toValue value) = (shape.lowering value).write := by
  induction laid with
  | scalar type => exact if_pos rfl
  | bool | string | duration | instant | handle => rfl
  | optional laid ih =>
      cases value with
      | none => rfl
      | some value =>
          simp only [toValue, Schema.write, ih]
          rfl
  | list laid ih => exact write_sequence ih value
  | map keyLaid valueLaid keyIH valueIH =>
      refine write_sequence (fun entry => ?_) (Entries.toList value)
      simp only [keyIH, valueIH]
      rfl

/-- The schema encodes the counterpart of a value as the shape does the value. -/
theorem encode_toValue (laid : shape.LaidOutBy schema) (value : shape.Carrier) :
    schema.encode (shape.toValue value) = shape.encode value := by
  unfold Schema.encode
  rw [size_toValue laid, write_toValue laid]
  rfl

end Encoding

section Decoding

variable {α β : Type} {related : α → β → Prop} {read : Read α} {other : Read β}

/-- Sequences are read alike if their items are. -/
theorem sequence_agrees {outcome : List α → Value → Prop} {result : List β → Value}
    (each : read.Agrees related other)
    (wraps : ∀ items held, List.Forall₂ related items held → outcome items (result held)) :
    Read.Agrees outcome (Read.sequence read)
      (do
        let count ← Read.length
        return result (← Read.times other count)) := by
  refine (Read.Agrees.refl Read.length).bind ?_
  rintro count _ rfl
  exact (each.times count).wrapped wraps

/-- The schema lists every entry that is read, also those whose key comes again. -/
theorem entries_agree {key value : Shape} {keySchema valueSchema : Schema}
    (keyAgrees : Read.Agrees key.Represents key.read keySchema.read)
    (valueAgrees : Read.Agrees value.Represents value.read valueSchema.read) :
    Read.Agrees
      (fun (pairs : List (key.Carrier × value.Carrier)) dynamic =>
        ∃ listed, List.Forall₂ (fun pair entry =>
          key.Represents pair.1 entry.1 ∧ value.Represents pair.2 entry.2) pairs listed ∧
          dynamic = .map listed)
      (Read.sequence (do return (← key.read, ← value.read)))
      (Schema.map keySchema valueSchema).read := by
  refine sequence_agrees ?_ fun pairs listed alike => ⟨listed, alike, rfl⟩
  exact keyAgrees.bind fun _ _ keyAlike =>
    valueAgrees.bind fun _ _ valueAlike => .pure ⟨keyAlike, valueAlike⟩

/-- The schema reads what the shape does. -/
theorem read_agrees (laid : shape.LaidOutBy schema) :
    Read.Agrees shape.Represents shape.read schema.read := by
  induction laid with
  | scalar type => exact .wrap type.read (Value.scalar type)
  | bool =>
      refine (Read.Agrees.refl Read.byte).bind ?_
      rintro tag _ rfl
      rcases tag with _ | _ | tag
      · exact .pure rfl
      · exact .pure rfl
      · exact .throwing _
  | string => exact .wrap Utf8.read Value.string
  | duration => exact .wrap Duration.read Value.duration
  | instant => exact .wrap Instant.read Value.timestamp
  | handle name => exact .wrap Handle.read Value.object
  | optional laid ih =>
      refine (Read.Agrees.refl Read.byte).bind ?_
      rintro tag _ rfl
      rcases tag with _ | _ | tag
      · exact .pure rfl
      · exact ih.bind fun value held alike => .pure ⟨held, alike, rfl⟩
      · exact .throwing _
  | list laid ih => exact sequence_agrees ih fun items held alike => ⟨held, alike, rfl⟩
  | map keyLaid valueLaid keyIH valueIH =>
      -- Only here do the values part: the shape drops entries that the schema lists.
      refine (entries_agree keyIH valueIH).reworked ?_
      rintro pairs dynamic ⟨listed, alike, said⟩
      exact ⟨pairs, listed, alike, Entries.get?_ofList pairs, said⟩

end Decoding

/-- **A shape and the schema that lays it out are encoded and decoded alike**: the same bytes
or fault for every value, and for every input the same fault or corresponding values. -/
theorem agrees_with_schema (laid : shape.LaidOutBy schema) :
    (∀ value, shape.encode value = schema.encode (shape.toValue value)) ∧
      ∀ bytes,
        (∃ value dynamic, shape.Represents value dynamic ∧
          shape.decode bytes = .ok value ∧ schema.decode bytes = .ok dynamic) ∨
        ∃ fault, shape.decode bytes = .error fault ∧ schema.decode bytes = .error fault :=
  ⟨fun value => (encode_toValue laid value).symm, (read_agrees laid).liftExact⟩

/-- Two entries of one key, the second of which is the one that counts. -/
theorem agrees_with_schema_repeated_key :
    LaidOutBy (.map .string (.optional .handle)) (.map .string (.optional (.object "Store"))) ∧
      ∃ value dynamic, Represents (.map .string (.optional .handle)) value dynamic ∧
        decode (.map .string (.optional .handle))
          [0, 0, 0, 2, 0, 0, 0, 1, 97, 1, 0, 0, 0, 0, 0, 0, 0, 7, 0, 0, 0, 1, 97, 0] = .ok value ∧
        dynamic = .map [(.string "a", .present (.object ⟨7⟩)), (.string "a", .absent)] := by
  have laid : LaidOutBy (.map .string (.optional .handle))
      (.map .string (.optional (.object "Store"))) :=
    .map .string (.optional (.handle "Store"))
  have listed : (Schema.map .string (.optional (.object "Store"))).decode
      [0, 0, 0, 2, 0, 0, 0, 1, 97, 1, 0, 0, 0, 0, 0, 0, 0, 7, 0, 0, 0, 1, 97, 0] =
      .ok (.map [(.string "a", .present (.object ⟨7⟩)), (.string "a", .absent)]) := by cbv
  refine ⟨laid, ?_⟩
  rcases (agrees_with_schema laid).2 _ with ⟨value, dynamic, alike, decoded, other⟩ |
    ⟨fault, _, other⟩
  · rw [listed] at other
    cases other
    exact ⟨value, _, alike, decoded, rfl⟩
  · rw [listed] at other
    cases other

end Boundary.Shape
