import Boundary.Schema.Decoding
import Boundary.Schema.Encoding

/-! # The recursive structure of schemas and values

A schema is built from the schemas of its fields and variants, and what holds of a
schema whenever it holds of these holds of all schemas (`Boundary.Schema.induction`).
A value is within another when it is found by descending into the other's items,
entries and fields (`Boundary.Value.Within`), and a schema within another likewise
(`Boundary.Schema.Within`).

Fields pass their check exactly when they have the declared names in the declared order
(`Boundary.Schema.checkFields_eq_ok_iff`). The variant that a value names is looked up
once, as the first of its name, and is written and read by its position
(`Boundary.Schema.writeVariant_eq`, `Boundary.Schema.readVariants_eq_map`).
-/

namespace Boundary

/-- The value `part` is the given value itself or is found somewhere inside it. -/
inductive Value.Within (part : Value) : Value → Prop
  | self : Within part part
  | present {item : Value} : Within part item → Within part (.present item)
  | item {items : List Value} {item : Value} : item ∈ items → Within part item →
      Within part (.sequence items)
  | key {entries : List (Value × Value)} {entry : Value × Value} : entry ∈ entries →
      Within part entry.1 → Within part (.map entries)
  | mapped {entries : List (Value × Value)} {entry : Value × Value} : entry ∈ entries →
      Within part entry.2 → Within part (.map entries)
  | field {fields : List (String × Value)} {field : String × Value} : field ∈ fields →
      Within part field.2 → Within part (.record fields)
  | content {name : String} {fields : List (String × Value)} {field : String × Value} :
      field ∈ fields → Within part field.2 → Within part (.variant name fields)

namespace Schema

/-- The schema `part` is the given schema itself or is found somewhere inside it. -/
inductive Within (part : Schema) : Schema → Prop
  | self : Within part part
  | optional {item : Schema} : Within part item → Within part (.optional item)
  | sequence {item : Schema} : Within part item → Within part (.sequence item)
  | key {key mapped : Schema} : Within part key → Within part (.map key mapped)
  | mapped {key mapped : Schema} : Within part mapped → Within part (.map key mapped)
  | field {name : String} {fields : List (String × Schema)} {field : String × Schema} :
      field ∈ fields → Within part field.2 → Within part (.record name fields)
  | content {name : String} {variants : List (String × List (String × Schema))}
      {variant : String × List (String × Schema)} {field : String × Schema} :
      variant ∈ variants → field ∈ variant.2 → Within part field.2 →
      Within part (.enumeration name variants)

/-- A part of a part is a part. -/
theorem Within.trans {part middle whole : Schema} (inner : part.Within middle)
    (outer : middle.Within whole) : part.Within whole := by
  induction outer with
  | self => exact inner
  | optional _ ih => exact .optional ih
  | sequence _ ih => exact .sequence ih
  | key _ ih => exact .key ih
  | mapped _ ih => exact .mapped ih
  | field member _ ih => exact .field member ih
  | content listed member _ ih => exact .content listed member ih

/-- Induction over schemas. The fields of records and variants are reached through the
lists that hold them. -/
@[elab_as_elim, induction_eliminator]
theorem induction {motive : Schema → Prop}
    (bool : motive .bool) (scalar : ∀ type, motive (.scalar type)) (string : motive .string)
    (bytes : motive .bytes) (timestamp : motive .timestamp) (duration : motive .duration)
    (object : ∀ name, motive (.object name))
    (optional : ∀ item, motive item → motive (.optional item))
    (sequence : ∀ item, motive item → motive (.sequence item))
    (map : ∀ key value, motive key → motive value → motive (.map key value))
    (record : ∀ name fields, (∀ field ∈ fields, motive field.2) → motive (.record name fields))
    (enumeration : ∀ name variants, (∀ variant ∈ variants, ∀ field ∈ variant.2, motive field.2) →
      motive (.enumeration name variants))
    (schema : Schema) : motive schema :=
  @Schema.rec motive (fun fields => ∀ field ∈ fields, motive field.2)
    (fun variants => ∀ variant ∈ variants, ∀ field ∈ variant.2, motive field.2)
    (fun field => motive field.2) (fun variant => ∀ field ∈ variant.2, motive field.2)
    bool scalar string bytes timestamp duration object optional sequence map record enumeration
    (fun _ member => nomatch member) (fun _ _ head tail => List.forall_mem_cons.mpr ⟨head, tail⟩)
    (fun _ member => nomatch member) (fun _ _ head tail => List.forall_mem_cons.mpr ⟨head, tail⟩)
    (fun _ _ => id) (fun _ _ => id) schema

/-- Of as many fields as declared, none is out of place exactly when the names agree. -/
theorem find?_misnamed_eq_none_iff {declared : List (String × Schema)}
    {fields : List (String × Value)} (counted : declared.length = fields.length) :
    ((declared.zip fields).find? fun (field, given) => field.1 ≠ given.1) = none ↔
      declared.map Prod.fst = fields.map Prod.fst := by
  induction declared generalizing fields with
  | nil =>
      cases fields with
      | nil => exact ⟨fun _ => rfl, fun _ => rfl⟩
      | cons _ _ => cases counted
  | cons first rest ih =>
      cases fields with
      | nil => cases counted
      | cons given others =>
          have shorter : rest.length = others.length := Nat.succ.inj counted
          rw [List.zip_cons_cons, List.map_cons, List.map_cons, List.cons.injEq, ← ih shorter]
          by_cases same : first.1 = given.1
          · simp only [List.find?_cons, same, ne_eq, not_true_eq_false, decide_false, true_and]
          · simp only [List.find?_cons, same, ne_eq, not_false_eq_true, decide_true, false_and,
              reduceCtorEq]

/-- Fields are accepted exactly when they have the declared names in the declared order. -/
theorem checkFields_eq_ok_iff {typeName : String} {declared : List (String × Schema)}
    {fields : List (String × Value)} : checkFields typeName declared fields = .ok () ↔
      declared.map Prod.fst = fields.map Prod.fst := by
  unfold checkFields
  by_cases counted : declared.length = fields.length
  · rw [if_neg (not_not_intro counted), ← find?_misnamed_eq_none_iff counted]
    split
    · next found => simp only [found, reduceCtorEq]
    · next found => simp only [found]
  · rw [if_pos counted]
    constructor
    · intro accepted
      cases accepted
    · intro same
      have lengths := congrArg List.length same
      rw [List.length_map, List.length_map] at lengths
      exact absurd lengths counted

/-- A variant that is found by its name stands at the position that is found. -/
theorem getElem?_of_variant?_eq_some {variants : List (String × List (String × Schema))}
    {name : String} {position : Nat} {declared : List (String × Schema)}
    (found : variant? variants name = some (position, declared)) :
    variants[position]? = some (name, declared) := by
  induction variants generalizing position with
  | nil => cases found
  | cons first rest ih =>
      obtain ⟨firstName, firstFields⟩ := first
      unfold variant? at found
      split at found
      · next same =>
        cases found
        rw [List.getElem?_cons_zero, same]
      · obtain ⟨⟨restPosition, restDeclared⟩, restFound, same⟩ := Option.map_eq_some_iff.mp found
        cases same
        rw [List.getElem?_cons_succ]
        exact ih restFound

/-- A variant is found by its name if no two have the same. -/
theorem variant?_of_getElem? {variants : List (String × List (String × Schema))}
    (distinct : (variants.map Prod.fst).Nodup) {name : String} {position : Nat}
    {declared : List (String × Schema)} (listed : variants[position]? = some (name, declared)) :
    variant? variants name = some (position, declared) := by
  induction variants generalizing position with
  | nil => cases listed
  | cons first rest ih =>
      obtain ⟨firstName, firstFields⟩ := first
      rw [List.map_cons, List.nodup_cons] at distinct
      cases position with
      | zero =>
          cases listed
          exact if_pos rfl
      | succ position =>
          rw [List.getElem?_cons_succ] at listed
          have differs : firstName ≠ name := by
            rintro rfl
            exact distinct.1 (List.mem_map.mpr ⟨_, List.mem_of_getElem? listed, rfl⟩)
          rw [variant?, if_neg differs, ih distinct.2 listed]
          rfl

/-- A variant is written as the first one of its name. -/
theorem writeVariant_eq (typeName : String) (variants : List (String × List (String × Schema)))
    (passed : Nat) (variant : String) (fields : List (String × Value)) :
    writeVariant typeName variants passed variant fields =
      match variant? variants variant with
      | none => Act.fail (unknownVariant typeName variant)
      | some (position, declared) => (do
        Write.discriminant (passed + position)
        Act.ofExcept (checkFields typeName declared fields)
        writeFields declared fields) := by
  induction variants generalizing passed with
  | nil => simp only [writeVariant, variant?]
  | cons first rest ih =>
      obtain ⟨name, declared⟩ := first
      by_cases same : name = variant
      · simp only [writeVariant, variant?, same, ↓reduceIte, Nat.add_zero]
      · simp only [writeVariant, variant?, same, ↓reduceIte, ih]
        cases variant? rest variant with
        | none => rfl
        | some found => simp only [Option.map_some, Nat.add_assoc, Nat.add_comm 1]

/-- An encoding is what the write leaves in memory of some size. -/
theorem toBytes_of_encode {schema : Schema} {value : Value} {bytes : Bytes}
    (encoded : schema.encode value = .ok bytes) :
    ∃ size, Lowering.toBytes ⟨size, schema.write value⟩ = .ok bytes := by
  unfold encode at encoded
  cases sized : schema.size value with
  | error cause =>
      rw [sized] at encoded
      cases encoded
  | ok size =>
      rw [sized] at encoded
      exact ⟨size, encoded⟩

/-- Once a size is known, it is filled. -/
theorem encode_of_size {schema : Schema} {value : Value} {size : Nat}
    (sized : schema.size value = .ok size) :
    schema.encode value = Lowering.toBytes ⟨size, schema.write value⟩ := by
  unfold encode
  rw [sized]
  rfl

/-- A check that passes leaves no trace. -/
theorem ofExcept_bind_of_ok {check : Except CodecError Unit} (passes : check = .ok ())
    (write : Write) : (do Act.ofExcept check; write) = write := by
  rw [passes]
  rfl

/-- Each variant is read as its fields under its name. -/
theorem readVariants_eq_map (variants : List (String × List (String × Schema))) :
    readVariants variants =
      variants.map fun variant => do return .variant variant.1 (← readFields variant.2) := by
  induction variants with
  | nil => rfl
  | cons first rest ih => simp only [readVariants, ih, List.map_cons]

end Schema

end Boundary
