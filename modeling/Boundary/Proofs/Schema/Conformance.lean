import Boundary.Proofs.Schema.Structure
import Boundary.Proofs.Sequencing
import Mathlib.Algebra.Ring.Nat

/-! # Values that conform to a schema

A value conforms to a schema when it has the kind that the schema asks for at every node
(`Boundary.Schema.Conforms`). How many bytes its encoding takes is then a matter of the
value alone (`Boundary.Value.wireSize`). A size is computed for exactly the values that
conform, and it is this number (`Boundary.Schema.size_eq_ok_iff`).
-/

namespace Boundary

namespace Value

mutual

/-- The number of bytes in the encoding of a value. -/
def wireSize : Value → Nat
  | bool _ => 1
  | scalar type _ => type.width
  | string text => 4 + Utf8.size text
  | bytes data => 4 + data.length
  | timestamp _ => 12
  | duration _ => 12
  | object _ => 8
  | absent => 1
  | present item => 1 + item.wireSize
  | sequence items => 4 + itemsWireSize items
  | map entries => 4 + entriesWireSize entries
  | record fields => fieldsWireSize fields
  | variant _ fields => 4 + fieldsWireSize fields
termination_by structural value => value

/-- The number of bytes that items take. -/
def itemsWireSize : List Value → Nat
  | [] => 0
  | item :: items => item.wireSize + itemsWireSize items
termination_by structural items => items

/-- The number of bytes that keys and values take. -/
def entriesWireSize : List (Value × Value) → Nat
  | [] => 0
  | (key, value) :: entries => key.wireSize + value.wireSize + entriesWireSize entries
termination_by structural entries => entries

/-- The number of bytes that field values take. -/
def fieldsWireSize : List (String × Value) → Nat
  | [] => 0
  | (_, value) :: fields => value.wireSize + fieldsWireSize fields
termination_by structural fields => fields

end

theorem itemsWireSize_eq_sum (items : List Value) :
    itemsWireSize items = (items.map wireSize).sum := by
  induction items with
  | nil => rfl
  | cons item items ih => rw [itemsWireSize, ih, List.map_cons, List.sum_cons]

/-- The size of some entries is the sum of theirs. -/
theorem entriesWireSize_eq_sum (entries : List (Value × Value)) :
    entriesWireSize entries =
      (entries.map fun entry => entry.1.wireSize + entry.2.wireSize).sum := by
  induction entries with
  | nil => rfl
  | cons entry entries ih => rw [entriesWireSize, ih, List.map_cons, List.sum_cons]

end Value

namespace Schema

/-- The value has the kind that the schema asks for, at every node. Fields have the declared
names in the declared order, and a variant is the first one of its name. -/
inductive Conforms : Schema → Value → Prop
  | bool (truth : Bool) : Conforms .bool (.bool truth)
  | scalar (type : Scalar) (word : type.Word) : Conforms (.scalar type) (.scalar type word)
  | string (text : String) : Conforms .string (.string text)
  | bytes (data : Bytes) : Conforms .bytes (.bytes data)
  | timestamp (instant : Instant) : Conforms .timestamp (.timestamp instant)
  | duration (length : Duration) : Conforms .duration (.duration length)
  | object (name : String) (handle : Handle) : Conforms (.object name) (.object handle)
  | absent (item : Schema) : Conforms (.optional item) .absent
  | present {item : Schema} {value : Value} (inner : item.Conforms value) :
      Conforms (.optional item) (.present value)
  | sequence {item : Schema} {values : List Value} (each : ∀ value ∈ values, item.Conforms value) :
      Conforms (.sequence item) (.sequence values)
  | map {key mapped : Schema} {entries : List (Value × Value)}
      (keys : ∀ entry ∈ entries, key.Conforms entry.1)
      (values : ∀ entry ∈ entries, mapped.Conforms entry.2) :
      Conforms (.map key mapped) (.map entries)
  | record {name : String} {declared : List (String × Schema)} {fields : List (String × Value)}
      (named : declared.map Prod.fst = fields.map Prod.fst)
      (each : ∀ pair ∈ declared.zip fields, pair.1.2.Conforms pair.2.2) :
      Conforms (.record name declared) (.record fields)
  | variant {name variant : String} {variants : List (String × List (String × Schema))}
      {position : Nat} {declared : List (String × Schema)} {fields : List (String × Value)}
      (found : variant? variants variant = some (position, declared))
      (named : declared.map Prod.fst = fields.map Prod.fst)
      (each : ∀ pair ∈ declared.zip fields, pair.1.2.Conforms pair.2.2) :
      Conforms (.enumeration name variants) (.variant variant fields)

/-- A computed size that is the right one of a value that fits. -/
theorem ok_size_iff {fits : Prop} (fit : fits) {computed size : Nat} :
    (Except.ok computed : Except CodecError Nat) = .ok size ↔ fits ∧ size = computed :=
  ⟨fun same => ⟨fit, (Except.ok.inj same).symm⟩, fun both => congrArg Except.ok both.2.symm⟩

/-- A refusal of a value that does not fit. -/
theorem refused_size_iff {fits : Prop} (misfit : ¬ fits) {cause : CodecError}
    {expected size : Nat} :
    (Except.error cause : Except CodecError Nat) = .ok size ↔ fits ∧ size = expected :=
  ⟨fun same => (nomatch same), fun both => absurd both.1 misfit⟩

/-- Sizes are added up if every item has one. -/
theorem sumSizes_eq_ok_iff {α : Type} {sizeOf : α → Except CodecError Nat} {fits : α → Prop}
    {count : α → Nat} {items : List α}
    (each : ∀ item ∈ items, ∀ size,
      sizeOf item = .ok size ↔ fits item ∧ size = count item)
    (total size : Nat) : sumSizes sizeOf items total = .ok size ↔
      (∀ item ∈ items, fits item) ∧ size = total + (items.map count).sum := by
  induction items generalizing total with
  | nil =>
      rw [sumSizes, Except.ok.injEq, List.map_nil, List.sum_nil]
      constructor
      · rintro rfl
        exact ⟨List.forall_mem_nil _, (Nat.add_zero total).symm⟩
      · rintro ⟨_, same⟩
        exact ((Nat.add_zero total).symm.trans same.symm)
  | cons item items ih =>
      have first := each item List.mem_cons_self
      have others := ih fun other member => each other (List.mem_cons_of_mem _ member)
      rw [sumSizes, except_bind_eq_ok_iff, List.forall_mem_cons, List.map_cons, List.sum_cons,
        ← Nat.add_assoc]
      constructor
      · rintro ⟨middle, sized, rest⟩
        obtain ⟨fit, rfl⟩ := (first middle).mp sized
        obtain ⟨allFit, rfl⟩ := (others _).mp rest
        exact ⟨⟨fit, allFit⟩, rfl⟩
      · rintro ⟨⟨fit, allFit⟩, rfl⟩
        exact ⟨_, (first _).mpr ⟨fit, rfl⟩, (others _).mpr ⟨allFit, rfl⟩⟩

/-- The fields of a record or variant have a size if each has one. -/
theorem fieldsSize_eq_ok_iff {declared : List (String × Schema)} {fields : List (String × Value)}
    (each : ∀ field ∈ declared, ∀ value size,
      field.2.size value = .ok size ↔
        field.2.Conforms value ∧ size = value.wireSize)
    (named : declared.map Prod.fst = fields.map Prod.fst) (size : Nat) :
    fieldsSize declared fields = .ok size ↔
      (∀ pair ∈ declared.zip fields, pair.1.2.Conforms pair.2.2) ∧
        size = Value.fieldsWireSize fields := by
  induction declared generalizing fields size with
  | nil =>
      cases fields with
      | nil => exact ok_size_iff (List.forall_mem_nil _)
      | cons _ _ => cases named
  | cons first rest ih =>
      cases fields with
      | nil => cases named
      | cons given others =>
          obtain ⟨name, schema⟩ := first
          obtain ⟨givenName, value⟩ := given
          have head := each (name, schema) List.mem_cons_self value
          have tail := ih (fun field member => each field (List.mem_cons_of_mem _ member))
            (List.cons.inj named).2
          rw [fieldsSize, except_bind_eq_ok_iff, List.zip_cons_cons, List.forall_mem_cons,
            Value.fieldsWireSize]
          constructor
          · rintro ⟨front, sized, rest⟩
            obtain ⟨back, restSized, whole⟩ := except_bind_eq_ok_iff.mp rest
            obtain ⟨fit, rfl⟩ := (head front).mp sized
            obtain ⟨allFit, rfl⟩ := (tail back).mp restSized
            exact ⟨⟨fit, allFit⟩, (Except.ok.inj whole).symm⟩
          · rintro ⟨⟨fit, allFit⟩, rfl⟩
            refine ⟨_, (head _).mpr ⟨fit, rfl⟩, except_bind_eq_ok_iff.mpr ?_⟩
            exact ⟨_, (tail _).mpr ⟨allFit, rfl⟩, rfl⟩

/-- The fields are checked for their names before their sizes are added up. -/
theorem checkedFieldsSize_eq_ok_iff {typeName : String} {declared : List (String × Schema)}
    {fields : List (String × Value)}
    (each : ∀ field ∈ declared, ∀ value size,
      field.2.size value = .ok size ↔
        field.2.Conforms value ∧ size = value.wireSize) (size : Nat) :
    (do checkFields typeName declared fields; fieldsSize declared fields) = .ok size ↔
      declared.map Prod.fst = fields.map Prod.fst ∧
        (∀ pair ∈ declared.zip fields, pair.1.2.Conforms pair.2.2) ∧
        size = Value.fieldsWireSize fields := by
  rw [except_bind_eq_ok_iff]
  constructor
  · rintro ⟨⟨⟩, accepted, sized⟩
    have named := checkFields_eq_ok_iff.mp accepted
    exact ⟨named, (fieldsSize_eq_ok_iff each named size).mp sized⟩
  · rintro ⟨named, sized⟩
    exact ⟨(), checkFields_eq_ok_iff.mpr named, (fieldsSize_eq_ok_iff each named size).mpr sized⟩

/-- A variant has the size of the fields of the first one of its name. -/
theorem variantSize_eq (typeName : String) (variants : List (String × List (String × Schema)))
    (variant : String) (fields : List (String × Value)) :
    variantSize typeName variants variant fields =
      match variant? variants variant with
      | none => .error (unknownVariant typeName variant)
      | some (_, declared) => (do
        checkFields typeName declared fields
        fieldsSize declared fields) := by
  induction variants with
  | nil => simp only [variantSize, variant?]
  | cons first rest ih =>
      obtain ⟨name, declared⟩ := first
      by_cases same : name = variant
      · simp only [variantSize, variant?, same, ↓reduceIte]
      · simp only [variantSize, variant?, same, ↓reduceIte, ih]
        cases variant? rest variant with
        | none => rfl
        | some found => rfl

/-- **A size is computed exactly for values that conform**, and it is the number of bytes in
the encoding. -/
theorem size_eq_ok_iff (schema : Schema) (value : Value) (size : Nat) :
    schema.size value = .ok size ↔
      schema.Conforms value ∧ size = value.wireSize := by
  induction schema generalizing value size with
  | bool =>
      cases value with
      | bool truth => exact ok_size_iff (.bool truth)
      | _ => exact refused_size_iff nofun
  | scalar type =>
      cases value with
      | scalar other word =>
          by_cases same : type = other
          · subst same
            rw [Schema.size, if_pos rfl]
            exact ok_size_iff (.scalar type word)
          · rw [Schema.size, if_neg same]
            refine refused_size_iff ?_
            rintro ⟨⟩
            exact same rfl
      | _ => exact refused_size_iff nofun
  | string =>
      cases value with
      | string text =>
          exact ok_size_iff (.string text)
      | _ => exact refused_size_iff nofun
  | bytes =>
      cases value with
      | bytes data =>
          exact ok_size_iff (.bytes data)
      | _ => exact refused_size_iff nofun
  | timestamp =>
      cases value with
      | timestamp instant => exact ok_size_iff (.timestamp instant)
      | _ => exact refused_size_iff nofun
  | duration =>
      cases value with
      | duration length => exact ok_size_iff (.duration length)
      | _ => exact refused_size_iff nofun
  | object name =>
      cases value with
      | object handle => exact ok_size_iff (.object name handle)
      | _ => exact refused_size_iff nofun
  | optional item ih =>
      cases value with
      | absent => exact ok_size_iff (.absent item)
      | present inner =>
          rw [Schema.size, except_bind_eq_ok_iff, Value.wireSize]
          constructor
          · rintro ⟨middle, sized, whole⟩
            obtain ⟨fit, rfl⟩ := (ih inner middle).mp sized
            exact ⟨.present fit, (Except.ok.inj whole).symm⟩
          · rintro ⟨fits, rfl⟩
            cases fits with
            | present fit => exact ⟨_, (ih inner _).mpr ⟨fit, rfl⟩, rfl⟩
      | _ => exact refused_size_iff nofun
  | sequence item ih =>
      cases value with
      | sequence items =>
          rw [Schema.size, Value.wireSize, Value.itemsWireSize_eq_sum,
            sumSizes_eq_ok_iff fun value _ => ih value]
          constructor
          · rintro ⟨each, rfl⟩
            exact ⟨.sequence each, rfl⟩
          · rintro ⟨fits, rfl⟩
            cases fits with
            | sequence each => exact ⟨each, rfl⟩
      | _ => exact refused_size_iff nofun
  | map key mapped keyIH mappedIH =>
      cases value with
      | map entries =>
          have entry : ∀ entry ∈ entries, ∀ size : Nat,
              (do return (← key.size entry.1) + (← mapped.size entry.2)) = .ok size ↔
                (key.Conforms entry.1 ∧ mapped.Conforms entry.2) ∧
                  size = entry.1.wireSize + entry.2.wireSize := by
            intro entry _ size
            rw [except_bind_eq_ok_iff]
            constructor
            · rintro ⟨front, keySized, rest⟩
              obtain ⟨back, valueSized, whole⟩ := except_bind_eq_ok_iff.mp rest
              obtain ⟨keyFits, rfl⟩ := (keyIH entry.1 front).mp keySized
              obtain ⟨valueFits, rfl⟩ := (mappedIH entry.2 back).mp valueSized
              exact ⟨⟨keyFits, valueFits⟩, (Except.ok.inj whole).symm⟩
            · rintro ⟨⟨keyFits, valueFits⟩, rfl⟩
              refine ⟨_, (keyIH _ _).mpr ⟨keyFits, rfl⟩, except_bind_eq_ok_iff.mpr ?_⟩
              exact ⟨_, (mappedIH _ _).mpr ⟨valueFits, rfl⟩, rfl⟩
          rw [Schema.size, Value.wireSize, Value.entriesWireSize_eq_sum,
            sumSizes_eq_ok_iff entry]
          constructor
          · rintro ⟨each, rfl⟩
            exact ⟨.map (fun entry member => (each entry member).1)
              (fun entry member => (each entry member).2), rfl⟩
          · rintro ⟨fits, rfl⟩
            cases fits with
            | map keys values =>
                exact ⟨fun entry member => ⟨keys entry member, values entry member⟩, rfl⟩
      | _ => exact refused_size_iff nofun
  | record name declared ih =>
      cases value with
      | record fields =>
          rw [Schema.size, checkedFieldsSize_eq_ok_iff ih, Value.wireSize]
          constructor
          · rintro ⟨named, each, rfl⟩
            exact ⟨.record named each, rfl⟩
          · rintro ⟨fits, rfl⟩
            cases fits with
            | record named each => exact ⟨named, each, rfl⟩
      | _ => exact refused_size_iff nofun
  | enumeration name variants ih =>
      cases value with
      | variant variant fields =>
          rw [Schema.size, variantSize_eq, Value.wireSize]
          cases looked : variant? variants variant with
          | none =>
              refine refused_size_iff fun fits => ?_
              cases fits with
              | variant found _ _ => cases looked.symm.trans found
          | some place =>
              obtain ⟨position, declared⟩ := place
              have listed := List.mem_of_getElem? (getElem?_of_variant?_eq_some looked)
              rw [except_bind_eq_ok_iff]
              have checked := @checkedFieldsSize_eq_ok_iff name declared fields (ih _ listed)
              constructor
              · rintro ⟨rest, sized, whole⟩
                obtain ⟨named, each, rfl⟩ := (checked rest).mp sized
                exact ⟨.variant looked named each, (Except.ok.inj whole).symm⟩
              · rintro ⟨fits, rfl⟩
                cases fits with
                | variant found named each =>
                    cases looked.symm.trans found
                    exact ⟨_, (checked _).mpr ⟨named, each, rfl⟩, rfl⟩
      | _ => exact refused_size_iff nofun

end Schema

end Boundary
