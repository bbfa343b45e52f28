import Boundary.Proofs.Schema.Canonical

/-! # Values paid for by their bytes

The number of elements in a sequence or map is read from the input, and every element has
to be read behind it. A record without fields takes no bytes, so a sequence of such
records has as many elements as the input asks for, with nothing behind the count
(`Boundary.Schema.Hollow`). A schema without such a part is thrifty: all elements inside a
lifted value are together no more than the bytes that were consumed for it, and the whole
value is at most as large as the schema for each of these bytes
(`Boundary.Schema.read_affords`). Thrifty schemas are the only ones of which this holds in
every part (`Boundary.Schema.counts_are_paid_iff_thrifty`).
-/

namespace Boundary

open Read (Produces Takes)

namespace Value

/-- The number of elements of a sequence or map. -/
def count : Value → Nat
  | sequence items => items.length
  | map entries => entries.length
  | _ => 0

mutual

/-- The number of elements in all sequences and maps inside a value. -/
def elements : Value → Nat
  | present item => item.elements
  | sequence items => itemsElements items
  | map entries => entriesElements entries
  | record fields => fieldsElements fields
  | variant _ fields => fieldsElements fields
  | _ => 0
termination_by structural value => value

/-- The number of items and of the elements inside them. -/
def itemsElements : List Value → Nat
  | [] => 0
  | item :: items => item.elements + 1 + itemsElements items
termination_by structural items => items

/-- The number of entries and of the elements inside them. -/
def entriesElements : List (Value × Value) → Nat
  | [] => 0
  | (key, value) :: entries => key.elements + value.elements + 1 + entriesElements entries
termination_by structural entries => entries

/-- The number of elements inside fields. -/
def fieldsElements : List (String × Value) → Nat
  | [] => 0
  | (_, value) :: fields => value.elements + fieldsElements fields
termination_by structural fields => fields

end

mutual

/-- The number of values that a value is made of, and of the bytes of its texts. -/
def extent : Value → Nat
  | string text => 1 + Utf8.size text
  | bytes data => 1 + data.length
  | present item => 1 + item.extent
  | sequence items => 1 + itemsExtent items
  | map entries => 1 + entriesExtent entries
  | record fields => 1 + fieldsExtent fields
  | variant _ fields => 1 + fieldsExtent fields
  | _ => 1
termination_by structural value => value

/-- The extent of items. -/
def itemsExtent : List Value → Nat
  | [] => 0
  | item :: items => item.extent + itemsExtent items
termination_by structural items => items

/-- The extent of keys and values. -/
def entriesExtent : List (Value × Value) → Nat
  | [] => 0
  | (key, value) :: entries => key.extent + value.extent + entriesExtent entries
termination_by structural entries => entries

/-- The extent of field values. -/
def fieldsExtent : List (String × Value) → Nat
  | [] => 0
  | (_, value) :: fields => value.extent + fieldsExtent fields
termination_by structural fields => fields

end

/-- Each item of a sequence counts. -/
theorem length_le_itemsElements (items : List Value) : items.length ≤ itemsElements items := by
  induction items with
  | nil => exact Nat.zero_le _
  | cons item items ih =>
      rw [itemsElements, List.length_cons]
      omega

/-- Each entry of a map counts. -/
theorem length_le_entriesElements (entries : List (Value × Value)) :
    entries.length ≤ entriesElements entries := by
  induction entries with
  | nil => exact Nat.zero_le _
  | cons entry entries ih =>
      obtain ⟨key, value⟩ := entry
      rw [entriesElements, List.length_cons]
      omega

/-- An item has no more elements than all items. -/
theorem elements_le_itemsElements {item : Value} {items : List Value} (member : item ∈ items) :
    item.elements ≤ itemsElements items := by
  induction member with
  | head others =>
      rw [itemsElements]
      omega
  | tail first _ ih =>
      rw [itemsElements]
      omega

/-- An entry has no more elements than all entries. -/
theorem elements_le_entriesElements {entry : Value × Value} {entries : List (Value × Value)}
    (member : entry ∈ entries) :
    entry.1.elements + entry.2.elements ≤ entriesElements entries := by
  induction member with
  | head others =>
      rw [entriesElements]
      omega
  | tail first _ ih =>
      rw [entriesElements]
      omega

/-- A field has no more elements than all fields. -/
theorem elements_le_fieldsElements {field : String × Value} {fields : List (String × Value)}
    (member : field ∈ fields) : field.2.elements ≤ fieldsElements fields := by
  induction member with
  | head others =>
      rw [fieldsElements]
      omega
  | tail first _ ih =>
      rw [fieldsElements]
      omega

/-- A sequence or map inside a value has some of the elements inside the value. -/
theorem Within.count_le_elements {inner value : Value} (within : inner.Within value) :
    inner.count ≤ value.elements := by
  induction within with
  | self =>
      cases inner with
      | sequence items => exact length_le_itemsElements items
      | map entries => exact length_le_entriesElements entries
      | _ => exact Nat.zero_le _
  | present _ ih => exact ih
  | item member _ ih => exact ih.trans (elements_le_itemsElements member)
  | key member _ ih =>
      exact (ih.trans (Nat.le_add_right _ _)).trans (elements_le_entriesElements member)
  | mapped member _ ih =>
      exact (ih.trans (Nat.le_add_left _ _)).trans (elements_le_entriesElements member)
  | field member _ ih => exact ih.trans (elements_le_fieldsElements member)
  | content member _ ih => exact ih.trans (elements_le_fieldsElements member)

end Value

namespace Schema

mutual

/-- The number of schemas that a schema is made of. -/
def extent : Schema → Nat
  | optional item => 1 + item.extent
  | sequence item => 1 + item.extent
  | map key mapped => 1 + (key.extent + mapped.extent)
  | record _ fields => 1 + fieldsExtent fields
  | enumeration _ variants => 1 + variantsExtent variants
  | _ => 1
termination_by structural schema => schema

/-- The extent of declared fields. -/
def fieldsExtent : List (String × Schema) → Nat
  | [] => 0
  | (_, schema) :: rest => schema.extent + fieldsExtent rest
termination_by structural fields => fields

/-- The extent of the fields of all variants. -/
def variantsExtent : List (String × List (String × Schema)) → Nat
  | [] => 0
  | (_, fields) :: rest => fieldsExtent fields + variantsExtent rest
termination_by structural variants => variants

end

/-- The fields of a variant extend no further than all variants. -/
theorem fieldsExtent_le_variantsExtent {variant : String × List (String × Schema)}
    {variants : List (String × List (String × Schema))} (member : variant ∈ variants) :
    fieldsExtent variant.2 ≤ variantsExtent variants := by
  induction member with
  | head others => exact Nat.le_add_right _ _
  | tail first _ ih =>
      rw [variantsExtent]
      omega

/-- Values of the schema take no bytes. -/
inductive Weightless : Schema → Prop
  | record {name : String} {fields : List (String × Schema)} :
      (∀ field ∈ fields, Weightless field.2) → Weightless (.record name fields)

/-- The elements of a sequence or map take no bytes, so that only the count stands for them. -/
inductive Hollow : Schema → Prop
  | sequence {item : Schema} : item.Weightless → Hollow (.sequence item)
  | map {key mapped : Schema} : key.Weightless → mapped.Weightless → Hollow (.map key mapped)

/-- No part of the schema is hollow. -/
def Thrifty (schema : Schema) : Prop := ∀ part : Schema, part.Within schema → ¬ part.Hollow

variable {schema piece : Schema}

/-- The parts of a thrifty schema are thrifty. -/
theorem Thrifty.part (thrifty : schema.Thrifty) (within : piece.Within schema) :
    piece.Thrifty :=
  fun _ inner => thrifty _ (inner.trans within)

/-! ## Thrifty schemas -/

/-- The bytes of a value pay for what is inside of it. -/
structure Affords (schema : Schema) (data : Bytes) (value : Value) : Prop where
  elements : value.elements ≤ data.length
  spare : ¬ schema.Weightless → value.elements < data.length
  extent : value.extent ≤ schema.extent * max 1 data.length

/-- The bytes of field values pay for what is inside of these. -/
structure FieldsAfford (declared : List (String × Schema)) (data : Bytes)
    (fields : List (String × Value)) : Prop where
  elements : Value.fieldsElements fields ≤ data.length
  spare : ¬ (∀ field ∈ declared, field.2.Weightless) →
    Value.fieldsElements fields < data.length
  extent : Value.fieldsExtent fields ≤ fieldsExtent declared * max 1 data.length

/-- A value without elements affords what it needs, by the byte at the least that it takes. -/
theorem Affords.of_no_elements {data : Bytes} {value : Value} (none : value.elements = 0)
    (some : 0 < data.length) (extent : value.extent ≤ schema.extent * max 1 data.length) :
    schema.Affords data value :=
  ⟨by omega, fun _ => by omega, extent⟩

/-- The part of a bound that is left for some of the bytes. -/
theorem extent_le_of_le {extent bound some all : Nat} (within : extent ≤ bound * max 1 some)
    (less : some ≤ all) : extent ≤ bound * max 1 all :=
  within.trans (Nat.mul_le_mul_left bound (by omega))

/-- A value around another one has room for itself. -/
theorem one_add_extent_le {extent bound some all : Nat} (within : extent ≤ bound * max 1 some)
    (less : some ≤ all) : 1 + extent ≤ (1 + bound) * max 1 all := by
  have inner := extent_le_of_le within less
  rw [Nat.add_mul, Nat.one_mul]
  omega

/-- A value that begins with bytes of its own affords what the bytes behind these pay for. -/
theorem Affords.behind {bound extent : Nat} {own data : Bytes} {value : Value}
    (some : 0 < own.length) (few : value.elements ≤ data.length)
    (within : extent ≤ bound * max 1 data.length) (sameExtent : value.extent = 1 + extent)
    (sameBound : schema.extent = 1 + bound) : schema.Affords (own ++ data) value := by
  have size : (own ++ data).length = own.length + data.length := List.length_append
  refine ⟨by omega, fun _ => by omega, ?_⟩
  rw [sameExtent, sameBound]
  exact one_add_extent_le within (by omega)

/-- The bytes of the parts of a container, each of which takes some, pay for these parts. -/
structure PartsAfford {α : Type} (bound : Nat) (elements extent : α → Nat) (data : Bytes)
    (parts : α) : Prop where
  elements : elements parts ≤ data.length
  extent : extent parts ≤ bound * data.length

theorem PartsAfford.within {α : Type} {bound : Nat} {elements extent : α → Nat} {data : Bytes}
    {parts : α} (afford : PartsAfford bound elements extent data parts) :
    extent parts ≤ bound * max 1 data.length :=
  afford.extent.trans (Nat.mul_le_mul_left bound (Nat.le_max_right _ _))

/-- The items of a sequence that is not hollow pay for themselves. -/
theorem items_afford {item : Schema} (each : item.read.Produces item.Affords)
    (weighty : ¬ item.Weightless) (count : Nat) :
    (Read.times item.read count).Produces fun data values => values.length = count ∧
      PartsAfford item.extent Value.itemsElements Value.itemsExtent data values := by
  refine each.times ⟨Nat.le_refl _, Nat.zero_le _⟩ ?_ count
  intro front value back values first others
  have spare := first.spare weighty
  have rest := others.elements
  have extent := first.extent
  rw [Nat.max_eq_right (by omega)] at extent
  refine ⟨?_, ?_⟩
  · rw [Value.itemsElements, List.length_append]
    omega
  · rw [Value.itemsExtent, List.length_append, Nat.mul_add]
    exact Nat.add_le_add extent others.extent

/-- A key and a value of which one takes bytes pay for both. -/
theorem entry_affords {key mapped : Schema} (names : key.read.Produces key.Affords)
    (values : mapped.read.Produces mapped.Affords)
    (weighty : ¬ (key.Weightless ∧ mapped.Weightless)) :
    Produces (do return (← key.read, ← mapped.read)) fun data entry =>
      entry.1.elements + entry.2.elements < data.length ∧
        entry.1.extent + entry.2.extent ≤ (key.extent + mapped.extent) * data.length := by
  refine names.bind fun front name first => values.returning fun back value second => ?_
  have firstElements := first.elements
  have secondElements := second.elements
  have spare : name.elements + value.elements < (front ++ back).length := by
    rw [List.length_append]
    by_cases weightless : key.Weightless
    · have spare := second.spare fun also => weighty ⟨weightless, also⟩
      omega
    · have spare := first.spare weightless
      omega
  refine ⟨spare, ?_⟩
  have some : max 1 (front ++ back).length = (front ++ back).length :=
    Nat.max_eq_right (by omega)
  rw [← some, List.length_append, Nat.add_mul]
  exact Nat.add_le_add (extent_le_of_le first.extent (Nat.le_add_right _ _))
    (extent_le_of_le second.extent (Nat.le_add_left _ _))

/-- The entries of a map that is not hollow pay for themselves. -/
theorem entries_afford {key mapped : Schema} (names : key.read.Produces key.Affords)
    (values : mapped.read.Produces mapped.Affords)
    (weighty : ¬ (key.Weightless ∧ mapped.Weightless)) (count : Nat) :
    (Read.times (do return (← key.read, ← mapped.read)) count).Produces fun data entries =>
      entries.length = count ∧ PartsAfford (key.extent + mapped.extent) Value.entriesElements
        Value.entriesExtent data entries := by
  refine (entry_affords names values weighty).times ⟨Nat.le_refl _, Nat.zero_le _⟩ ?_ count
  rintro front ⟨name, value⟩ back entries ⟨spare, extent⟩ others
  have rest := others.elements
  refine ⟨?_, ?_⟩
  · rw [Value.entriesElements, List.length_append]
    dsimp only at spare
    omega
  · rw [Value.entriesExtent, List.length_append, Nat.mul_add]
    exact Nat.add_le_add extent others.extent

/-- Fields are paid for by the bytes that are read for them, if each of them is. -/
theorem readFields_affords {declared : List (String × Schema)}
    (each : ∀ field ∈ declared, field.2.read.Produces field.2.Affords) :
    (readFields declared).Produces (FieldsAfford declared) := by
  induction declared with
  | nil =>
      refine .pure ⟨Nat.le_refl _, fun some => ?_, Nat.zero_le _⟩
      exact absurd (fun _ member => nomatch member) some
  | cons first rest ih =>
      obtain ⟨name, schema⟩ := first
      have head := each (name, schema) List.mem_cons_self
      have tail := ih fun field member => each field (List.mem_cons_of_mem _ member)
      refine head.bind fun front value first => tail.returning fun back fields others => ?_
      have elements := first.elements
      have otherElements := others.elements
      refine ⟨?_, fun some => ?_, ?_⟩
      · rw [Value.fieldsElements, List.length_append]
        omega
      · rw [Value.fieldsElements, List.length_append]
        -- Either the first field takes bytes or one of the others does.
        by_cases weightless : schema.Weightless
        · have spare := others.spare fun all => some (List.forall_mem_cons.mpr ⟨weightless, all⟩)
          omega
        · have spare := first.spare weightless
          omega
      · rw [Value.fieldsExtent, fieldsExtent, Nat.add_mul, List.length_append]
        exact Nat.add_le_add (extent_le_of_le first.extent (Nat.le_add_right _ _))
          (extent_le_of_le others.extent (Nat.le_add_left _ _))

/-- What is read for a thrifty schema is paid for by the bytes that were read. -/
theorem read_affords (schema : Schema) (thrifty : schema.Thrifty) :
    schema.read.Produces schema.Affords := by
  induction schema with
  | bool =>
      refine Produces.byte.bind ?_
      rintro _ tag rfl
      split
      · exact .pure (.of_no_elements rfl Nat.one_pos (Nat.le_refl _))
      · exact .pure (.of_no_elements rfl Nat.one_pos (Nat.le_refl _))
      · exact .throwing _
  | scalar type =>
      refine (Produces.word type.width).returning ?_
      rintro _ word rfl
      refine .of_no_elements rfl ?_ ?_
      · rw [BigEndian.length_encode]
        cases type <;> decide
      · exact Nat.le_mul_of_pos_right 1 (by omega)
  | string =>
      refine Produces.text.returning ?_
      rintro _ text ⟨short, rfl⟩
      refine .of_no_elements rfl ?_ ?_
      · simp
      · simp [Value.extent, Schema.extent, Utf8.size]
  | bytes =>
      refine Produces.length.bind ?_
      rintro _ count ⟨short, rfl⟩
      refine (Produces.bytes count).returning ?_
      rintro data _ ⟨rfl, rfl⟩
      refine .of_no_elements rfl ?_ ?_
      · simp
      · simp [Value.extent, Schema.extent]
  | timestamp =>
      refine Instant.read_produces.returning fun data instant length => ?_
      exact .of_no_elements rfl (by omega) (Nat.le_mul_of_pos_right 1 (by omega))
  | duration =>
      refine Duration.read_produces.returning fun data duration length => ?_
      exact .of_no_elements rfl (by omega) (Nat.le_mul_of_pos_right 1 (by omega))
  | object name =>
      refine Handle.read_produces.returning ?_
      rintro _ handle rfl
      exact .of_no_elements rfl (by simp) (Nat.le_mul_of_pos_right 1 (by omega))
  | optional item ih =>
      refine Produces.byte.bind ?_
      rintro _ tag rfl
      split
      · refine .pure (.of_no_elements rfl Nat.one_pos ?_)
        exact Nat.le_mul_of_pos_left 1 (by rw [Schema.extent]; omega)
      · refine (ih (thrifty.part (.optional .self))).returning fun data value held => ?_
        exact .behind Nat.one_pos held.elements held.extent rfl rfl
      · exact .throwing _
  | sequence item ih =>
      have weighty : ¬ item.Weightless := fun weightless =>
        thrifty _ .self (.sequence weightless)
      refine Produces.length.bind ?_
      rintro _ count ⟨short, rfl⟩
      have items := items_afford (ih (thrifty.part (.sequence .self))) weighty count
      refine items.returning fun data values held => ?_
      exact .behind (by simp) held.2.elements held.2.within rfl rfl
  | map key mapped keyIH mappedIH =>
      have weighty : ¬ (key.Weightless ∧ mapped.Weightless) := fun weightless =>
        thrifty _ .self (.map weightless.1 weightless.2)
      refine Produces.length.bind ?_
      rintro _ count ⟨short, rfl⟩
      have entries := entries_afford (keyIH (thrifty.part (.key .self)))
        (mappedIH (thrifty.part (.mapped .self))) weighty count
      refine entries.returning fun data entries held => ?_
      exact .behind (by simp) held.2.elements held.2.within rfl rfl
  | record name declared ih =>
      have each := readFields_affords fun field member =>
        ih field member (thrifty.part (.field member .self))
      refine each.returning fun data fields held => ?_
      exact ⟨held.elements, fun some => held.spare fun all => some (.record all),
        one_add_extent_le held.extent (Nat.le_refl _)⟩
  | enumeration name variants ih =>
      refine (Produces.discriminant name variants.length).bind ?_
      rintro _ position ⟨known, early, rfl⟩
      rw [readVariants_eq_map, List.getElem?_map]
      cases listed : variants[position]? with
      | none => exact .throwing _
      | some variant =>
          have member := List.mem_of_getElem? listed
          have each := readFields_affords fun field inner =>
            ih _ member field inner (thrifty.part (.content member inner .self))
          refine each.returning fun data fields held => ?_
          have bound := Nat.mul_le_mul_right (max 1 data.length)
            (fieldsExtent_le_variantsExtent member)
          exact .behind (by simp) held.elements (held.extent.trans bound) rfl rfl

/-! ## Hollow schemas -/

/-- Fields that take no bytes each take none together. -/
theorem readFields_takes_nothing {fields : List (String × Schema)}
    (each : ∀ field ∈ fields, ∃ value, field.2.read.Takes [] value) :
    ∃ values, (readFields fields).Takes [] values := by
  induction fields with
  | nil => exact ⟨[], .pure []⟩
  | cons first rest ih =>
      obtain ⟨value, head⟩ := each first List.mem_cons_self
      obtain ⟨values, tail⟩ := ih fun field member => each field (List.mem_cons_of_mem _ member)
      exact ⟨_, head.bind (tail.returning rfl)⟩

/-- Without a byte a weightless value is read. -/
theorem Weightless.takes (weightless : schema.Weightless) :
    ∃ value, schema.read.Takes [] value := by
  induction weightless with
  | record _ ih =>
      obtain ⟨values, taken⟩ := readFields_takes_nothing ih
      exact ⟨.record values, taken.returning rfl⟩

/-- What takes no bytes is read any number of times. -/
theorem times_takes_nothing {α : Type} {item : Read α} {value : α} (taken : item.Takes [] value)
    (count : Nat) : (Read.times item count).Takes [] (List.replicate count value) := by
  induction count with
  | zero => exact .pure []
  | succ count ih => exact taken.bind (ih.returning rfl)

theorem length_takes {count : Nat} (short : count ≤ maxLength) :
    Read.length.Takes (BigEndian.encode 4 count) count := by
  refine (Takes.word 4 count).returning ?_
  rw [toInt_word_of_le short, toNat_word_of_le short, if_neg (by omega)]

/-- A hollow schema lifts a count, and nothing else, as so many elements. -/
theorem Hollow.lift (hollow : schema.Hollow) {count : Nat} (short : count ≤ maxLength) :
    ∃ value : Value, value.count = count ∧
      ∀ more, schema.lift (BigEndian.encode 4 count ++ more) = .ok (value, 4) := by
  have counted := length_takes short
  have lifted {value : Value} (taken : schema.read.Takes (BigEndian.encode 4 count) value)
      (more : Bytes) : schema.lift (BigEndian.encode 4 count ++ more) = .ok (value, 4) := by
    have whole := taken.lift more
    rwa [BigEndian.length_encode] at whole
  cases hollow with
  | @sequence item weightless =>
      obtain ⟨value, taken⟩ := weightless.takes
      have items : (Schema.sequence item).read.Takes (BigEndian.encode 4 count ++ [])
          (.sequence (List.replicate count value)) :=
        counted.bind ((times_takes_nothing taken count).returning rfl)
      rw [List.append_nil] at items
      exact ⟨.sequence (List.replicate count value), List.length_replicate, lifted items⟩
  | @map key mapped keyless valueless =>
      obtain ⟨name, nameTaken⟩ := keyless.takes
      obtain ⟨value, valueTaken⟩ := valueless.takes
      have entry : Takes (do return (← key.read, ← mapped.read)) [] (name, value) :=
        nameTaken.bind (valueTaken.returning rfl)
      have entries : (Schema.map key mapped).read.Takes (BigEndian.encode 4 count ++ [])
          (.map (List.replicate count (name, value))) :=
        counted.bind ((times_takes_nothing entry count).returning rfl)
      rw [List.append_nil] at entries
      exact ⟨.map (List.replicate count (name, value)), List.length_replicate, lifted entries⟩

/-- Lifting under the schema never yields a sequence or map that has more elements than bytes were
consumed. -/
def PaysForCounts (schema : Schema) : Prop :=
  ∀ bytes value consumed, schema.lift bytes = .ok (value, consumed) →
    ∀ inner : Value, inner.Within value → inner.count ≤ consumed

/-- What is lifted under a thrifty schema is paid for by the bytes consumed. -/
theorem Thrifty.affords_of_lift (thrifty : schema.Thrifty) {bytes : Bytes} {value : Value}
    {consumed : Nat} (lifted : schema.lift bytes = .ok (value, consumed)) :
    value.elements ≤ consumed ∧ value.extent ≤ schema.extent * max 1 consumed := by
  obtain ⟨length, held⟩ := (schema.read_affords thrifty).of_lift lifted
  have elements := held.elements
  have extent := held.extent
  rw [length] at elements extent
  exact ⟨elements, extent⟩

/-- Five elements are more than the four bytes of their count. -/
theorem Hollow.not_paysForCounts (hollow : schema.Hollow) : ¬ schema.PaysForCounts := by
  intro pays
  have short : 5 ≤ maxLength := by decide
  obtain ⟨value, counted, lifted⟩ := hollow.lift short
  have few := pays _ value 4 (lifted []) value .self
  omega

/-- **Counts are paid for under thrifty schemas only.** Under a thrifty schema the sequences and
maps inside a lifted value have no more elements together than bytes were consumed for the value,
and the value is no larger than the schema for each of these bytes. The schemas all parts of which
lift counts that are paid for are the thrifty ones: a hollow part lifts every count that a length
prefix can carry as so many elements, from the four bytes of the count. -/
theorem counts_are_paid_iff_thrifty (schema : Schema) :
    (schema.Thrifty ↔ ∀ part : Schema, part.Within schema → part.PaysForCounts) ∧
      (schema.Thrifty → ∀ bytes value consumed, schema.lift bytes = .ok (value, consumed) →
        value.elements ≤ consumed ∧ value.extent ≤ schema.extent * max 1 consumed) ∧
      ∀ part : Schema, part.Within schema → part.Hollow → ∀ count ≤ maxLength,
        ∃ value : Value, value.count = count ∧
          ∀ more, part.lift (BigEndian.encode 4 count ++ more) = .ok (value, 4) := by
  refine ⟨⟨?_, ?_⟩, fun thrifty _ _ _ lifted => thrifty.affords_of_lift lifted,
    fun _ _ hollow _ short => hollow.lift short⟩
  · intro thrifty part within bytes value consumed lifted inner inside
    exact inside.count_le_elements.trans ((thrifty.part within).affords_of_lift lifted).1
  · intro pays part within hollow
    exact hollow.not_paysForCounts (pays part within)

/-- Four bytes are lifted as five records without fields. -/
theorem lift_count_of_empty_records :
    let schema : Schema := .sequence (.record "unit" [])
    let value : Value := .sequence (List.replicate 5 (.record []))
    schema.lift [0, 0, 0, 5] = .ok (value, 4) ∧ value.Within value ∧ ¬ value.count ≤ 4 := by
  intro schema value
  exact ⟨by cbv, .self, by decide⟩

end Schema

end Boundary
