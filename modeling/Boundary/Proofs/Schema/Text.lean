import Boundary.Proofs.Schema.Structure
import Boundary.Proofs.Text.Marks
import Mathlib.Data.List.Nodup

/-! # The text of a schema

The text of a schema is a keyword and what stands behind it (`Boundary.Schema.toList_text`).
The keywords are pairwise different words, so the first word of a text determines the
constructor of the schema, and what stands behind it determines its parts. If all names in
two schemas are names, a text that begins with the text of the one and goes on with a mark
does not begin with the text of the other (`Boundary.Schema.tells_text`).
-/

namespace Boundary

namespace Schema

/-- What the text of a schema begins with. -/
inductive Keyword where
  | bool
  | scalar (type : Scalar)
  | string
  | bytes
  | timestamp
  | duration
  | object
  | option
  | sequence
  | map
  | record
  | enum
  deriving DecidableEq

namespace Keyword

/-- The keyword as it is written. -/
def word : Keyword → List Char
  | bool => "bool".toList
  | scalar type => type.name.toList
  | string => "string".toList
  | bytes => "bytes".toList
  | timestamp => "timestamp".toList
  | duration => "duration".toList
  | object => "object".toList
  | option => "option".toList
  | sequence => "sequence".toList
  | map => "map".toList
  | record => "record".toList
  | enum => "enum".toList

/-- All keywords. -/
def all : List Keyword :=
  [bool, string, bytes, timestamp, duration, object, option, sequence, map, record, enum] ++
    Scalar.all.map scalar

theorem mem_all (keyword : Keyword) : keyword ∈ all := by
  cases keyword with
  | scalar type => cases type <;> decide
  | _ => decide

/-- No two keywords are written alike. -/
theorem nodup_words : (all.map word).Nodup := by decide

/-- A keyword is told by its letters. -/
theorem word_injective {keyword other : Keyword} (same : keyword.word = other.word) :
    keyword = other :=
  List.inj_on_of_nodup_map nodup_words keyword.mem_all other.mem_all same

/-- The letters of a keyword are no marks. -/
theorem word_plain (keyword : Keyword) : ∀ character ∈ keyword.word, character ∉ marks := by
  have plain : all.all (fun listed => listed.word.all fun character => character ∉ marks) = true :=
    by decide
  intro character member
  have own := List.all_eq_true.mp plain keyword keyword.mem_all
  exact of_decide_eq_true (List.all_eq_true.mp own character member)

end Keyword

/-- A field as it is written. -/
def fieldForm (field : String × Schema) : List Char :=
  field.1.toList ++ ':' :: ' ' :: field.2.text.toList

/-- The fields of a variant as they are written. -/
def payloadForm : List (String × Schema) → List Char
  | [] => []
  | first :: rest => '(' :: (series fieldForm (first :: rest) ++ [')'])

/-- A variant as it is written. -/
def variantForm (variant : String × List (String × Schema)) : List Char :=
  variant.1.toList ++ payloadForm variant.2

/-- The texts of fields, with commas between them, are a series of fields. -/
theorem toList_fieldTexts (fields : List (String × Schema)) :
    (", ".intercalate (fieldTexts fields)).toList = series fieldForm fields := by
  have forms : (fieldTexts fields).map String.toList = fields.map fieldForm := by
    induction fields with
    | nil => rfl
    | cons first rest ih =>
        rw [fieldTexts, List.map_cons, List.map_cons, ih, fieldForm, String.toList_append,
          String.toList_append, List.append_assoc]
        rfl
  rw [String.toList_intercalate, forms]
  rfl

/-- The texts of variants, with commas between them, are a series of variants. -/
theorem toList_variantTexts (variants : List (String × List (String × Schema))) :
    (", ".intercalate (variantTexts variants)).toList = series variantForm variants := by
  have forms : (variantTexts variants).map String.toList = variants.map variantForm := by
    induction variants with
    | nil => rfl
    | cons first rest ih =>
        obtain ⟨name, fields⟩ := first
        rw [variantTexts, List.map_cons, List.map_cons, ih, variantForm]
        congr 1
        cases fields with
        | nil => exact (List.append_nil _).symm
        | cons field fields =>
            have payload := toList_fieldTexts (field :: fields)
            rw [fieldTexts] at payload
            simp only [fieldTexts, String.toList_append, payload, payloadForm]
            rw [List.append_assoc, List.append_assoc]
            rfl
  rw [String.toList_intercalate, forms]
  rfl

/-- The keyword of a schema. -/
def keyword : Schema → Keyword
  | bool => .bool
  | scalar type => .scalar type
  | string => .string
  | bytes => .bytes
  | timestamp => .timestamp
  | duration => .duration
  | object _ => .object
  | optional _ => .option
  | sequence _ => .sequence
  | map _ _ => .map
  | record _ _ => .record
  | enumeration _ _ => .enum

/-- What stands behind the keyword. -/
def behind : Schema → List Char
  | object name => angled name.toList
  | optional item | sequence item => angled item.text.toList
  | map key value => angled (key.text.toList ++ ',' :: ' ' :: value.text.toList)
  | record name fields => titled name (series fieldForm fields)
  | enumeration name variants => titled name (series variantForm variants)
  | _ => []

/-- The text of a schema begins with its keyword. -/
theorem toList_text (schema : Schema) :
    schema.text.toList = schema.keyword.word ++ schema.behind := by
  cases schema with
  | object _ | optional _ | sequence _ | map _ _ | record _ _ | enumeration _ _ =>
      simp only [text, behind, angled, titled, String.toList_append, toList_fieldTexts,
        toList_variantTexts, List.append_assoc, List.cons_append]
      rfl
  | _ => exact (List.append_nil _).symm

/-- Behind a keyword comes a mark, or what follows the schema. -/
theorem breaks_behind (schema : Schema) {rest : List Char} (breaks : Breaks rest) :
    Breaks (schema.behind ++ rest) := by
  cases schema with
  | object _ | optional _ | sequence _ | map _ _ =>
      have angle : '<' ∈ marks := by decide
      exact continues_cons angle
  | record _ _ | enumeration _ _ =>
      have space : ' ' ∈ marks := by decide
      exact continues_cons space
  | _ => exact breaks

/-- Texts of schemas that go on with marks begin with the same keyword if they agree. -/
theorem keyword_eq {schema other : Schema} {rest otherRest : List Char} (breaks : Breaks rest)
    (otherBreaks : Breaks otherRest)
    (same : schema.text.toList ++ rest = other.text.toList ++ otherRest) :
    schema.keyword = other.keyword ∧ schema.behind ++ rest = other.behind ++ otherRest := by
  rw [toList_text, toList_text, List.append_assoc, List.append_assoc] at same
  obtain ⟨words, left⟩ := word_append_inj schema.keyword.word_plain other.keyword.word_plain
    (breaks_behind schema breaks) (breaks_behind other otherBreaks) same
  exact ⟨Keyword.word_injective words, left⟩

mutual

/-- The names in a schema, in the order in which they are written. -/
def names : Schema → List String
  | object name => [name]
  | optional item | sequence item => item.names
  | map key value => key.names ++ value.names
  | record name fields => name :: fieldNames fields
  | enumeration name variants => name :: variantNames variants
  | _ => []
termination_by structural schema => schema

/-- The names in some fields. -/
def fieldNames : List (String × Schema) → List String
  | [] => []
  | (name, schema) :: rest => name :: (schema.names ++ fieldNames rest)
termination_by structural fields => fields

/-- The names in some variants. -/
def variantNames : List (String × List (String × Schema)) → List String
  | [] => []
  | (name, fields) :: rest => name :: (fieldNames fields ++ variantNames rest)
termination_by structural variants => variants

end

/-- All names in a schema are names. -/
def WellNamed (schema : Schema) : Prop := ∀ name ∈ schema.names, IsName name

/-- A field has a name, and a layout with names. -/
def FieldNamed (field : String × Schema) : Prop := IsName field.1 ∧ field.2.WellNamed

/-- A variant has a name, and fields with names. -/
def VariantNamed (variant : String × List (String × Schema)) : Prop :=
  IsName variant.1 ∧ ∀ field ∈ variant.2, FieldNamed field

/-- The names in a list of fields are those of its fields. -/
theorem fieldsNamed_iff {fields : List (String × Schema)} :
    (∀ name ∈ fieldNames fields, IsName name) ↔ ∀ field ∈ fields, FieldNamed field := by
  induction fields with
  | nil => simp [fieldNames]
  | cons first rest ih =>
      rw [fieldNames, List.forall_mem_cons, List.forall_mem_append, ih, List.forall_mem_cons,
        ← and_assoc]
      rfl

/-- The names in a list of variants are those of its variants. -/
theorem variantsNamed_iff {variants : List (String × List (String × Schema))} :
    (∀ name ∈ variantNames variants, IsName name) ↔
      ∀ variant ∈ variants, VariantNamed variant := by
  induction variants with
  | nil => simp [variantNames]
  | cons first rest ih =>
      rw [variantNames, List.forall_mem_cons, List.forall_mem_append, ih, fieldsNamed_iff,
        List.forall_mem_cons, ← and_assoc]
      rfl

/-- The text of a schema is told from the texts of all others. -/
abbrev TellsText : Schema → Prop := Tells (· ∈ marks) WellNamed fun schema => schema.text.toList

/-- A field is told by its name, a colon and its schema. -/
theorem tells_field {field : String × Schema} (named : FieldNamed field)
    (tells : TellsText field.2) : Tells (· ∈ marks) FieldNamed fieldForm field := by
  intro other rest otherRest otherNamed breaks otherBreaks same
  have colon : ':' ∈ marks := by decide
  rw [fieldForm, fieldForm, List.append_assoc, List.append_assoc] at same
  obtain ⟨names, left⟩ := named.1.tells otherNamed.1 (continues_cons colon)
    (continues_cons colon) same
  obtain ⟨schemas, rests⟩ := tells otherNamed.2 breaks otherBreaks
    (List.cons.inj (List.cons.inj left).2).2
  exact ⟨Prod.ext names schemas, rests⟩

section Fields

variable {fields others : List (String × Schema)} {rest otherRest : List Char}

/-- Fields up to a closing mark are told from all others. -/
theorem fields_append_inj {closing : Char} (mark : closing ∈ marks) (different : closing ≠ ',')
    (named : ∀ field ∈ fields, FieldNamed field) (tells : ∀ field ∈ fields, TellsText field.2)
    (otherNamed : ∀ other ∈ others, FieldNamed other)
    (same : series fieldForm fields ++ closing :: rest =
      series fieldForm others ++ closing :: otherRest) : fields = others ∧ rest = otherRest := by
  have comma : ',' ∈ marks := by decide
  have opens (field : String × Schema) (isNamed : FieldNamed field) :
      ∃ first text, fieldForm field = first :: text ∧ first ∉ marks := isNamed.1.opens _
  exact series_append_inj comma mark different mark opens named
    (fun field member => tells_field (named field member) (tells field member)) otherNamed same

/-- What may follow a variant. A parenthesis would begin its fields. -/
def AfterVariant (character : Char) : Prop := character ∈ marks ∧ character ≠ '('

/-- The fields of a variant are told by their text, and so is what follows it. -/
theorem payload_append_inj (named : ∀ field ∈ fields, FieldNamed field)
    (tells : ∀ field ∈ fields, TellsText field.2)
    (otherNamed : ∀ other ∈ others, FieldNamed other)
    (continues : Continues AfterVariant rest) (otherContinues : Continues AfterVariant otherRest)
    (same : payloadForm fields ++ rest = payloadForm others ++ otherRest) :
    fields = others ∧ rest = otherRest := by
  cases fields with
  | nil =>
      cases others with
      | nil => exact ⟨rfl, same⟩
      | cons first others =>
          have opened : '(' ∈ rest.head? := by
            rw [payloadForm, List.nil_append] at same
            rw [same]
            rfl
          exact absurd rfl (continues _ opened).2
  | cons field fields =>
      cases others with
      | nil =>
          have opened : '(' ∈ otherRest.head? := by
            rw [payloadForm, payloadForm, List.nil_append] at same
            rw [← same]
            rfl
          exact absurd rfl (otherContinues _ opened).2
      | cons other others =>
          simp only [payloadForm, List.cons_append, List.append_assoc, List.nil_append,
            List.cons.injEq, true_and] at same
          exact fields_append_inj (by decide) (by decide) named tells otherNamed same

end Fields

/-- A variant is told by its name and its fields. -/
theorem tells_variant {variant : String × List (String × Schema)} (named : VariantNamed variant)
    (tells : ∀ field ∈ variant.2, TellsText field.2) :
    Tells AfterVariant VariantNamed variantForm variant := by
  intro other rest otherRest otherNamed continues otherContinues same
  have breaks (fields : List (String × Schema)) {text : List Char}
      (next : Continues AfterVariant text) : Breaks (payloadForm fields ++ text) := by
    cases fields with
    | nil => exact next.mono fun _ allowed => allowed.1
    | cons _ _ =>
        have parenthesis : '(' ∈ marks := by decide
        exact continues_cons parenthesis
  rw [variantForm, variantForm, List.append_assoc, List.append_assoc] at same
  obtain ⟨names, left⟩ := named.1.tells otherNamed.1 (breaks variant.2 continues)
    (breaks other.2 otherContinues) same
  obtain ⟨payloads, rests⟩ :=
    payload_append_inj named.2 tells otherNamed.2 continues otherContinues left
  exact ⟨Prod.ext names payloads, rests⟩

/-- Variants up to the closing brace are told from all others. -/
theorem variants_append_inj {variants others : List (String × List (String × Schema))}
    {rest otherRest : List Char} (named : ∀ variant ∈ variants, VariantNamed variant)
    (tells : ∀ variant ∈ variants, ∀ field ∈ variant.2, TellsText field.2)
    (otherNamed : ∀ other ∈ others, VariantNamed other)
    (same : series variantForm variants ++ '\x7d' :: rest =
      series variantForm others ++ '\x7d' :: otherRest) :
    variants = others ∧ rest = otherRest := by
  have comma : AfterVariant ',' := ⟨by decide, by decide⟩
  have brace : AfterVariant '\x7d' := ⟨by decide, by decide⟩
  have opens (variant : String × List (String × Schema)) (isNamed : VariantNamed variant) :
      ∃ first text, variantForm variant = first :: text ∧ first ∉ marks := isNamed.1.opens _
  exact series_append_inj comma brace (by decide) brace.1 opens named
    (fun variant member => tells_variant (named variant member) (tells variant member))
    otherNamed same

/-- Schemas are told from each other by what stands behind their keyword. -/
theorem tells_of_behind {schema : Schema}
    (tells : ∀ ⦃other : Schema⦄ ⦃rest otherRest : List Char⦄, other.WellNamed → Breaks rest →
      Breaks otherRest → schema.keyword = other.keyword →
      schema.behind ++ rest = other.behind ++ otherRest → schema = other ∧ rest = otherRest) :
    TellsText schema := by
  intro other rest otherRest otherNamed breaks otherBreaks same
  obtain ⟨keywords, left⟩ := keyword_eq breaks otherBreaks same
  exact tells otherNamed breaks otherBreaks keywords left

theorem WellNamed.record_iff {name : String} {fields : List (String × Schema)} :
    (record name fields).WellNamed ↔ IsName name ∧ ∀ field ∈ fields, FieldNamed field := by
  rw [WellNamed, names, List.forall_mem_cons, fieldsNamed_iff]

theorem WellNamed.enumeration_iff {name : String}
    {variants : List (String × List (String × Schema))} :
    (enumeration name variants).WellNamed ↔
      IsName name ∧ ∀ variant ∈ variants, VariantNamed variant := by
  rw [WellNamed, names, List.forall_mem_cons, variantsNamed_iff]

/-- The text of a schema determines the schema, and where the text ends. -/
theorem tells_text {schema : Schema} (named : schema.WellNamed) : TellsText schema := by
  induction schema with
  | bool | string | bytes | timestamp | duration | scalar _ =>
      apply tells_of_behind
      intro other rest otherRest _ _ _ keywords same
      cases other <;> cases keywords
      exact ⟨rfl, same⟩
  | object name =>
      apply tells_of_behind
      intro other rest otherRest otherNamed _ _ keywords same
      cases other with
      | object otherName =>
          have isName : IsName name := named name List.mem_cons_self
          have otherIsName : IsName otherName := otherNamed otherName List.mem_cons_self
          obtain ⟨rfl, rests⟩ := isName.tells.angled otherIsName same
          exact ⟨rfl, rests⟩
      | _ => cases keywords
  | optional item ih =>
      apply tells_of_behind
      intro other rest otherRest otherNamed _ _ keywords same
      cases other with
      | optional otherItem =>
          have otherItemNamed : otherItem.WellNamed := otherNamed
          obtain ⟨rfl, rests⟩ := (ih named).angled otherItemNamed same
          exact ⟨rfl, rests⟩
      | _ => cases keywords
  | sequence item ih =>
      apply tells_of_behind
      intro other rest otherRest otherNamed _ _ keywords same
      cases other with
      | sequence otherItem =>
          have otherItemNamed : otherItem.WellNamed := otherNamed
          obtain ⟨rfl, rests⟩ := (ih named).angled otherItemNamed same
          exact ⟨rfl, rests⟩
      | _ => cases keywords
  | map key value keyIh valueIh =>
      apply tells_of_behind
      intro other rest otherRest otherNamed _ _ keywords same
      cases other with
      | map otherKey otherValue =>
          have comma : ',' ∈ marks := by decide
          have angle : '>' ∈ marks := by decide
          obtain ⟨keyNamed, valueNamed⟩ := List.forall_mem_append.mp named
          obtain ⟨otherKeyNamed, otherValueNamed⟩ := List.forall_mem_append.mp otherNamed
          simp only [behind, angled, List.cons_append, List.append_assoc, List.nil_append,
            List.cons.injEq, true_and] at same
          obtain ⟨rfl, separated⟩ :=
            keyIh keyNamed otherKeyNamed (continues_cons comma) (continues_cons comma) same
          simp only [List.cons.injEq, true_and] at separated
          obtain ⟨rfl, ends⟩ := valueIh valueNamed otherValueNamed (continues_cons angle)
            (continues_cons angle) separated
          exact ⟨rfl, (List.cons.inj ends).2⟩
      | _ => cases keywords
  | record name fields ih =>
      apply tells_of_behind
      intro other rest otherRest otherNamed _ _ keywords same
      cases other with
      | record otherName otherFields =>
          obtain ⟨isName, fieldsNamed⟩ := WellNamed.record_iff.mp named
          obtain ⟨otherIsName, otherFieldsNamed⟩ := WellNamed.record_iff.mp otherNamed
          obtain ⟨rfl, opened⟩ := titled_append_inj isName otherIsName same
          obtain ⟨rfl, rests⟩ := fields_append_inj (by decide) (by decide) fieldsNamed
            (fun field member => ih field member (fieldsNamed field member).2)
            otherFieldsNamed opened
          exact ⟨rfl, rests⟩
      | _ => cases keywords
  | enumeration name variants ih =>
      apply tells_of_behind
      intro other rest otherRest otherNamed _ _ keywords same
      cases other with
      | enumeration otherName otherVariants =>
          obtain ⟨isName, variantsNamed⟩ := WellNamed.enumeration_iff.mp named
          obtain ⟨otherIsName, otherVariantsNamed⟩ := WellNamed.enumeration_iff.mp otherNamed
          obtain ⟨rfl, opened⟩ := titled_append_inj isName otherIsName same
          obtain ⟨rfl, rests⟩ := variants_append_inj variantsNamed
            (fun variant listed field member =>
              ih variant listed field member ((variantsNamed variant listed).2 field member).2)
            otherVariantsNamed opened
          exact ⟨rfl, rests⟩
      | _ => cases keywords

end Schema

end Boundary
