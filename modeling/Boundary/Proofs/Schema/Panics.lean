import Boundary.Proofs.Schema.Locality
import Boundary.Proofs.Shape.Agreement
import Boundary.Proofs.Wire.Panics
import Boundary.Proofs.Wire.Production

/-! # Which input makes lifting panic

Everything that is read is checked, except that the nanoseconds of a duration may carry
past its seconds. An overlong duration panics wherever it stands, and nothing else in any
input does (`Boundary.Schema.lifting_panics_iff`), neither under a schema nor along a
shape. A schema without durations never panics
(`Boundary.Schema.lift_ne_panic_of_no_durations`).
-/

namespace Boundary

open Read (Local NeverPanics PanicsOn Produces Takes)

namespace Duration

/-- The bytes of seconds and of nanoseconds that carry beyond the longest duration. -/
inductive Overlong : Bytes → Prop
  | parts {seconds nanos : Nat} : seconds < wordLimit → nanos < 2 ^ 32 →
      wordLimit ≤ seconds + nanos / nanosPerSecond →
      Overlong (BigEndian.encode 8 seconds ++ BigEndian.encode 4 nanos)

/-- What the panic carries when a duration is overlong. -/
def overflow : PanicPayload := .text "overflow in Duration::new"

/-- Seconds and nanoseconds make no duration when the carry leaves the range of seconds. -/
theorem ofParts?_eq_none_iff (seconds nanos : Nat) :
    ofParts? seconds nanos = none ↔ wordLimit ≤ seconds + nanos / nanosPerSecond := by
  unfold ofParts? wordLimit nanosPerSecond
  split
  · next short => exact iff_of_false nofun (by omega)
  · next long => exact iff_of_true rfl (by omega)

/-- Reading a duration panics on those that are overlong. -/
theorem read_panicsOn : Duration.read.PanicsOn overflow Overlong := by
  refine PanicsOn.congr (PanicsOn.behind (.word 8) (.word 8) fun seconds =>
    .behind (.word 4) (.word 4) (fun nanos => ?carried : ∀ nanos : BitVec (8 * 4),
      PanicsOn _ _ fun data =>
        data = [] ∧ wordLimit ≤ seconds.toNat + nanos.toNat / nanosPerSecond)) fun data => ?_
  case carried =>
    have outcome := ofParts?_eq_none_iff seconds.toNat nanos.toNat
    cases made : ofParts? seconds.toNat nanos.toNat with
    | some duration =>
        rw [made] at outcome
        exact (PanicsOn.of_never (.pure duration)).congr fun _ =>
          iff_of_false (fun holds => Option.some_ne_none _ (outcome.mpr holds.2)) id
    | none => exact PanicsOn.unwind.congr fun _ => and_iff_left (outcome.mp made)
  constructor
  · rintro @⟨seconds, nanos, secondsFit, nanosFit, long⟩
    refine ⟨_, _, _, rfl, Takes.word 8 seconds, _, _, [], (List.append_nil _).symm,
      Takes.word 4 nanos, rfl, ?_⟩
    have secondsSame : (BitVec.ofNat (8 * 8) seconds).toNat = seconds := Nat.mod_eq_of_lt secondsFit
    have nanosSame : (BitVec.ofNat (8 * 4) nanos).toNat = nanos := Nat.mod_eq_of_lt nanosFit
    rw [secondsSame, nanosSame]
    exact long
  · rintro ⟨_, seconds, _, rfl, secondsTaken, _, nanos, _, rfl, nanosTaken, rfl, long⟩
    rw [(Produces.word 8).of_takes secondsTaken, (Produces.word 4).of_takes nanosTaken,
      List.append_nil]
    exact .parts seconds.isLt nanos.isLt long

end Duration

/-- Reading an instant never panics. -/
theorem Instant.read_never_panics : Instant.read.NeverPanics := by
  refine (NeverPanics.word 8).bind fun seconds => (NeverPanics.word 4).bind fun nanos => ?_
  dsimp only
  split
  · exact .pure _
  · exact .fail _

namespace Schema

/-- Under the schema the bytes are read up to the end of an overlong duration. -/
inductive LeadsToOverlong : Schema → Bytes → Prop
  | duration {data : Bytes} : Duration.Overlong data → LeadsToOverlong .duration data
  | present {item : Schema} {tag data : Bytes} : Read.byte.Takes tag 1 →
      LeadsToOverlong item data → LeadsToOverlong (.optional item) (tag ++ data)
  | item {item : Schema} {count passed : Nat} {values : List Value} {start front data : Bytes} :
      Read.length.Takes start count → passed < count →
      (Read.times item.read passed).Takes front values →
      LeadsToOverlong item data → LeadsToOverlong (.sequence item) (start ++ (front ++ data))
  | key {key mapped : Schema} {count passed : Nat} {entries : List (Value × Value)}
      {start front data : Bytes} :
      Read.length.Takes start count → passed < count →
      (Read.times (do return (← key.read, ← mapped.read)) passed).Takes front entries →
      LeadsToOverlong key data → LeadsToOverlong (.map key mapped) (start ++ (front ++ data))
  | mapped {key mapped : Schema} {count passed : Nat} {entries : List (Value × Value)}
      {name : Value} {start front between data : Bytes} :
      Read.length.Takes start count → passed < count →
      (Read.times (do return (← key.read, ← mapped.read)) passed).Takes front entries →
      key.read.Takes between name → LeadsToOverlong mapped data →
      LeadsToOverlong (.map key mapped) (start ++ (front ++ (between ++ data)))
  | field {name : String} {declared passed rest : List (String × Schema)}
      {field : String × Schema} {fields : List (String × Value)} {front data : Bytes} :
      declared = passed ++ field :: rest → (readFields passed).Takes front fields →
      LeadsToOverlong field.2 data → LeadsToOverlong (.record name declared) (front ++ data)
  | content {name variant : String} {variants : List (String × List (String × Schema))}
      {position : Nat} {passed rest : List (String × Schema)} {field : String × Schema}
      {fields : List (String × Value)} {number front data : Bytes} :
      (Read.discriminant name variants.length).Takes number position →
      variants[position]? = some (variant, passed ++ field :: rest) →
      (readFields passed).Takes front fields → LeadsToOverlong field.2 data →
      LeadsToOverlong (.enumeration name variants) (number ++ (front ++ data))

/-- The input begins with bytes that lead to an overlong duration. -/
def Overruns (schema : Schema) (bytes : Bytes) : Prop :=
  ∃ data rest, bytes = data ++ rest ∧ schema.LeadsToOverlong data

/-- Some field panics, and those before it are taken. -/
theorem readFields_panicsOn {payload : PanicPayload} {cause : Schema → Bytes → Prop}
    {declared : List (String × Schema)}
    (each : ∀ field ∈ declared, field.2.read.PanicsOn payload (cause field.2)) :
    (readFields declared).PanicsOn payload fun data =>
      ∃ passed field rest, declared = passed ++ field :: rest ∧ ∃ front fields back,
        data = front ++ back ∧ (readFields passed).Takes front fields ∧ cause field.2 back := by
  induction declared with
  | nil =>
      refine (PanicsOn.of_never (.pure [])).congr fun data => iff_of_false ?_ id
      rintro ⟨passed, field, rest, split, _⟩
      exact absurd split.symm (List.append_ne_nil_of_right_ne_nil _ (List.cons_ne_nil _ _))
  | cons first others ih =>
      obtain ⟨name, schema⟩ := first
      have head := each (name, schema) List.mem_cons_self
      have tail := ih fun field member => each field (List.mem_cons_of_mem _ member)
      refine (head.bind schema.read_local fun value => tail.returning).congr fun data => ?_
      constructor
      · rintro ⟨passed, field, rest, split, front, fields, back, rfl, taken, holds⟩
        cases passed with
        | nil =>
            obtain ⟨rfl, rfl⟩ := List.cons.inj split
            obtain ⟨rfl, _⟩ := Takes.of_pure taken
            exact .inl holds
        | cons passedFirst passed =>
            obtain ⟨rfl, rfl⟩ := List.cons.inj split
            have decided := readFields_local fun field (_ : field ∈ passed) => field.2.read_local
            obtain ⟨start, value, inner, rfl, takes, remaining⟩ :=
              schema.read_local.of_takes_bind (fun _ => decided.bind fun _ => .pure _) taken
            obtain ⟨middle, values, none, rfl, fieldsTaken, last⟩ :=
              decided.of_takes_bind (fun _ => .pure _) remaining
            obtain ⟨rfl, _⟩ := Takes.of_pure last
            rw [List.append_nil, List.append_assoc]
            exact .inr ⟨start, value, middle ++ back, rfl, takes, passed, field, rest, rfl, middle,
              values, back, rfl, fieldsTaken, holds⟩
      · rintro (holds | ⟨start, value, _, rfl, takes, passed, field, rest, rfl, middle, values,
          back, rfl, taken, holds⟩)
        · exact ⟨[], (name, schema), others, rfl, [], [], data, rfl, Takes.pure [], holds⟩
        · refine ⟨(name, schema) :: passed, field, rest, rfl, start ++ middle,
            (name, value) :: values, back, ?_, takes.bind (taken.returning rfl), holds⟩
          rw [List.append_assoc]

/-- Reading under a schema panics on what leads to an overlong duration. -/
theorem read_panicsOn (schema : Schema) :
    schema.read.PanicsOn Duration.overflow schema.LeadsToOverlong := by
  -- Where nothing panics, nothing leads to an overlong duration either.
  have safe {schema : Schema} (never : schema.read.NeverPanics)
      (none : ∀ data, ¬ schema.LeadsToOverlong data) :
      schema.read.PanicsOn Duration.overflow schema.LeadsToOverlong :=
    (PanicsOn.of_never never).congr fun data => iff_of_false (none data) id
  induction schema with
  | bool =>
      refine safe (NeverPanics.byte.bind fun tag => ?_) (by rintro _ ⟨⟩)
      split
      · exact .pure _
      · exact .pure _
      · exact .fail _
  | scalar type =>
      exact safe ((NeverPanics.word type.width).bind fun _ => .pure _)
        (by rintro _ ⟨⟩)
  | string => exact safe (NeverPanics.text.bind fun _ => .pure _) (by rintro _ ⟨⟩)
  | bytes =>
      exact safe (NeverPanics.length.bind fun count => (NeverPanics.bytes count).bind fun _ =>
        .pure _) (by rintro _ ⟨⟩)
  | timestamp =>
      exact safe (Instant.read_never_panics.bind fun _ => .pure _) (by rintro _ ⟨⟩)
  | duration =>
      refine Duration.read_panicsOn.returning.congr fun data => ⟨?_, .duration⟩
      intro leads
      cases leads with
      | duration overlong => exact overlong
  | object name =>
      exact safe (((NeverPanics.word 8).bind fun _ => .pure _).bind fun _ => .pure _)
        (by rintro _ ⟨⟩)
  | optional item ih =>
      refine PanicsOn.congr (PanicsOn.behind .byte .byte
        (fun tag => ?tagged : ∀ tag : Nat, PanicsOn _ _ fun data =>
          tag = 1 ∧ item.LeadsToOverlong data)) fun data => ⟨?_, ?_⟩
      case tagged =>
        rcases tag with _ | _ | tag
        · exact (PanicsOn.of_never (.pure _)).congr fun _ =>
            iff_of_false (fun holds => Nat.zero_ne_one holds.1) id
        · exact ih.returning.congr fun _ => and_iff_right rfl
        · exact (PanicsOn.of_never (.fail _)).congr fun _ =>
            iff_of_false (fun holds => absurd holds.1 (by omega)) id
      · intro leads
        cases leads with
        | present tagged inner => exact ⟨_, _, _, rfl, tagged, rfl, inner⟩
      · rintro ⟨_, _, _, rfl, tagged, rfl, inner⟩
        exact .present tagged inner
  | sequence item ih =>
      refine (PanicsOn.behind .length .length fun count =>
        (ih.times item.read_local count).returning).congr fun data => ⟨?_, ?_⟩
      · intro leads
        cases leads with
        | item counted early taken inner =>
            exact ⟨_, _, _, rfl, counted, _, early, _, _, _, rfl, taken, inner⟩
      · rintro ⟨_, _, _, rfl, counted, _, early, _, _, _, rfl, taken, inner⟩
        exact .item counted early taken inner
  | map key mapped keyIH mappedIH =>
      have entry := keyIH.bind key.read_local fun name =>
        (mappedIH.returning : Read.PanicsOn (do return (name, ← mapped.read)) _ _)
      have decided : Local (do return (← key.read, ← mapped.read)) :=
        key.read_local.bind fun _ => mapped.read_local.bind fun _ => .pure _
      refine (PanicsOn.behind .length .length fun count =>
        (entry.times decided count).returning).congr fun data => ⟨?_, ?_⟩
      · intro leads
        cases leads with
        | key counted early taken inner =>
            exact ⟨_, _, _, rfl, counted, _, early, _, _, _, rfl, taken, .inl inner⟩
        | mapped counted early taken named inner =>
            exact ⟨_, _, _, rfl, counted, _, early, _, _, _, rfl, taken,
              .inr ⟨_, _, _, rfl, named, inner⟩⟩
      · rintro ⟨_, _, _, rfl, counted, _, early, _, _, _, rfl, taken,
          inner | ⟨_, _, _, rfl, named, inner⟩⟩
        · exact .key counted early taken inner
        · exact .mapped counted early taken named inner
  | record name declared ih =>
      refine (readFields_panicsOn ih).returning.congr fun data => ⟨?_, ?_⟩
      · intro leads
        cases leads with
        | field split taken inner => exact ⟨_, _, _, split, _, _, _, rfl, taken, inner⟩
      · rintro ⟨_, _, _, split, _, _, _, rfl, taken, inner⟩
        exact .field split taken inner
  | enumeration name variants ih =>
      have chosen (position : Nat) : PanicsOn
          ((readVariants variants)[position]?.getD
            (Act.fail (.invalidDiscriminant name (position + 1) variants.length)))
          Duration.overflow fun data => ∃ variant passed field rest,
            variants[position]? = some (variant, passed ++ field :: rest) ∧
              ∃ front fields back, data = front ++ back ∧
                (readFields passed).Takes front fields ∧ field.2.LeadsToOverlong back := by
        rw [readVariants_eq_map, List.getElem?_map]
        cases listed : variants[position]? with
        | none =>
            refine (PanicsOn.of_never (.fail _)).congr fun _ => iff_of_false ?_ id
            rintro ⟨_, _, _, _, found, _⟩
            cases found
        | some variant =>
            obtain ⟨variantName, declared⟩ := variant
            refine (readFields_panicsOn (ih _ (List.mem_of_getElem? listed))).returning.congr
              fun data => ⟨?_, ?_⟩
            · rintro ⟨_, passed, field, rest, found, inner⟩
              cases found
              exact ⟨passed, field, rest, rfl, inner⟩
            · rintro ⟨passed, field, rest, rfl, inner⟩
              exact ⟨variantName, passed, field, rest, rfl, inner⟩
      refine (PanicsOn.behind (.discriminant name variants.length)
        (.discriminant name variants.length) chosen).congr fun data => ⟨?_, ?_⟩
      · intro leads
        cases leads with
        | content numbered listed taken inner =>
            exact ⟨_, _, _, rfl, numbered, _, _, _, _, listed, _, _, _, rfl, taken, inner⟩
      · rintro ⟨_, _, _, rfl, numbered, _, _, _, _, listed, _, _, _, rfl, taken, inner⟩
        exact .content numbered listed taken inner

/-- What leads to a duration is read under a schema that has one. -/
theorem LeadsToOverlong.duration_within {schema : Schema} {data : Bytes}
    (leads : schema.LeadsToOverlong data) : Schema.duration.Within schema := by
  induction leads with
  | duration _ => exact .self
  | present _ _ ih => exact .optional ih
  | item _ _ _ _ ih => exact .sequence ih
  | key _ _ _ _ ih => exact .key ih
  | mapped _ _ _ _ _ ih => exact .mapped ih
  | field split _ _ ih => exact .field (split ▸ List.mem_append_cons_self) ih
  | content _ listed _ _ ih =>
      exact .content (List.mem_of_getElem? listed) List.mem_append_cons_self ih

/-- Without durations no input panics. -/
theorem lift_ne_panic_of_no_durations {schema : Schema} (none : ¬ Schema.duration.Within schema)
    (bytes : Bytes) (raised : PanicPayload) : schema.lift bytes ≠ .error (.panic raised) := by
  intro panicked
  obtain ⟨_, data, rest, rfl, leads⟩ := (schema.read_panicsOn.lift_iff bytes raised).mp panicked
  exact none leads.duration_within

/-- **Lifting panics on overlong durations only.** Whatever the schema or the shape, every other
input is lifted or refused with an error, and so is any input where no error is declared. -/
theorem lifting_panics_iff (bytes : Bytes) (raised : PanicPayload) :
    (∀ schema : Schema,
      (schema.lift bytes = .error (.panic raised) ↔
        raised = Duration.overflow ∧ schema.Overruns bytes) ∧
      (schema.decode bytes = .error (.panic raised) ↔
        raised = Duration.overflow ∧ schema.Overruns bytes)) ∧
      (∀ shape : Shape, shape.decode bytes = .error (.panic raised) ↔
        raised = Duration.overflow ∧ shape.schema.Overruns bytes) ∧
      (@Read.undeclared Empty).liftExact bytes ≠ .error (.panic raised) := by
  refine ⟨fun schema => ?_, fun shape => ?_, ?_⟩
  · have panics := schema.read_panicsOn
    exact ⟨panics.lift_iff bytes raised, panics.liftExact_iff bytes raised⟩
  · refine Iff.trans ?_ (shape.schema.read_panicsOn.liftExact_iff bytes raised)
    rcases (Shape.read_agrees shape.laidOutBy_schema).liftExact bytes with
      ⟨value, dynamic, _, decoded, read⟩ | ⟨fault, failed, read⟩
    · unfold Shape.decode
      rw [decoded, read]
      exact iff_of_false (by rintro ⟨⟩) (by rintro ⟨⟩)
    · unfold Shape.decode
      rw [failed, read]
      simp only [Except.error.injEq]
  · intro panicked
    have never : (@Read.undeclared Empty).PanicsOn raised fun _ => False := .of_never (.fail _)
    obtain ⟨_, _, _, _, impossible⟩ := (never.liftExact_iff bytes raised).mp panicked
    exact impossible

/-- The longest number of seconds with a second's worth of nanoseconds. -/
theorem lift_overlong_duration :
    Schema.duration.lift [255, 255, 255, 255, 255, 255, 255, 255, 59, 154, 202, 0] =
      .error (.panic (.text "overflow in Duration::new")) := by
  have overlong : Duration.Overlong (BigEndian.encode 8 (wordLimit - 1) ++
      BigEndian.encode 4 nanosPerSecond) :=
    .parts (by decide) (by decide) (by decide)
  exact (duration.read_panicsOn.lift_iff _ _).mpr ⟨rfl, _, [], rfl, .duration overlong⟩

end Schema

end Boundary
