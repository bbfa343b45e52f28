import Boundary.Proofs.Schema.Conformance
import Boundary.Proofs.Time
import Boundary.Proofs.Wire.Filling

/-! # What the format can express

Lengths, counts and case numbers are signed 32-bit words on the wire and the seconds of an
instant a signed 64-bit word. A value exceeds the format when some node of it does not
fit such a word (`Boundary.Schema.Exceeds`). The write of a value that conforms fills
exactly the bytes of the encoding, unless the value exceeds the format
(`Boundary.Schema.write_fills`). What the computed size says and what the write does
therefore never disagree: the encoding has the computed size, or there is none because a
limit of the format is in the way
(`Boundary.Schema.size_and_encode_of_wireSize_lt`).
-/

namespace Boundary

namespace Instant

/-- An instant fills twelve bytes unless it lies 2^63 seconds away from the epoch. -/
theorem write_fills (instant : Instant) :
    instant.write.Fills 12 (signedLimit * nanosPerSecond ≤ instant.nanos.natAbs) := by
  have far : signedLimit ≤ instant.seconds ↔
      signedLimit * nanosPerSecond ≤ instant.nanos.natAbs :=
    Nat.le_div_iff_mul_le (by decide)
  rw [← far]
  unfold Instant.write
  by_cases refused : signedLimit ≤ instant.seconds
  · rw [if_pos refused]
    exact .failing (.inr ⟨instant.text, rfl⟩) refused 12
  · rw [if_neg refused]
    exact ((Write.Fills.word 8 _).seq (.word 4 _)).congr (by simp only [or_self, refused])

end Instant

theorem Duration.write_fills (duration : Duration) : duration.write.Fills 12 False :=
  ((Write.Fills.word 8 _).seq (.word 4 _)).congr (or_self_iff)

namespace Schema

/-- Some node of the value is more than the format can express: a text, byte string, sequence
or map too long for a length prefix, a variant too far behind for a case number, or an
instant too far from the epoch. -/
inductive Exceeds : Schema → Value → Prop
  | string {text : String} (long : maxLength < Utf8.size text) : Exceeds .string (.string text)
  | bytes {data : Bytes} (long : maxLength < data.length) : Exceeds .bytes (.bytes data)
  | timestamp {instant : Instant} (far : signedLimit * nanosPerSecond ≤ instant.nanos.natAbs) :
      Exceeds .timestamp (.timestamp instant)
  | sequence {item : Schema} {values : List Value} (long : maxLength < values.length) :
      Exceeds (.sequence item) (.sequence values)
  | map {key mapped : Schema} {entries : List (Value × Value)} (long : maxLength < entries.length) :
      Exceeds (.map key mapped) (.map entries)
  | variant {name variant : String} {variants : List (String × List (String × Schema))}
      {position : Nat} {declared : List (String × Schema)} {fields : List (String × Value)}
      (found : variant? variants variant = some (position, declared))
      (late : maxLength ≤ position) : Exceeds (.enumeration name variants) (.variant variant fields)
  | present {item : Schema} {value : Value} (inner : item.Exceeds value) :
      Exceeds (.optional item) (.present value)
  | item {item : Schema} {values : List Value} {value : Value} (member : value ∈ values)
      (inner : item.Exceeds value) : Exceeds (.sequence item) (.sequence values)
  | key {key mapped : Schema} {entries : List (Value × Value)} {entry : Value × Value}
      (member : entry ∈ entries) (inner : key.Exceeds entry.1) :
      Exceeds (.map key mapped) (.map entries)
  | mapped {key mapped : Schema} {entries : List (Value × Value)} {entry : Value × Value}
      (member : entry ∈ entries) (inner : mapped.Exceeds entry.2) :
      Exceeds (.map key mapped) (.map entries)
  | field {name : String} {declared : List (String × Schema)} {fields : List (String × Value)}
      {pair : (String × Schema) × (String × Value)} (member : pair ∈ declared.zip fields)
      (inner : pair.1.2.Exceeds pair.2.2) : Exceeds (.record name declared) (.record fields)
  | content {name variant : String} {variants : List (String × List (String × Schema))}
      {position : Nat} {declared : List (String × Schema)} {fields : List (String × Value)}
      {pair : (String × Schema) × (String × Value)}
      (found : variant? variants variant = some (position, declared))
      (member : pair ∈ declared.zip fields) (inner : pair.1.2.Exceeds pair.2.2) :
      Exceeds (.enumeration name variants) (.variant variant fields)

/-- Fields fill their rooms one by one. -/
theorem writeFields_fills {declared : List (String × Schema)} {fields : List (String × Value)}
    (named : declared.map Prod.fst = fields.map Prod.fst)
    (each : ∀ pair ∈ declared.zip fields,
      (pair.1.2.write pair.2.2).Fills pair.2.2.wireSize (pair.1.2.Exceeds pair.2.2)) :
    (writeFields declared fields).Fills (Value.fieldsWireSize fields)
      (∃ pair ∈ declared.zip fields, pair.1.2.Exceeds pair.2.2) := by
  induction declared generalizing fields with
  | nil =>
      cases fields with
      | nil =>
          refine (Write.Fills.of_emits .nothing).congr ?_
          simp only [List.zip_nil_left, List.not_mem_nil, false_and, exists_false]
      | cons _ _ => cases named
  | cons first rest ih =>
      cases fields with
      | nil => cases named
      | cons given others =>
          rw [List.zip_cons_cons] at each
          have head := each (first, given) List.mem_cons_self
          have tail := ih (List.cons.inj named).2 fun pair member =>
            each pair (List.mem_cons_of_mem _ member)
          rw [List.zip_cons_cons]
          exact (head.seq tail).congr (by simp only [List.mem_cons, exists_eq_or_imp])

/-- The write of a value that conforms fills the bytes of its encoding, unless the value
exceeds the format. -/
theorem write_fills {schema : Schema} {value : Value} (conforms : schema.Conforms value) :
    (schema.write value).Fills value.wireSize (schema.Exceeds value) := by
  induction conforms with
  | bool truth => exact (Write.Fills.word 1 _).congr ⟨False.elim, nofun⟩
  | scalar type word =>
      rw [Schema.write, if_pos rfl]
      exact (Write.Fills.word type.width _).congr ⟨False.elim, nofun⟩
  | string text =>
      exact (Write.Fills.counted (Utf8.encode text)).congr ⟨.string, fun | .string long => long⟩
  | bytes data => exact (Write.Fills.counted data).congr ⟨.bytes, fun | .bytes long => long⟩
  | timestamp instant => exact instant.write_fills.congr ⟨.timestamp, fun | .timestamp far => far⟩
  | duration length => exact length.write_fills.congr ⟨False.elim, nofun⟩
  | object name handle => exact (Write.Fills.word 8 _).congr ⟨False.elim, nofun⟩
  | absent item => exact (Write.Fills.word 1 0).congr ⟨False.elim, nofun⟩
  | present _ ih =>
      refine ((Write.Fills.word 1 1).seq ih).congr ⟨?_, fun | .present inner => .inr inner⟩
      rintro (never | inner)
      · exact never.elim
      · exact .present inner
  | @sequence item values _ ih =>
      rw [Value.wireSize, Value.itemsWireSize_eq_sum]
      refine ((Write.Fills.length values.length).seq (.inOrder ih)).congr ⟨?_, ?_⟩
      · rintro (long | ⟨value, member, inner⟩)
        · exact .sequence long
        · exact .item member inner
      · intro exceeds
        cases exceeds with
        | sequence long => exact .inl long
        | item member inner => exact .inr ⟨_, member, inner⟩
  | @map key mapped entries _ _ keyIH valueIH =>
      rw [Value.wireSize, Value.entriesWireSize_eq_sum]
      have each : ∀ entry ∈ entries,
          Write.Fills (do key.write entry.1; mapped.write entry.2)
            (entry.1.wireSize + entry.2.wireSize)
            (key.Exceeds entry.1 ∨ mapped.Exceeds entry.2) :=
        fun entry member => (keyIH entry member).seq (valueIH entry member)
      refine ((Write.Fills.length entries.length).seq (.inOrder each)).congr ⟨?_, ?_⟩
      · rintro (long | ⟨entry, member, inner | inner⟩)
        · exact .map long
        · exact .key member inner
        · exact .mapped member inner
      · intro exceeds
        cases exceeds with
        | map long => exact .inl long
        | key member inner => exact .inr ⟨_, member, .inl inner⟩
        | mapped member inner => exact .inr ⟨_, member, .inr inner⟩
  | record named _ ih =>
      rw [Schema.write, ofExcept_bind_of_ok (checkFields_eq_ok_iff.mpr named), Value.wireSize]
      refine (writeFields_fills named ih).congr ⟨?_, ?_⟩
      · rintro ⟨pair, member, inner⟩
        exact .field member inner
      · intro exceeds
        cases exceeds with
        | field member inner => exact ⟨_, member, inner⟩
  | @variant name variant variants position declared fields found named _ ih =>
      have checked := ofExcept_bind_of_ok
        ((@checkFields_eq_ok_iff name declared fields).mpr named)
      simp only [Schema.write, writeVariant_eq, found, Nat.zero_add, checked, Value.wireSize]
      have filled := (Write.Fills.discriminant position).seq (writeFields_fills named ih)
      refine filled.congr ⟨?_, ?_⟩
      · rintro (late | ⟨pair, member, inner⟩)
        · exact .variant found late
        · exact .content found member inner
      · intro exceeds
        cases exceeds with
        | variant foundAgain late =>
            cases found.symm.trans foundAgain
            exact .inl late
        | content foundAgain member inner =>
            cases found.symm.trans foundAgain
            exact .inr ⟨_, member, inner⟩

/-- A value that conforms is encoded unless it exceeds the format. -/
theorem encode_of_conforms {schema : Schema} {value : Value} (conforms : schema.Conforms value)
    (short : value.wireSize < signedLimit) :
    (¬ schema.Exceeds value → ∃ bytes, schema.encode value = .ok bytes ∧
      bytes.length = value.wireSize) ∧
      (schema.Exceeds value → ∃ cause, cause.IsLimit ∧
        schema.encode value = .error (.error cause)) := by
  rw [encode_of_size ((size_eq_ok_iff schema value _).mpr ⟨conforms, rfl⟩)]
  exact Lowering.toBytes_of_fills (write_fills conforms) rfl short

/-- **Sizes and encodings never disagree.** A size is computed exactly for values that conform,
and it is the number of bytes of the encoding. A value that has a size fails to be encoded
exactly when it exceeds the format, and then for that reason. -/
theorem size_and_encode_of_wireSize_lt {schema : Schema} {value : Value}
    (short : value.wireSize < signedLimit) :
    ((∃ size, schema.size value = .ok size) ↔ schema.Conforms value) ∧
      ∀ size, schema.size value = .ok size →
        size = value.wireSize ∧
        ((∃ fault, schema.encode value = .error fault) ↔ schema.Exceeds value) ∧
        (∀ bytes, schema.encode value = .ok bytes → bytes.length = size) ∧
        ∀ fault, schema.encode value = .error fault →
          ∃ cause, fault = .error cause ∧ cause.IsLimit := by
  refine ⟨⟨?_, ?_⟩, ?_⟩
  · rintro ⟨size, sized⟩
    exact ((size_eq_ok_iff schema value size).mp sized).1
  · intro conforms
    exact ⟨_, (size_eq_ok_iff schema value _).mpr ⟨conforms, rfl⟩⟩
  · intro size sized
    obtain ⟨conforms, rfl⟩ := (size_eq_ok_iff schema value size).mp sized
    obtain ⟨within, beyond⟩ := encode_of_conforms conforms short
    refine ⟨rfl, ?_⟩
    by_cases exceeds : schema.Exceeds value
    · obtain ⟨cause, limit, failed⟩ := beyond exceeds
      rw [failed]
      refine ⟨⟨fun _ => exceeds, fun _ => ⟨_, rfl⟩⟩, nofun, ?_⟩
      rintro _ ⟨⟩
      exact ⟨cause, rfl, limit⟩
    · obtain ⟨bytes, encoded, length⟩ := within exceeds
      rw [encoded]
      refine ⟨⟨nofun, fun holds => absurd holds exceeds⟩, ?_, nofun⟩
      rintro _ ⟨⟩
      exact length

/-- Of two variants of one name the first is meant. The earliest instant lies too far from the
epoch to be written, and the one a nanosecond later does not. -/
theorem size_and_encode_of_wireSize_lt_earliest :
    let schema : Schema := .enumeration "mark" [("at", [("time", .timestamp)]), ("at", [])]
    let earliest : Value :=
      .variant "at" [("time", .timestamp ⟨-instantRange, by decide, by decide⟩)]
    let next : Value :=
      .variant "at" [("time", .timestamp ⟨-instantRange + 1, by decide, by decide⟩)]
    let bytes : Bytes := [0, 0, 0, 1, 128, 0, 0, 0, 0, 0, 0, 1, 59, 154, 201, 255]
    (earliest.wireSize < signedLimit ∧ schema.size earliest = .ok 16 ∧ schema.Exceeds earliest ∧
        ∃ cause, schema.encode earliest = .error (.error cause) ∧ cause.IsLimit) ∧
      next.wireSize < signedLimit ∧ schema.size next = .ok 16 ∧ schema.Conforms next ∧
        schema.encode next = .ok bytes ∧ ¬ schema.Exceeds next := by
  intro schema earliest next bytes
  have short : earliest.wireSize < signedLimit := by decide
  have nextShort : next.wireSize < signedLimit := by decide
  have sized : schema.size earliest = .ok 16 := rfl
  have nextSized : schema.size next = .ok 16 := rfl
  have exceeds : schema.Exceeds earliest :=
    .content rfl List.mem_cons_self (.timestamp (by decide))
  have encoded : schema.encode next = .ok bytes := by cbv
  obtain ⟨_, outcome⟩ := @size_and_encode_of_wireSize_lt schema earliest short
  obtain ⟨conforming, nextOutcome⟩ := @size_and_encode_of_wireSize_lt schema next nextShort
  obtain ⟨_, fails, _, limits⟩ := outcome 16 sized
  obtain ⟨_, nextFails, _⟩ := nextOutcome 16 nextSized
  refine ⟨⟨short, sized, exceeds, ?_⟩, nextShort, nextSized, conforming.mp ⟨16, nextSized⟩,
    encoded, ?_⟩
  · obtain ⟨fault, failed⟩ := fails.mpr exceeds
    obtain ⟨cause, rfl, limit⟩ := limits fault failed
    exact ⟨cause, failed, limit⟩
  · intro holds
    obtain ⟨fault, failed⟩ := nextFails.mpr holds
    cases encoded.symm.trans failed

end Schema

end Boundary
