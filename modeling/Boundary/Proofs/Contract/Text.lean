import Boundary.Contract.Signature
import Boundary.Proofs.Schema.Text

/-! # The text of a signature

A checksum guards a function as far as its text tells the function from others. Of two
signatures whose names are names, the texts are equal just if the signatures are
(`Boundary.Signature.text_eq_iff`): the text is read back from the left, the flag, the name,
the arguments up to the closing parenthesis, and the two clauses.
-/

namespace Boundary

namespace Signature

/-- The names in a signature, in the order in which they are written. -/
def names (signature : Signature) : List String :=
  signature.name :: (Schema.fieldNames signature.arguments ++
    (signature.result.elim [] Schema.names ++ signature.error.elim [] Schema.names))

/-- The schema of a clause behind its opening, or nothing. -/
def clause (opening : List Char) : Option Schema → List Char
  | some schema => opening ++ schema.text.toList
  | none => []

/-- The characters of a signature, clause by clause. -/
theorem toList_text (signature : Signature) :
    signature.text.toList =
      (if signature.isAsync then "async fn ".toList else "fn ".toList) ++
        (signature.name.toList ++ '(' :: (series Schema.fieldForm signature.arguments ++
          ')' :: (clause " -> ".toList signature.result ++
            clause " throws ".toList signature.error))) := by
  obtain ⟨name, arguments, result, error, isAsync⟩ := signature
  cases isAsync <;> cases result <;> cases error <;>
    simp only [text, String.toList_append, Schema.toList_fieldTexts, List.append_assoc] <;> rfl

section Clauses

variable {result error otherResult otherError : Option Schema}

theorem breaks_clause {character : Char} (mark : character ∈ marks) (opening : List Char)
    (schema? : Option Schema) : Breaks (clause (character :: opening) schema?) := by
  cases schema? with
  | none => exact continues_nil
  | some _ => exact continues_cons mark

/-- The clause of the error is the last one, so its text is that of the schema. -/
theorem error_inj (named : ∀ name ∈ error.elim [] Schema.names, IsName name)
    (otherNamed : ∀ name ∈ otherError.elim [] Schema.names, IsName name)
    (same : clause " throws ".toList error = clause " throws ".toList otherError) :
    error = otherError := by
  cases error with
  | none =>
      cases otherError with
      | none => rfl
      | some _ => cases same
  | some schema =>
      cases otherError with
      | none => cases same
      | some other =>
          have schemaNamed : schema.WellNamed := named
          have otherSchemaNamed : other.WellNamed := otherNamed
          have texts : schema.text.toList ++ [] = other.text.toList ++ [] := by
            rw [List.append_nil, List.append_nil]
            exact List.append_cancel_left same
          obtain ⟨rfl, -⟩ :=
            Schema.tells_text schemaNamed otherSchemaNamed continues_nil continues_nil texts
          rfl

/-- The clauses tell the result from the error, also when one of them is missing. -/
theorem clauses_inj (resultNamed : ∀ name ∈ result.elim [] Schema.names, IsName name)
    (errorNamed : ∀ name ∈ error.elim [] Schema.names, IsName name)
    (otherResultNamed : ∀ name ∈ otherResult.elim [] Schema.names, IsName name)
    (otherErrorNamed : ∀ name ∈ otherError.elim [] Schema.names, IsName name)
    (same : clause " -> ".toList result ++ clause " throws ".toList error =
      clause " -> ".toList otherResult ++ clause " throws ".toList otherError) :
    result = otherResult ∧ error = otherError := by
  have space : ' ' ∈ marks := by decide
  cases result with
  | none =>
      cases otherResult with
      | none => exact ⟨rfl, error_inj errorNamed otherErrorNamed same⟩
      | some _ => cases error <;> cases same
  | some schema =>
      cases otherResult with
      | none => cases otherError <;> cases same
      | some other =>
          have schemaNamed : schema.WellNamed := resultNamed
          have otherSchemaNamed : other.WellNamed := otherResultNamed
          simp only [clause, List.append_assoc, List.append_cancel_left_eq] at same
          obtain ⟨rfl, errors⟩ := Schema.tells_text schemaNamed otherSchemaNamed
            (breaks_clause space _ _) (breaks_clause space _ _) same
          exact ⟨rfl, error_inj errorNamed otherErrorNamed errors⟩

end Clauses

/-- **The canonical text tells signatures apart**: if all names are names, signatures with
equal texts are equal in their name, their arguments, their result, their error and in
whether they are asynchronous. -/
theorem text_eq_iff {signature other : Signature} (named : ∀ name ∈ signature.names, IsName name)
    (otherNamed : ∀ name ∈ other.names, IsName name) :
    signature.text = other.text ↔ signature = other := by
  constructor
  · intro texts
    obtain ⟨name, arguments, result, error, isAsync⟩ := signature
    obtain ⟨otherName, otherArguments, otherResult, otherError, otherIsAsync⟩ := other
    simp only [names, List.forall_mem_cons, List.forall_mem_append, Schema.fieldsNamed_iff]
      at named otherNamed
    obtain ⟨isName, argumentsNamed, resultNamed, errorNamed⟩ := named
    obtain ⟨otherIsName, otherArgumentsNamed, otherResultNamed, otherErrorNamed⟩ := otherNamed
    have parenthesis : '(' ∈ marks := by decide
    have same := congrArg String.toList texts
    rw [toList_text, toList_text] at same
    have flags : isAsync = otherIsAsync := by
      cases isAsync <;> cases otherIsAsync <;> first | rfl | cases same
    subst flags
    obtain ⟨rfl, opened⟩ := isName.tells otherIsName (continues_cons parenthesis)
      (continues_cons parenthesis) (List.append_cancel_left same)
    obtain ⟨rfl, clauses⟩ := Schema.fields_append_inj (by decide) (by decide) argumentsNamed
      (fun field member => Schema.tells_text (argumentsNamed field member).2)
      otherArgumentsNamed (List.cons.inj opened).2
    obtain ⟨rfl, rfl⟩ :=
      clauses_inj resultNamed errorNamed otherResultNamed otherErrorNamed clauses
    rfl
  · exact congrArg text

/-- A function with a nested result and an error with and without fields. -/
def lookUp : Signature where
  name := "look_up"
  arguments := [("keys", .sequence .string), ("limit", .optional (.scalar .u32))]
  result := some (.map .string (.record "Entry" [("id", .scalar .u64), ("owner", .object "User")]))
  error := some (.enumeration "Failure" [("missing", []), ("denied", [("reason", .string)])])
  isAsync := true

/-- The same function with an error that gives no reason. -/
def lookUpTersely : Signature :=
  { lookUp with error := some (.enumeration "Failure" [("missing", []), ("denied", [])]) }

/-- Two signatures that differ in a declared error only. -/
theorem text_eq_iff_look_up :
    (∀ name ∈ lookUp.names, IsName name) ∧ (∀ name ∈ lookUpTersely.names, IsName name) ∧
      (lookUp.text = lookUpTersely.text ↔ lookUp = lookUpTersely) := by
  have named : ∀ name ∈ lookUp.names, IsName name := by decide
  have terselyNamed : ∀ name ∈ lookUpTersely.names, IsName name := by decide
  exact ⟨named, terselyNamed, text_eq_iff named terselyNamed⟩

/-- A comma in a name would make two variants of one. -/
example : (Schema.enumeration "Side" [("left, right", [])]).text =
    (Schema.enumeration "Side" [("left", []), ("right", [])]).text := by decide

end Signature

end Boundary
