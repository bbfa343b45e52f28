import Mathlib.Data.List.Basic

/-! # Words and the marks between them

Canonical texts are made of words with marks between them, and names are words
(`Boundary.IsName`). What follows a word begins with a mark, so a text that begins with
a word is split in one way only (`Boundary.word_append_inj`).

A printed form tells what is printed when the beginning of a text determines both the
thing and where its form ends (`Boundary.Tells`). If the forms of some things do, so
does the form of a whole list of them, with a comma between any two and some other mark
at the end (`Boundary.series_append_inj`).
-/

namespace Boundary

/-- The characters that stand between the words of a canonical text. -/
def marks : List Char := [' ', ',', ':', '(', ')', '<', '>', '\x7b', '\x7d']

/-- The characters of a name are no marks, and there is at least one. Letters and digits of
any script are allowed, and underscores. -/
def IsName (name : String) : Prop := name ≠ "" ∧ ∀ character ∈ name.toList, character ∉ marks

instance (name : String) : Decidable (IsName name) :=
  decidable_of_iff (name ≠ "" ∧ name.toList.all (fun character => character ∉ marks) = true)
    (and_congr_right fun _ => by simp only [List.all_eq_true, decide_eq_true_eq])

/-- Letters, digits and underscores make names. -/
theorem isName_of_alphanumeric {name : String} (nonempty : name ≠ "")
    (alphanumeric : ∀ character ∈ name.toList, character.isAlphanum ∨ character = '_') :
    IsName name := by
  refine ⟨nonempty, fun character member isMark => ?_⟩
  have noMark : marks.all (fun mark => ¬ (mark.isAlphanum ∨ mark = '_')) = true := by decide
  exact of_decide_eq_true (List.all_eq_true.mp noMark character isMark)
    (alphanumeric character member)

/-- A text that is empty or begins with a character that may follow. -/
def Continues (follows : Char → Prop) (text : List Char) : Prop :=
  ∀ first ∈ text.head?, follows first

section Continues

variable {follows : Char → Prop} {first : Char} {text : List Char}

theorem continues_nil : Continues follows [] := fun _ member => nomatch member

theorem continues_cons (allowed : follows first) : Continues follows (first :: text) := by
  intro character member
  cases member
  exact allowed

/-- What may continue by fewer characters may continue by more. -/
theorem Continues.mono {wider : Char → Prop} (within : ∀ character, follows character →
    wider character) (continues : Continues follows text) : Continues wider text :=
  fun first member => within first (continues first member)

end Continues

/-- What follows a word goes on with a mark. -/
abbrev Breaks : List Char → Prop := Continues (· ∈ marks)

/-- A text that begins with a word is split in one way. -/
theorem word_append_inj {word other rest otherRest : List Char}
    (plain : ∀ character ∈ word, character ∉ marks)
    (otherPlain : ∀ character ∈ other, character ∉ marks)
    (breaks : Breaks rest) (otherBreaks : Breaks otherRest)
    (same : word ++ rest = other ++ otherRest) : word = other ∧ rest = otherRest := by
  induction word generalizing other with
  | nil =>
      cases other with
      | nil => exact ⟨rfl, same⟩
      | cons character _ =>
          -- The rest of the empty word would begin inside the other word.
          have inside : character ∈ rest.head? := by
            rw [List.nil_append] at same
            rw [same]
            rfl
          exact absurd (breaks character inside) (otherPlain character List.mem_cons_self)
  | cons character characters ih =>
      cases other with
      | nil =>
          have inside : character ∈ otherRest.head? := by
            rw [List.nil_append] at same
            rw [← same]
            rfl
          exact absurd (otherBreaks character inside) (plain character List.mem_cons_self)
      | cons _ others =>
          rw [List.cons_append, List.cons_append, List.cons.injEq] at same
          obtain ⟨rfl, same⟩ := same
          obtain ⟨rfl, rests⟩ := ih (List.forall_mem_cons.mp plain).2
            (List.forall_mem_cons.mp otherPlain).2 same
          exact ⟨rfl, rests⟩

/-- A text that begins with a name does not begin with a mark. -/
theorem IsName.opens {name : String} (isName : IsName name) (rest : List Char) :
    ∃ first text, name.toList ++ rest = first :: text ∧ first ∉ marks := by
  cases characters : name.toList with
  | nil => exact absurd (String.toList_eq_nil_iff.mp characters) isName.1
  | cons first others =>
      have member : first ∈ name.toList := characters ▸ List.mem_cons_self
      exact ⟨first, others ++ rest, rfl, isName.2 first member⟩

/-- Among the forms of valid things, the one of `thing` is not mistaken for the beginning
of another: a text that begins with it and goes on as allowed begins with no other. -/
def Tells {α : Type} (follows : Char → Prop) (valid : α → Prop) (print : α → List Char)
    (thing : α) : Prop :=
  ∀ ⦃other : α⦄ ⦃rest otherRest : List Char⦄, valid other → Continues follows rest →
    Continues follows otherRest → print thing ++ rest = print other ++ otherRest →
    thing = other ∧ rest = otherRest

/-- A name is told from all others. -/
theorem IsName.tells {name : String} (isName : IsName name) :
    Tells (· ∈ marks) IsName String.toList name := by
  intro other rest otherRest otherIsName breaks otherBreaks same
  obtain ⟨names, rests⟩ := word_append_inj isName.2 otherIsName.2 breaks otherBreaks same
  exact ⟨String.toList_inj.mp names, rests⟩

/-- A text in angle brackets. -/
def angled (text : List Char) : List Char := '<' :: (text ++ ['>'])

/-- What is told from others is told from them in angle brackets, whatever follows. -/
theorem Tells.angled {α : Type} {valid : α → Prop} {print : α → List Char} {thing other : α}
    {rest otherRest : List Char} (tells : Tells (· ∈ marks) valid print thing)
    (otherValid : valid other)
    (same : angled (print thing) ++ rest = angled (print other) ++ otherRest) :
    thing = other ∧ rest = otherRest := by
  have angle : '>' ∈ marks := by decide
  simp only [Boundary.angled, List.cons_append, List.append_assoc, List.nil_append,
    List.cons.injEq, true_and] at same
  obtain ⟨things, ends⟩ := tells otherValid (continues_cons angle) (continues_cons angle) same
  exact ⟨things, (List.cons.inj ends).2⟩

/-- A text in braces behind a name. -/
def titled (name : String) (text : List Char) : List Char :=
  ' ' :: (name.toList ++ ' ' :: '\x7b' :: (text ++ ['\x7d']))

/-- A name in front of a brace is told from what follows it. -/
theorem titled_append_inj {name other : String} {text otherText rest otherRest : List Char}
    (isName : IsName name) (otherIsName : IsName other)
    (same : titled name text ++ rest = titled other otherText ++ otherRest) :
    name = other ∧ text ++ '\x7d' :: rest = otherText ++ '\x7d' :: otherRest := by
  have space : ' ' ∈ marks := by decide
  simp only [titled, List.cons_append, List.append_assoc, List.nil_append, List.cons.injEq,
    true_and] at same
  obtain ⟨names, opened⟩ :=
    isName.tells otherIsName (continues_cons space) (continues_cons space) same
  exact ⟨names, (List.cons.inj (List.cons.inj opened).2).2⟩

/-- The forms of some things, with a comma and a space between any two. -/
def series {α : Type} (print : α → List Char) (things : List α) : List Char :=
  [',', ' '].intercalate (things.map print)

section Series

variable {α : Type} {print : α → List Char} {things : List α}

/-- A series is its first thing, and each other behind a comma. -/
theorem series_cons (thing : α) :
    series print (thing :: things) =
      print thing ++ things.flatMap fun next => [',', ' '] ++ print next := by
  induction things generalizing thing with
  | nil => rw [series, List.map_cons, List.map_nil, List.intercalate_singleton, List.flatMap_nil,
      List.append_nil]
  | cons next others ih =>
      have shorter := ih next
      rw [series, List.map_cons] at shorter
      rw [series, List.map_cons, List.map_cons, List.intercalate_cons_cons, shorter,
        List.flatMap_cons, List.append_assoc, List.append_assoc]

variable {follows : Char → Prop} {valid : α → Prop} {closing : Char}
  {others : List α} {rest otherRest : List Char}

/-- What follows a thing of a series: the next thing or the end. -/
theorem continues_flatMap (comma : follows ',') (closes : follows closing) :
    Continues follows
      ((things.flatMap fun next => [',', ' '] ++ print next) ++ closing :: rest) := by
  cases things with
  | nil => exact continues_cons closes
  | cons _ _ => exact continues_cons comma

/-- Things behind commas are told from each other, and from what closes them. -/
theorem flatMap_append_inj (comma : follows ',') (closes : follows closing)
    (different : closing ≠ ',') (tells : ∀ thing ∈ things, Tells follows valid print thing)
    (otherValid : ∀ other ∈ others, valid other)
    (same : (things.flatMap fun next => [',', ' '] ++ print next) ++ closing :: rest =
      (others.flatMap fun next => [',', ' '] ++ print next) ++ closing :: otherRest) :
    things = others ∧ rest = otherRest := by
  induction things generalizing others with
  | nil =>
      cases others with
      | nil =>
          cases same
          exact ⟨rfl, rfl⟩
      | cons _ _ => exact absurd (List.cons.inj same).1 different
  | cons thing things ih =>
      cases others with
      | nil => exact absurd (List.cons.inj same).1.symm different
      | cons other others =>
          rw [List.forall_mem_cons] at tells otherValid
          rw [List.flatMap_cons, List.flatMap_cons, List.append_assoc, List.append_assoc,
            List.append_assoc, List.append_assoc, List.append_cancel_left_eq] at same
          obtain ⟨rfl, left⟩ := tells.1 otherValid.1 (continues_flatMap comma closes)
            (continues_flatMap comma closes) same
          obtain ⟨rfl, rests⟩ := ih tells.2 otherValid.2 left
          exact ⟨rfl, rests⟩

/-- A series up to its closing mark tells its things and where it ends. -/
theorem series_append_inj (comma : follows ',') (closes : follows closing)
    (different : closing ≠ ',') (mark : closing ∈ marks)
    (opens : ∀ thing, valid thing → ∃ first text, print thing = first :: text ∧ first ∉ marks)
    (thingsValid : ∀ thing ∈ things, valid thing)
    (tells : ∀ thing ∈ things, Tells follows valid print thing)
    (otherValid : ∀ other ∈ others, valid other)
    (same : series print things ++ closing :: rest = series print others ++ closing :: otherRest) :
    things = others ∧ rest = otherRest := by
  cases things with
  | nil =>
      cases others with
      | nil =>
          cases same
          exact ⟨rfl, rfl⟩
      | cons other others =>
          obtain ⟨first, text, printed, plain⟩ := opens other (otherValid _ List.mem_cons_self)
          rw [series_cons, printed] at same
          have clash : closing = first := (List.cons.inj same).1
          exact absurd (clash ▸ mark) plain
  | cons thing things =>
      cases others with
      | nil =>
          obtain ⟨first, text, printed, plain⟩ := opens thing (thingsValid _ List.mem_cons_self)
          rw [series_cons, printed] at same
          have clash : first = closing := (List.cons.inj same).1
          exact absurd (clash ▸ mark) plain
      | cons other others =>
          rw [List.forall_mem_cons] at tells otherValid
          rw [series_cons, series_cons, List.append_assoc, List.append_assoc] at same
          obtain ⟨rfl, left⟩ := tells.1 otherValid.1 (continues_flatMap comma closes)
            (continues_flatMap comma closes) same
          obtain ⟨rfl, rests⟩ :=
            flatMap_append_inj comma closes different tells.2 otherValid.2 left
          exact ⟨rfl, rests⟩

end Series

end Boundary
