import Boundary.Handle
import Boundary.Text.Hex
import Boundary.Time

/-!
# Forms

A form is what a value looks like in a document: truths, numbers, texts, lists, and members under
names.  Types with a form are read by `ofForm?` and written by `toForm`.

Numbers of 64 bits and handles are written by the text of their digits, because readers of documents
often keep numbers as floats; numbers are read in either form.  Bytes are written by their
hexadecimal digits.
-/

namespace Boundary

/-- A form.  The members of a form are in the order of their names. -/
inductive Form where
  | empty
  | truth (holds : Bool)
  | number (value : Int)
  | text (content : String)
  | list (items : List Form)
  | members (entries : List (String × Form))
  deriving Inhabited

/-- Named parts of a form. -/
abbrev Members := List (String × Form)

/-- The member of a name; without one, the empty form. -/
def Form.get (name : String) : Form → Form
  | members entries => (entries.lookup name).getD empty
  | _ => empty

/-- Types whose values are read from forms. -/
class FromForm (α : Type) where
  ofForm? : Form → Option α

/-- Types whose values are written as forms. -/
class ToForm (α : Type) where
  toForm : α → Form

export FromForm (ofForm?)

export ToForm (toForm)

/-- The value of a member, if it is there and can be read. -/
def Form.get? {α : Type} [FromForm α] (form : Form) (name : String) : Option α :=
  ofForm? (form.get name)

/-- The value of a member, or a value that stands for a missing one. -/
def Form.getD {α : Type} [FromForm α] (form : Form) (name : String) (missing : α) : Option α :=
  match form.get name with
  | empty => some missing
  | found => ofForm? found

section

variable {α β : Type}

instance [FromForm α] : FromForm (List α) where
  ofForm?
    | .list items => items.mapM ofForm?
    | _ => none

instance [FromForm α] [FromForm β] : FromForm (α × β) where
  ofForm?
    | .list [first, second] => do return (← ofForm? first, ← ofForm? second)
    | _ => none

instance [ToForm α] : ToForm (List α) := ⟨fun items => .list (items.map toForm)⟩

instance [ToForm α] [ToForm β] : ToForm (α × β) :=
  ⟨fun (first, second) => .list [toForm first, toForm second]⟩

instance [ToForm α] : ToForm (Option α) := ⟨fun value => value.elim .empty toForm⟩

end

instance : FromForm Form := ⟨some⟩

instance : ToForm Form := ⟨id⟩

instance : FromForm Bool where
  ofForm?
    | .truth holds => some holds
    | _ => none

instance : ToForm Bool := ⟨Form.truth⟩

instance : FromForm String where
  ofForm?
    | .text content => some content
    | _ => none

instance : ToForm String := ⟨Form.text⟩

instance : ToForm Unit := ⟨fun _ => .empty⟩

instance : FromForm Int where
  ofForm?
    | .number value => some value
    | .text digits => digits.toInt?
    | _ => none

instance : ToForm Int := ⟨Form.number⟩

instance : FromForm Nat := ⟨fun form => (ofForm? form).map Int.toNat⟩

instance : ToForm Nat := ⟨fun value => .number value⟩

instance : FromForm UInt16 := ⟨fun form => (ofForm? form).map UInt16.ofNat⟩

instance : ToForm UInt16 := ⟨fun value => .number value.toNat⟩

instance : FromForm UInt32 := ⟨fun form => (ofForm? form).map UInt32.ofNat⟩

instance : ToForm UInt32 := ⟨fun value => .number value.toNat⟩

instance : FromForm UInt64 := ⟨fun form => (ofForm? form).map UInt64.ofNat⟩

/-- The form of a number that may need 64 bits: the text of its digits. -/
def Form.digits (number : Int) : Form := .text (toString number)

instance : FromForm Handle := ⟨fun form => (ofForm? form).map Handle.mk⟩

instance : ToForm Handle := ⟨fun handle => .digits handle.raw.toNat⟩

instance : FromForm Bytes where
  ofForm?
    | .text digits => Hex.bytes? digits.toList
    | _ => none

instance : ToForm Bytes := ⟨fun bytes => .text (Hex.ofBytes bytes)⟩

instance : FromForm Duration where
  ofForm? form := do Duration.ofParts? (← form.get? "secs") (← form.get? "nanos")

instance : ToForm Duration where
  toForm length := .members
    [("nanos", toForm length.subsecond), ("secs", .digits length.seconds)]

instance : FromForm Instant where
  ofForm? form := do
    Instant.ofDistance? (← form.getD "before" false) (← form.get? "secs") (← form.get? "nanos")

instance : ToForm Instant where
  toForm time := .members [("before", toForm time.isBefore), ("nanos", toForm time.subsecond),
    ("secs", .digits time.seconds)]

end Boundary
