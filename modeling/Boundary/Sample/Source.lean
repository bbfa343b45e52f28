import Boundary.Fault
import Boundary.Handle
import Boundary.NameMap
import Boundary.Sample.StoreError

/-!
# Sources

A callback interface as a user of the boundary declares it: a source of texts by key.  Some keys
make the source misbehave in a way that a host object may: it panics, it refuses, or it frees a
handle of the registry from within a call.
-/

namespace Boundary

/-- A source of texts by key. -/
abbrev Source := NameMap String

namespace Source

/-- What a key asks of a source. -/
inductive Request where
  | entry (key : String)
  | panic (message : String)
  | refuse
  | free (handle : Handle)
  deriving DecidableEq, Repr

/-- The rest of a text behind a beginning. -/
def behind? (beginning text : String) : Option String :=
  if beginning.toList.isPrefixOf text.toList then
    some (String.ofList (text.toList.drop beginning.length))
  else none

/-- The handle that a decimal numeral names; the null handle if the text is none or too great. -/
def handleOfNumeral (numeral : String) : Handle :=
  let digits : List Char := match numeral.toList with
    | '+' :: digits => digits
    | digits => digits
  let number : Nat := digits.foldl (fun number digit => 10 * number + (digit.toNat - '0'.toNat)) 0
  if digits.all Char.isDigit ∧ number < wordLimit then ⟨UInt64.ofNat number⟩ else Handle.null

/-- What a key asks of a source. -/
def Request.ofKey (key : String) : Request :=
  match behind? "!panic " key with
  | some message => .panic message
  | none =>
    match behind? "!free " key with
    | some numeral => .free (handleOfNumeral numeral)
    | none => if key = "!readonly" then .refuse else .entry key

/-- The text under a key.  `free` frees a handle and yields how many are left. -/
def get {σ : Type} (source : Source) (free : Handle → StateM σ Nat) (key : String) :
    Act σ StoreError String :=
  match Request.ofKey key with
  | .panic message => Act.unwind (.text message)
  | .refuse => Act.fail .readOnly
  | .free handle => do
    let left ← Act.ofTotal (free handle)
    return s!"{left} left"
  | .entry key =>
    match NameMap.get? source key with
    | some text => return text
    | none => Act.fail (.notFound key)

/-- The number of keys. -/
def size (source : Source) : Nat := source.length

end Source

end Boundary
