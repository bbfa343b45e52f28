import Boundary.Buffer

/-!
# Call statuses

Every fallible call leaves a status: a code, and a buffer that explains it.  A declared error is
explained by its encoding, a panic by an encoded text.  The text is cut where a length prefix could
no longer count it, at the end of a character.
-/

namespace Boundary

/-- The codes with a meaning. -/
inductive StatusCode where
  | success | error | panic | cancelled
  deriving DecidableEq, Repr

namespace StatusCode

/-- The number of a code. -/
def number : StatusCode → Int
  | success => 0
  | error => 1
  | panic => 2
  | cancelled => 3

/-- The code of a number, if it has a meaning. -/
def ofNumber? : Int → Option StatusCode
  | 0 => some success
  | 1 => some error
  | 2 => some panic
  | 3 => some cancelled
  | _ => none

/-- The name of a code. -/
def name : StatusCode → String
  | success => "OK"
  | error => "ERROR"
  | panic => "PANIC"
  | cancelled => "CANCELLED"

end StatusCode

/-- As many characters from the front as fit into a number of UTF-8 bytes. -/
def takeWithin : (limit : Nat) → List Char → List Char
  | _, [] => []
  | limit, character :: rest =>
    if character.utf8Size ≤ limit then character :: takeWithin (limit - character.utf8Size) rest
    else []

/-- The longest part of a message that still fits into a buffer behind its length. -/
def reportable (message : String) : String :=
  String.ofList (takeWithin (maxLength - 4) message.toList)

/-- A buffer that explains a panic. -/
def messageBuffer (message : String) : StateM Ledger Buffer :=
  match (Lowering.string (reportable message)).toBytes with
  | .ok data => Buffer.ofBytes data
  | .error _ => pure Buffer.empty

/-- What a call leaves behind besides its result. -/
structure Status where
  code : Int
  errorBuffer : Buffer
  deriving DecidableEq, Repr

namespace Status

/-- The status of a call that went well, and of one that has not begun. -/
def success : Status := ⟨StatusCode.success.number, Buffer.empty⟩

/-- A declared error, explained by its encoding. -/
def error (encoding : Buffer) : Status := ⟨StatusCode.error.number, encoding⟩

/-- The call was cancelled. -/
def cancelled : Status := ⟨StatusCode.cancelled.number, Buffer.empty⟩

/-- A panic, explained by a text. -/
def panic (message : String) : StateM Ledger Status := do
  return ⟨StatusCode.panic.number, ← messageBuffer message⟩

/-- The meaning of the code. -/
def meaning? (status : Status) : Option StatusCode := StatusCode.ofNumber? status.code

end Status

end Boundary
