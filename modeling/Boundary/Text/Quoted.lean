import Boundary.Text.Unprintable

/-!
# Quoted text

Diagnostic output puts names in double quotes.  A quote, a backslash and the usual control
characters are written with a backslash, other characters that cannot be shown by their number.
-/

namespace Boundary

namespace Quoted

/-- The form of one character inside quotes. -/
def escape (character : Char) : String :=
  match character with
  | '\x22' => "\\\""
  | '\x5c' => "\\\\"
  | '\n' => "\\n"
  | '\r' => "\\r"
  | '\t' => "\\t"
  | '\x00' => "\\0"
  | other =>
    if Unprintable.contains other then
      "\\u\x7b" ++ String.ofList (Nat.toDigits 16 other.toNat) ++ "\x7d"
    else String.singleton other

/-- A text in double quotes. -/
def encode (text : String) : String :=
  "\"" ++ String.join (text.toList.map escape) ++ "\""

end Quoted

end Boundary
