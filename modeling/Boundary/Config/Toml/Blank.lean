/-!
# Blanks in TOML

What separates the parts of a document: blanks within a line, comments and line ends.  Control
characters other than the tab occur nowhere, and a carriage return only before a line feed.
-/

namespace Boundary

namespace Toml

/-- A reader of the front of a text: what it read and the rest, or a refusal. -/
abbrev Scan (α : Type) := StateT (List Char) Option α

/-- Whether a character can stand in a comment or in a quoted text. -/
def isTextual (character : Char) : Bool :=
  character = '\t' || (0x20 ≤ character.toNat && character.toNat ≠ 0x7f)

/-- Whether a character is a blank within a line. -/
def isBlank (character : Char) : Bool := character = ' ' || character = '\t'

/-- The text behind the blanks at its front. -/
def behindBlanks (text : List Char) : List Char := text.dropWhile isBlank

/-- The text behind a line end, if it begins with one. -/
def behindLineEnd? : List Char → Option (List Char)
  | '\n' :: rest => some rest
  | '\r' :: '\n' :: rest => some rest
  | _ => none

/-- The text behind the blanks, line ends and comments at its front. -/
def behindGap (inComment : Bool) : List Char → Option (List Char)
  | [] => some []
  | '\n' :: rest => behindGap false rest
  | '\r' :: rest => if rest.head? = some '\n' then behindGap false rest else none
  | character :: rest =>
    if inComment then
      if isTextual character then behindGap true rest else none
    else if isBlank character then behindGap false rest
    else if character = '#' then behindGap true rest
    else some (character :: rest)

namespace Scan

/-- Refuses the text. -/
def refuse {α : Type} : Scan α := fun _ => none

/-- Skips blanks. -/
def blanks : Scan Unit := fun text => some ((), behindBlanks text)

/-- Skips blanks, line ends and comments. -/
def gap : Scan Unit := fun text => (behindGap false text).map ((), ·)

/-- Skips the rest of a line that holds nothing but blanks and a comment, and its end. -/
def lineEnd : Scan Unit := fun text =>
  let text := behindBlanks text
  let text := match text with
    | '#' :: comment => comment.dropWhile isTextual
    | text => text
  if text.isEmpty then some ((), []) else (behindLineEnd? text).map ((), ·)

/-- Skips the given characters, if the text begins with them, and tells whether it did. -/
def accept (expected : List Char) : Scan Bool := fun text =>
  if expected.isPrefixOf text then some (true, text.drop expected.length) else some (false, text)

/-- Skips the given characters, with which the text must begin. -/
def require (expected : List Char) : Scan Unit := do
  if !(← accept expected) then refuse

/-- The longest front of characters of a class. -/
def span (inClass : Char → Bool) : Scan (List Char) := fun text =>
  some (text.takeWhile inClass, text.dropWhile inClass)

end Scan

end Toml

end Boundary
