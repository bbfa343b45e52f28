import Boundary.Config.Toml.Blank
import Boundary.Text.Hex

/-!
# Quoted texts in TOML

Basic texts stand between quotation marks and have escapes; literal texts stand between apostrophes
and have none.  Both can be written over several lines between three marks each; a line end right
behind the opening marks does not count, and up to two marks may stand before the closing ones.  In
a basic text over several lines, a backslash at the end of a line joins the lines.
-/

namespace Boundary

namespace Toml

/-- The character with a hexadecimal code of `count` digits at the front of a text. -/
def codedCharacter (count : Nat) (text : List Char) : Option (Char × List Char) := do
  let digits := text.take count
  if digits.length < count then none
  let code := (← digits.mapM Hex.value?).foldl (fun code digit => 16 * code + digit) 0
  if code.isValidChar then return (Char.ofNat code, text.drop count) else none

/-- The character that an escape stands for, and the text behind it.  The backslash is gone. -/
def escape : List Char → Option (Char × List Char)
  | 'b' :: rest => some ('\x08', rest)
  | 't' :: rest => some ('\t', rest)
  | 'n' :: rest => some ('\n', rest)
  | 'f' :: rest => some ('\x0c', rest)
  | 'r' :: rest => some ('\r', rest)
  | 'e' :: rest => some ('\x1b', rest)
  | '"' :: rest => some ('"', rest)
  | '\\' :: rest => some ('\\', rest)
  | 'x' :: rest => codedCharacter 2 rest
  | 'u' :: rest => codedCharacter 4 rest
  | 'U' :: rest => codedCharacter 8 rest
  | _ => none

/-- The text behind the blanks and line ends at its front. -/
def behindLines (text : List Char) : List Char :=
  text.dropWhile fun character => isBlank character || character = '\n' || character = '\r'

/-- A quoted text: its mark, and whether it may take several lines. -/
structure QuoteStyle where
  mark : Char
  hasEscapes : Bool
  hasLines : Bool

namespace QuoteStyle

/-- The closing of a quoted text: the marks that belong to its content, and the text behind. -/
def closing? (style : QuoteStyle) (text : List Char) : Option (List Char × List Char) :=
  let marks := (text.takeWhile (· = style.mark)).length
  if style.hasLines then
    if marks < 3 then none
    else
      let content := min (marks - 3) 2
      some (List.replicate content style.mark, text.drop (content + 3))
  else if marks = 0 then none
  else some ([], text.drop 1)

/-- The content behind the opening, and the text behind the closing.  Every step takes a character,
so the length of the text is fuel enough. -/
def body (style : QuoteStyle) : (fuel : Nat) → List Char → Option (List Char × List Char)
  | 0, _ => none
  | fuel + 1, text =>
    match style.closing? text, text with
    | some closing, _ => some closing
    | none, [] => none
    | none, '\\' :: rest =>
      if style.hasEscapes then
        if style.hasLines ∧ (behindLineEnd? (behindBlanks rest)).isSome then
          body style fuel (behindLines rest)
        else do
          let (character, rest) ← escape rest
          let (content, rest) ← body style fuel rest
          return (character :: content, rest)
      else do
        let (content, rest) ← body style fuel rest
        return ('\\' :: content, rest)
    | none, character :: rest =>
      if isTextual character ∨ style.hasLines ∧ (behindLineEnd? text).isSome then do
        let (content, rest) ← body style fuel rest
        return (character :: content, rest)
      else none

end QuoteStyle

namespace Scan

/-- A quoted text behind its opening marks. -/
def quotedBody (style : QuoteStyle) : Scan String := fun text => do
  let text := if style.hasLines then (behindLineEnd? text).getD text else text
  let (content, rest) ← style.body (text.length + 1) text
  return (String.ofList content, rest)

/-- A quoted text of one line. -/
def quotedLine : Scan String := do
  if ← accept ['"'] then quotedBody ⟨'"', true, false⟩
  else
    require ['\'']
    quotedBody ⟨'\'', false, false⟩

/-- A quoted text. -/
def quoted : Scan String := do
  if ← accept ['"', '"', '"'] then quotedBody ⟨'"', true, true⟩
  else if ← accept ['\'', '\'', '\''] then quotedBody ⟨'\'', false, true⟩
  else quotedLine

end Scan

end Toml

end Boundary
