import Boundary.Config.Toml.Value
import Boundary.Text.Hex

/-!
# Numerals in TOML

Whatever is written without quotes and brackets: truth values, integers, decimal numbers, dates and
times.  Underscores may stand between two digits.  Dates and times have to exist.
-/

namespace Boundary

namespace Toml

/-- The value of a digit in a base. -/
def digitValue? (base : Nat) (digit : Char) : Option Nat :=
  (Hex.value? digit).filter (· < base)

/-- The digits without the underscores between them. -/
def withoutUnderscores : List Char → Option (List Char)
  | [] => none
  | [digit] => if digit = '_' then none else some [digit]
  | digit :: '_' :: rest =>
    if digit = '_' then none else (withoutUnderscores rest).map (digit :: ·)
  | digit :: rest => if digit = '_' then none else (withoutUnderscores rest).map (digit :: ·)

/-- The number that digits with underscores between them stand for, and how many digits they are. -/
def number? (base : Nat) (digits : List Char) : Option (Nat × Nat) := do
  let digits ← withoutUnderscores digits
  let values ← digits.mapM (digitValue? base)
  return (values.foldl (fun number value => base * number + value) 0, values.length)

/-- A number with a sign before it or none: whether it is negative, and the text behind the sign. -/
def signed : List Char → Bool × List Char
  | '-' :: rest => (true, rest)
  | '+' :: rest => (false, rest)
  | text => (false, text)

/-- The decimal number of digits that do not begin with a zero, unless they are one. -/
def leading? (digits : List Char) : Option (Nat × Nat) :=
  match digits with
  | '0' :: _ :: _ => none
  | digits => number? 10 digits

/-- An integer. -/
def integer? (token : List Char) : Option Int :=
  match token with
  | '0' :: 'x' :: digits => (number? 16 digits).map fun read => Int.ofNat read.1
  | '0' :: 'o' :: digits => (number? 8 digits).map fun read => Int.ofNat read.1
  | '0' :: 'b' :: digits => (number? 2 digits).map fun read => Int.ofNat read.1
  | token => do
    let (negative, digits) := signed token
    let (number, _) ← leading? digits
    return if negative then -Int.ofNat number else Int.ofNat number

/-- The exponent behind its mark; none stands for zero. -/
def exponent? : List Char → Option Int
  | [] => some 0
  | _ :: digits => do
    let (negative, digits) := signed digits
    let (number, _) ← number? 10 digits
    return if negative then -Int.ofNat number else Int.ofNat number

/-- A number with a fraction, an exponent, or both. -/
def decimal? (token : List Char) : Option Value := do
  let (_, token) := signed token
  if token = "inf".toList ∨ token = "nan".toList then return .nonfinite
  let isMark (character : Char) : Bool := character = 'e' || character = 'E'
  let digits := token.takeWhile fun character => !(character = '.' || isMark character)
  let rest := token.drop digits.length
  let (whole, _) ← leading? digits
  match rest with
  | [] => none
  | '.' :: rest =>
    let fraction := rest.takeWhile fun character => !isMark character
    let (part, places) ← number? 10 fraction
    let exponent ← exponent? (rest.drop fraction.length)
    return .decimal (whole * Nat.pow 10 places + part) (exponent - places)
  | mark => return .decimal whole (← exponent? mark)

/-- The number of a fixed count of digits at the front of a text, and the text behind them. -/
def fixed? (count : Nat) (text : List Char) : Option (Nat × List Char) := do
  let digits := text.take count
  if digits.length < count then none
  let values ← digits.mapM (digitValue? 10)
  return (values.foldl (fun number value => 10 * number + value) 0, text.drop count)

/-- The text behind a character, with which it must begin. -/
def behind? (expected : Char) : List Char → Option (List Char)
  | [] => none
  | character :: rest => if character = expected then some rest else none

/-- The number of days of a month. -/
def daysOfMonth (year month : Nat) : Nat :=
  if month = 2 then
    if year % 4 = 0 ∧ (year % 100 ≠ 0 ∨ year % 400 = 0) then 29 else 28
  else if month = 4 ∨ month = 6 ∨ month = 9 ∨ month = 11 then 30
  else 31

/-- The text behind a date that exists. -/
def behindDate? (text : List Char) : Option (List Char) := do
  let (year, text) ← fixed? 4 text
  let (month, text) ← fixed? 2 (← behind? '-' text)
  let (day, text) ← fixed? 2 (← behind? '-' text)
  if 1 ≤ month ∧ month ≤ 12 ∧ 1 ≤ day ∧ day ≤ daysOfMonth year month then some text else none

/-- The text behind a fraction of a second, if there is one. -/
def behindFraction? : List Char → Option (List Char)
  | '.' :: rest =>
    if rest.head?.any Char.isDigit then some (rest.dropWhile Char.isDigit) else none
  | text => some text

/-- The text behind a time that exists.  The seconds may be left out. -/
def behindTime? (text : List Char) : Option (List Char) := do
  let (hour, text) ← fixed? 2 text
  let (minute, text) ← fixed? 2 (← behind? ':' text)
  if 23 < hour ∨ 59 < minute then none
  match text with
  | ':' :: text => do
    let (second, text) ← fixed? 2 text
    if 60 < second then none else behindFraction? text
  | text => some text

/-- Whether a text is the offset of a time from universal time, or empty. -/
def isOffset (text : List Char) : Bool :=
  match text with
  | [] | ['Z'] | ['z'] => true
  | sign :: text =>
    (sign = '+' || sign = '-') &&
      (do
        let (hours, text) ← fixed? 2 text
        let (minutes, text) ← fixed? 2 (← behind? ':' text)
        some (decide (minutes < 60 ∧ 60 * hours + minutes ≤ 24 * 60) && text.isEmpty)).getD false

/-- Whether a text is a date, a time, or both with an offset or without. -/
def isMoment (text : List Char) : Bool :=
  match behindDate? text with
  | some [] => true
  | some (separator :: text) =>
    (separator = 'T' || separator = 't' || separator = ' ') && (behindTime? text).any isOffset
  | none => (behindTime? text).any List.isEmpty

/-- The value of a token. -/
def valueOfToken? (token : List Char) : Option Value :=
  if token = "true".toList then some (.boolean true)
  else if token = "false".toList then some (.boolean false)
  else if isMoment token then some (.moment (String.ofList token))
  else ((integer? token).map Value.integer).or (decimal? token)

/-- Whether a character can stand in a token. -/
def inToken (character : Char) : Bool :=
  character.isAlphanum || "+-_.:".toList.contains character

/-- A token at the front of a text, and the text behind it.  A date goes on behind a blank with a
time. -/
def splitToken (text : List Char) : List Char × List Char :=
  let token := text.takeWhile inToken
  match text.drop token.length with
  | ' ' :: digit :: rest =>
    if behindDate? token = some [] ∧ digit.isDigit then
      let time := (digit :: rest).takeWhile inToken
      (token ++ ' ' :: time, (digit :: rest).drop time.length)
    else (token, ' ' :: digit :: rest)
  | rest => (token, rest)

end Toml

end Boundary
