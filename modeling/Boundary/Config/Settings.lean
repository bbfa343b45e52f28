import Boundary.Config.Error
import Boundary.Config.Toml.Document

/-!
# Settings

The settings of the boundary, as a TOML document gives them: whether checksums are omitted, and what
is logged how.  What the document leaves out has its default, and what it holds besides is ignored,
as long as its numbers can be represented.

A section may be written as a table or as an array of its settings in their order.
-/

namespace Boundary

/-- How log lines are written. -/
inductive LogFormat where
  | text | json
  deriving DecidableEq, Repr

namespace LogFormat

/-- The name of a format. -/
def name : LogFormat → String
  | text => "text"
  | json => "json"

/-- The format of a name. -/
def ofName? : String → Option LogFormat
  | "text" => some text
  | "json" => some json
  | _ => none

end LogFormat

/-- The settings of the contract check. -/
structure IntegritySettings where
  omitChecksums : Bool
  deriving DecidableEq, Repr

/-- The settings of the log. -/
structure LogSettings where
  level : String
  format : LogFormat
  output : String
  timestamps : Bool
  target : Bool
  color : Bool
  deriving DecidableEq, Repr

/-- All settings. -/
structure Settings where
  integrity : IntegritySettings
  logging : LogSettings
  deriving DecidableEq, Repr

namespace Settings

/-- The settings that hold if nothing else is said. -/
def default : Settings := ⟨⟨false⟩, ⟨"info", .text, "stderr", true, true, true⟩⟩

/-- A section sets one of its settings to a value, if the value is of its type. -/
abbrev Setter (section_ : Type) := section_ → Toml.Value → Option section_

/-- A truth value. -/
def truth? : Toml.Value → Option Bool
  | .boolean truth => some truth
  | _ => none

/-- A text. -/
def text? : Toml.Value → Option String
  | .text content => some content
  | _ => none

/-- The name of a format, alone or as the key of something empty. -/
def format? : Toml.Value → Option LogFormat
  | .text name => LogFormat.ofName? name
  | .table _ [(name, .array _ [])] => LogFormat.ofName? name
  | .table _ [(name, .table _ [])] => LogFormat.ofName? name
  | _ => none

/-- The settings of the contract check by name, in their order. -/
def integritySetters : List (String × Setter IntegritySettings) :=
  [("omit_checksums", fun settings value => do
    return { settings with omitChecksums := ← truth? value })]

/-- The settings of the log by name, in their order. -/
def logSetters : List (String × Setter LogSettings) :=
  [("level", fun settings value => do return { settings with level := ← text? value }),
    ("format", fun settings value => do return { settings with format := ← format? value }),
    ("output", fun settings value => do return { settings with output := ← text? value }),
    ("timestamps", fun settings value => do return { settings with timestamps := ← truth? value }),
    ("target", fun settings value => do return { settings with target := ← truth? value }),
    ("color", fun settings value => do return { settings with color := ← truth? value })]

/-- Whether a decimal number is too great for a double: half a step beyond the greatest one. -/
def isTooGreat (significand : Nat) (exponent : Int) : Bool :=
  let magnitude := exponent + (Nat.toDigits 10 significand).length
  if significand = 0 ∨ magnitude < 300 then false
  else if 320 < magnitude then true
  else
    let bound := Nat.pow 2 1024 - Nat.pow 2 970
    match exponent with
    | .ofNat exponent => bound ≤ significand * Nat.pow 10 exponent
    | .negSucc lost => bound * Nat.pow 10 (lost + 1) ≤ significand

mutual

/-- Whether all numbers of a value can be represented. -/
def isRepresentable : Toml.Value → Bool
  | .integer number => -signedLimit ≤ number ∧ number < wordLimit
  | .decimal significand exponent => !isTooGreat significand exponent
  | .array _ items => areRepresentable items
  | .table _ entries => haveRepresentable entries
  | _ => true

/-- Whether all numbers of some values can be represented. -/
def areRepresentable : List Toml.Value → Bool
  | [] => true
  | value :: rest => isRepresentable value && areRepresentable rest

/-- Whether all numbers of some entries can be represented. -/
def haveRepresentable : List (String × Toml.Value) → Bool
  | [] => true
  | (_, value) :: rest => isRepresentable value && haveRepresentable rest

end

/-- Reads a section. -/
def readSection {α : Type} (setters : List (String × Setter α)) (settings : α) :
    Toml.Value → Option α
  | .table _ entries => entries.foldlM (fun settings entry =>
      match setters.lookup entry.1 with
      | some set => set settings entry.2
      | none => if isRepresentable entry.2 then some settings else none) settings
  | .array _ items => (setters.zip items).foldlM (fun settings entry =>
      entry.1.2 settings entry.2) settings
  | _ => none

/-- The settings by name. -/
def setters : List (String × Setter Settings) :=
  [("integrity", fun settings value => do
    return { settings with
      integrity := ← readSection integritySetters settings.integrity value }),
    ("logging", fun settings value => do
      return { settings with logging := ← readSection logSetters settings.logging value })]

/-- The settings that a document gives. -/
def ofDocument (text : String) : Except ConfigError Settings :=
  match (Toml.read? text).bind fun root =>
    readSection setters default (.table .header root) with
  | some settings => .ok settings
  | none => .error (.malformed "the document does not give settings")

/-- The settings that a file gives, from the result of reading it. -/
def ofFile (path : String) : Except String String → Except ConfigError Settings
  | .ok text => ofDocument text
  | .error reason => .error (.unreadable path reason)

end Settings

end Boundary
