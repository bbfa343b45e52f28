/-!
# Configuration errors
-/

namespace Boundary

/-- The causes for which no configuration can be loaded. -/
inductive ConfigError where
  | unreadable (path reason : String)
  | malformed (reason : String)
  deriving DecidableEq, Repr

/-- The name of each cause. -/
def ConfigError.name : ConfigError → String
  | unreadable .. => "Io"
  | malformed _ => "Parse"

/-- The wording of each cause. -/
def ConfigError.message : ConfigError → String
  | unreadable path reason => s!"Failed to read config file '{path}': {reason}"
  | malformed reason => s!"Failed to parse config: {reason}"

end Boundary
