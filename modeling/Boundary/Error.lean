import Boundary.Buffer.Error
import Boundary.Codec.Error
import Boundary.Config.Error
import Boundary.Contract.Error
import Boundary.Handle.Error

/-!
# Errors

Everything that can go wrong at the boundary apart from the errors that calls declare.
-/

namespace Boundary

/-- The causes of failure, by the part of the boundary that reports them. -/
inductive Error where
  | codec (cause : CodecError)
  | buffer (cause : BufferError)
  | handle (cause : HandleError)
  | integrity (cause : IntegrityError)
  | config (cause : ConfigError)
  /-- An entry point of the core panicked where no call was made. -/
  | panic (message : String)
  | unknownStatus (code : Int)
  /-- The other side broke the calling convention. -/
  | protocol (detail : String)
  | objectDestroyed (interface : String)
  /-- A callback interface was used before its table of functions was registered. -/
  | tableMissing (interface : String)
  deriving DecidableEq, Repr

namespace Error

/-- The wording of each cause. -/
def message : Error → String
  | codec cause => cause.message
  | buffer cause => cause.message
  | handle cause => cause.message
  | integrity cause => cause.message
  | config cause => cause.message
  | panic message => s!"Native core panicked: {message}"
  | unknownStatus code => s!"Unknown call status code {code}"
  | protocol detail => s!"Protocol violation: {detail}"
  | objectDestroyed interface => s!"{interface} object has already been destroyed"
  | tableMissing interface => s!"No vtable registered for callback interface '{interface}'"

/-- The name of each cause, behind that of the part of the boundary that reports it. -/
def name : Error → String
  | codec cause => "Codec." ++ cause.name
  | buffer cause => "Buffer." ++ cause.name
  | handle cause => "Handle." ++ cause.name
  | integrity cause => "Integrity." ++ cause.name
  | config cause => "Config." ++ cause.name
  | panic _ => "Panic"
  | unknownStatus _ => "UnknownStatus"
  | protocol _ => "Protocol"
  | objectDestroyed _ => "ObjectDestroyed"
  | tableMissing _ => "VTableMissing"

/-- Whether the error comes from encoding or decoding. -/
def isCodec : Error → Bool
  | codec _ => true
  | _ => false

/-- Whether the error is a violation of buffer ownership or layout. -/
def isBuffer : Error → Bool
  | buffer _ => true
  | _ => false

/-- Whether the error is about a handle. -/
def isHandle : Error → Bool
  | handle _ => true
  | _ => false

/-- Whether the error is a difference of contracts. -/
def isIntegrity : Error → Bool
  | integrity _ => true
  | _ => false

/-- Whether the error cannot be recovered from: neither a short read nor a matter of
configuration. -/
def isFatal : Error → Bool
  | codec cause => !cause.isBounds
  | config _ => false
  | _ => true

end Error

end Boundary
