import Boundary.Buffer

/-!
# Passing results

How the result of a call crosses the boundary.  Numbers, truth values and handles are passed as
words, everything composite in a buffer.  A call that does not return has to pass something all the
same: the placeholder of its channel.
-/

namespace Boundary

/-- What crosses the boundary as the result of a call. -/
inductive Passed where
  | void
  | word (type : Scalar) (word : type.Word)
  | buffer (buffer : Buffer)
  deriving DecidableEq

/-- The way in which the results of a call cross. -/
inductive Channel where
  | void
  | word (type : Scalar)
  | buffer
  deriving DecidableEq, Repr

/-- What crosses if there is no result: zero, or the buffer without memory. -/
def Channel.placeholder : Channel → Passed
  | void => .void
  | word type => .word type 0
  | buffer => .buffer Buffer.empty

/-- The result of a body, before it is passed. -/
inductive Output where
  | void
  | word (type : Scalar) (word : type.Word)
  /-- A value that is passed by its encoding. -/
  | lowered (lowering : Lowering)
  /-- A buffer that the body filled itself. -/
  | buffer (buffer : Buffer)

namespace Output

/-- A truth value, as a signed byte. -/
def bool (truth : Bool) : Output := .word .i8 (if truth then 1 else 0)

/-- A handle, as an unsigned word. -/
def handle (handle : Handle) : Output := .word .u64 handle.raw.toBitVec

/-- The channel that takes the result. -/
def channel : Output → Channel
  | void => .void
  | word type _ => .word type
  | lowered _ | buffer _ => .buffer

/-- Passes the result, which for an encoded one takes a buffer. -/
def pass : Output → LedgerAct Passed
  | void => return .void
  | word type bits => return .word type bits
  | lowered lowering => do return .buffer (← Buffer.lower lowering)
  | buffer filled => return .buffer filled

end Output

end Boundary
