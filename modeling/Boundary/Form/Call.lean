import Boundary.Form.Error
import Boundary.Session.Reply

/-!
# Forms of calls

What crosses the boundary is shown once and then released, buffers with their contents.
-/

namespace Boundary

/-- Releases a buffer and shows what it held. -/
def Buffer.shown (buffer : Buffer) : StateM Ledger Form := do
  return toForm (← (Act.ofReporting buffer.take).observe).toOption

/-- Releases a buffer and shows what it held, as a result. -/
def Buffer.shownResult (buffer : Buffer) : StateM Ledger Form := do
  return .members [("buffer", ← buffer.shown)]

/-- Shows a result that was passed. -/
def Passed.shown : Passed → StateM Ledger Form
  | .void => return .empty
  | .word type bits => return type.toForm bits
  | .buffer own => own.shownResult

namespace Status

/-- The form of a code: its name, or the number of one without a meaning. -/
def codeForm (code : Int) : Form :=
  (StatusCode.ofNumber? code).elim (.members [("unknown", .number code)]) fun known =>
    .text known.name

/-- Shows a status, with the text of a panic, and releases its buffer. -/
def shown (status : Status) : StateM Ledger Form := do
  let data := (← (Act.ofReporting status.errorBuffer.take).observe).toOption
  let text := data.bind fun data => (Utf8.read.liftExact data).toOption
  return .members <| match status.meaning?, text with
    | some .panic, some text => [("code", .text "PANIC"),
        ("message", .text (withoutAddresses text))]
    | some .panic, none => [("code", .text "PANIC"), ("message", toForm data)]
    | some known, _ => [("code", .text known.name), ("error_buf", toForm data)]
    | none, _ => [("code", .number status.code), ("error_buf", toForm data)]

end Status

/-- Shows a result that was passed and the status it came with. -/
def shownReturn (result : Passed) (status : Status) : StateM Ledger Members := do
  return [("value", ← result.shown), ("status", ← status.shown)]

/-- Shows the answer to a step; what a call returned is named by the caller. -/
def Reply.shown {ε : Type} [Declarable ε] [Failure PanicPayload] (value : String) :
    Reply ε → StateM Ledger Members
  | .done => return Boundary.done ()
  | .flag holds => return Boundary.done holds
  | .count number => return Boundary.done number
  | .text content => return Boundary.done content
  | .handle own => return Boundary.done own
  | .passed result => do return Boundary.done (← result.shown)
  | .returned result status => do return [(value, ← result.shown), ("status", ← status.shown)]
  | .failed cause => return failure cause
  | .callFailed cause => return failure cause
  | .unwound payload => return failure payload
  | .pending => return [("pending", .truth true)]
  | .gone => return Boundary.done "gone"

end Boundary
