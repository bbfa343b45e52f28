import Boundary.Wire.Reader
import Boundary.Wire.Writer

/-!
# Text on the wire

Text is written as UTF-8 with its length in bytes before it.  The main statements say that decoding
inverts encoding and that only the encoding of a text decodes to it.
-/

namespace Boundary

namespace Utf8

/-- The UTF-8 form of a text. -/
def encode (text : String) : Bytes := text.toByteArray.data.toList

/-- The text of which the bytes are the UTF-8 form, if there is one. -/
def decode? (bytes : Bytes) : Option String := String.fromUTF8? ⟨bytes.toArray⟩

/-- A text is decoded from its encoding. -/
theorem decode?_encode (text : String) : decode? (encode text) = some text := by
  exact dif_pos text.isValidUTF8

/-- Bytes that are decoded are the encoding of the text. -/
theorem eq_encode_of_decode? {bytes : Bytes} {text : String} (decoded : decode? bytes = some text) :
    bytes = encode text := by
  simp only [decode?, String.fromUTF8?] at decoded
  split at decoded
  · simp only [Option.some.injEq] at decoded
    subst decoded
    simp [encode, String.fromUTF8]
  · cases decoded

/-- The number of bytes in the UTF-8 form of a text. -/
def size (text : String) : Nat := (encode text).length

/-- Writes a text behind its length. -/
def write (text : String) : Write := Write.counted (encode text)

/-- Reads a text behind its length. -/
def read : Read String := do
  let data ← Read.bytes (← Read.length)
  match decode? data with
  | some text => return text
  | none => Act.fail .invalidUtf8

end Utf8

end Boundary
