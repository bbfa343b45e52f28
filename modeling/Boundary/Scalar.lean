import Boundary.Wire.Reader
import Boundary.Wire.Writer

/-!
# Scalars

The numeric types of the wire.  Integers and floats alike are words of fixed width: a float is
carried by its bits, so every payload of a not-a-number crosses unchanged.
-/

namespace Boundary

/-- The numeric types. -/
inductive Scalar where
  | u8 | i8 | u16 | i16 | u32 | i32 | u64 | i64 | f32 | f64
  deriving DecidableEq, Repr

namespace Scalar

/-- The number of bytes of a scalar. -/
def width : Scalar → Nat
  | u8 | i8 => 1
  | u16 | i16 => 2
  | u32 | i32 | f32 => 4
  | u64 | i64 | f64 => 8

/-- The name of a scalar type. -/
def name : Scalar → String
  | u8 => "u8"
  | i8 => "i8"
  | u16 => "u16"
  | i16 => "i16"
  | u32 => "u32"
  | i32 => "i32"
  | u64 => "u64"
  | i64 => "i64"
  | f32 => "f32"
  | f64 => "f64"

/-- All scalar types. -/
def all : List Scalar := [u8, i8, u16, i16, u32, i32, u64, i64, f32, f64]

/-- The scalar type of a name. -/
def ofName? (name : String) : Option Scalar := all.find? fun type => type.name = name

/-- Whether the words of a type have a sign. -/
def isSigned : Scalar → Bool
  | i8 | i16 | i32 | i64 => true
  | _ => false

/-- Whether the words of a type are bits of floats. -/
def isFloat : Scalar → Bool
  | f32 | f64 => true
  | _ => false

/-- The values of a scalar type, as words of its width. -/
abbrev Word (scalar : Scalar) : Type := BitVec (8 * scalar.width)

/-- Whether a word of the type holds no number, so that it differs even from itself: all exponent
bits of a float are set and some bit of its fraction. -/
def isNotANumber : (scalar : Scalar) → scalar.Word → Bool
  | f32, word => word.toNat % 0x80000000 > 0x7f800000
  | f64, word => word.toNat % signedLimit > 0x7ff0000000000000
  | _, _ => false

/-- Whether a word of the type is one of the two float zeros, which are equal as numbers. -/
def isFloatZero : (scalar : Scalar) → scalar.Word → Bool
  | f32, word => word.toNat % 0x80000000 == 0
  | f64, word => word.toNat % signedLimit == 0
  | _, _ => false

/-- Equality as numbers: of words for integers, and of the numbers they stand for with floats. -/
def same (scalar : Scalar) (word other : scalar.Word) : Bool :=
  !scalar.isNotANumber word && !scalar.isNotANumber other &&
    (word == other || scalar.isFloatZero word && scalar.isFloatZero other)

/-- The number that a word of an integer type stands for. -/
def number (scalar : Scalar) (word : scalar.Word) : Int :=
  if scalar.isSigned then word.toInt else word.toNat

/-- Writes a word. -/
def write (scalar : Scalar) (word : scalar.Word) : Write := Write.word scalar.width word.toNat

/-- Reads a word. -/
def read (scalar : Scalar) : Read scalar.Word := Read.word scalar.width

end Scalar

end Boundary
