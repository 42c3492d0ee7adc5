/-!
# Decimal integers

Integers are written with the fewest digits, and read with an optional sign and
any number of leading zeros. Readers bound the magnitude: signed integers take
64 bits in two's complement and natural numbers take 64 bits.
-/

namespace Sudoku
namespace Text

/-- Why a text is not an integer of the accepted range. -/
inductive DecimalFault
  | invalidDigit
  | tooLarge
  | tooSmall
  deriving DecidableEq

/-- The wording of a fault. -/
def DecimalFault.message : DecimalFault → String
  | .invalidDigit => "invalid digit found in string"
  | .tooLarge => "number too large to fit in target type"
  | .tooSmall => "number too small to fit in target type"

namespace Decimal

/-- The digits of a natural number, most significant first. -/
def ofNat (value : Nat) : List Char :=
  Nat.toDigits 10 value

/-- The digits of an integer, after a minus sign if it is negative. -/
def ofInt : Int → List Char
  | .ofNat value => ofNat value
  | .negSucc value => '-' :: ofNat (value + 1)

/-- The value of a decimal digit. -/
def digit? (character : Char) : Option Nat :=
  if '0' ≤ character ∧ character ≤ '9' then some (character.toNat - '0'.toNat)
  else none

/-- Read digits to the end of the text after those that gave the magnitude so
far. The first character that is no digit, or that takes the magnitude beyond
the bound, decides the fault. -/
def readDigits (bound : Nat) (overflow : DecimalFault) :
    Nat → List Char → Except DecimalFault Nat
  | magnitude, [] => .ok magnitude
  | magnitude, character :: rest =>
      match digit? character with
      | none => .error .invalidDigit
      | some digit =>
          if 10 * magnitude + digit ≤ bound then
            readDigits bound overflow (10 * magnitude + digit) rest
          else .error overflow

/-- Read a number of at least one digit. -/
def readMagnitude (bound : Nat) (overflow : DecimalFault) (digits : List Char) :
    Except DecimalFault Nat :=
  if digits.isEmpty then .error .invalidDigit
  else readDigits bound overflow 0 digits

/-- The largest magnitude of a signed integer without a minus sign. -/
def greatestInt : Nat := 0x7fffffffffffffff

/-- The largest magnitude of a signed integer with a minus sign. -/
def greatestNegated : Nat := 0x8000000000000000

/-- The largest natural number. -/
def greatestNat : Nat := 0xffffffffffffffff

/-- Read a signed integer. -/
def readInt (text : List Char) : Except DecimalFault Int :=
  match text with
  | '-' :: digits =>
      (readMagnitude greatestNegated .tooSmall digits).map fun magnitude =>
        -(magnitude : Int)
  | '+' :: digits => (readMagnitude greatestInt .tooLarge digits).map Int.ofNat
  | digits => (readMagnitude greatestInt .tooLarge digits).map Int.ofNat

/-- Read a natural number, which has no minus sign. -/
def readNat (text : List Char) : Except DecimalFault Nat :=
  match text with
  | '+' :: digits => readMagnitude greatestNat .tooLarge digits
  | digits => readMagnitude greatestNat .tooLarge digits

end Decimal
end Text
end Sudoku
