import Sudoku.Text.Decimal

/-!
# Symbols

The symbols written into cells are integers of one alphabet, which is a range of
integers. A symbol is made from its integer, if the alphabet has it, is turned back into
it, and is ordered by it. The alphabets in use are the integers that fit so many bits,
with or without a sign. Every alphabet fits into the signed integers of 64 bits, which is
what messages hold.
-/

namespace Sudoku

/-- A range of integers that may serve as symbols. It has the number one, and no integer
that does not fit 64 bits with a sign. -/
structure Alphabet where
  /-- The least symbol. -/
  least : Int
  /-- The greatest symbol. -/
  greatest : Int
  le_least : -0x8000000000000000 ≤ least
  greatest_lt : greatest < 0x8000000000000000
  least_le_one : least ≤ 1
  one_le_greatest : 1 ≤ greatest

namespace Alphabet

/-- The integers of 8 bits without a sign. -/
def unsigned8 : Alphabet := ⟨0, 0xff, by decide, by decide, by decide, by decide⟩

/-- The integers of 16 bits without a sign. -/
def unsigned16 : Alphabet := ⟨0, 0xffff, by decide, by decide, by decide, by decide⟩

/-- The integers of 32 bits without a sign. -/
def unsigned32 : Alphabet := ⟨0, 0xffffffff, by decide, by decide, by decide, by decide⟩

/-- The integers of 8 bits with a sign. -/
def signed8 : Alphabet := ⟨-0x80, 0x7f, by decide, by decide, by decide, by decide⟩

/-- The integers of 16 bits with a sign. -/
def signed16 : Alphabet := ⟨-0x8000, 0x7fff, by decide, by decide, by decide, by decide⟩

/-- The integers of 32 bits with a sign. -/
def signed32 : Alphabet :=
  ⟨-0x80000000, 0x7fffffff, by decide, by decide, by decide, by decide⟩

/-- The integers of 64 bits with a sign. -/
def signed64 : Alphabet :=
  ⟨-0x8000000000000000, 0x7fffffffffffffff, by decide, by decide, by decide, by decide⟩

end Alphabet

/-- An integer within the range of an alphabet. -/
structure Symbol (alphabet : Alphabet) where
  value : Int
  least_le : alphabet.least ≤ value
  le_greatest : value ≤ alphabet.greatest
  deriving DecidableEq

namespace Symbol

variable {alphabet : Alphabet}

/-- Symbols with the same integer are the same. -/
theorem eq_of_value_eq {first second : Symbol alphabet}
    (same : first.value = second.value) : first = second := by
  cases first
  cases second
  simp_all

/-- The symbol of an integer, if the alphabet has it. -/
def ofInt? (value : Int) : Option (Symbol alphabet) :=
  if bounds : alphabet.least ≤ value ∧ value ≤ alphabet.greatest then
    some ⟨value, bounds.1, bounds.2⟩
  else none

/-- Exactly the integers of the range are symbols, each by its own value. -/
theorem ofInt?_eq_some_iff {value : Int} {symbol : Symbol alphabet} :
    ofInt? value = some symbol ↔ symbol.value = value := by
  constructor
  · intro found
    simp only [ofInt?] at found
    split at found
    · simp only [Option.some.injEq] at found
      rw [← found]
    · simp at found
  · rintro rfl
    simp [ofInt?, symbol.least_le, symbol.le_greatest]

@[simp] theorem ofInt?_value (symbol : Symbol alphabet) :
    ofInt? symbol.value = some symbol :=
  ofInt?_eq_some_iff.2 rfl

/-- The decimal text of a symbol. -/
def text (symbol : Symbol alphabet) : String :=
  String.ofList (Text.Decimal.ofInt symbol.value)

/-- The symbols of so many numbers in a row from the given one on, if the alphabet has them
all. -/
def consecutive? : Nat → Nat → Option (List (Symbol alphabet))
  | _, 0 => some []
  | number, count + 1 =>
      (ofInt? number).bind fun symbol =>
        (consecutive? (number + 1) count).map (symbol :: ·)

/-- The symbols from one up to the given size, if the alphabet has them all. -/
def upTo? (size : Nat) : Option (List (Symbol alphabet)) :=
  consecutive? 1 size

end Symbol

end Sudoku
