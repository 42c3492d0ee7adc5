/-!
# Blank characters

The blank characters are those with the Unicode property `White_Space`. Blanks
around a part of a written grid carry no meaning and are trimmed away.
-/

namespace Sudoku
namespace Text

/-- The runs of code points with the property `White_Space`, each given by its
first and its last member. -/
def blankRuns : List (Nat × Nat) :=
  [(0x9, 0xD), (0x20, 0x20), (0x85, 0x85), (0xA0, 0xA0), (0x1680, 0x1680),
    (0x2000, 0x200A), (0x2028, 0x2029), (0x202F, 0x202F), (0x205F, 0x205F),
    (0x3000, 0x3000)]

/-- Whether a character is blank. -/
def isBlank (character : Char) : Bool :=
  blankRuns.any fun run => run.1 ≤ character.toNat && character.toNat ≤ run.2

/-- The text without the blanks at its two ends. -/
def trim (text : List Char) : List Char :=
  ((text.dropWhile isBlank).reverse.dropWhile isBlank).reverse

end Text
end Sudoku
