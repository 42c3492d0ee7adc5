import Sudoku.Grid.Basic
import Sudoku.Text.Blank
import Sudoku.Text.Pieces

/-!
# Grid codes

A code is a line of text for a grid: the default box shape, a semicolon, and one
entry for each cell in row-major order, separated by commas. An entry is the
value of the cell, if it has one, followed by an at sign and its box shape, if
the cell overrides it.

Every grid has a code. Only square grids over the default domain are read back
from theirs, and reading ignores blanks around every part.
-/

namespace Sudoku

namespace BoxShape

/-- The characters of a shape, its width before its height. -/
def code (shape : BoxShape) : List Char :=
  Text.Decimal.ofNat shape.width ++ 'x' :: Text.Decimal.ofNat shape.height

/-- Read a shape. -/
def ofCode? (text : List Char) : Option BoxShape :=
  match Text.pieces 'x' text with
  | [width, height] =>
      match Text.Decimal.readNat (Text.trim width),
          Text.Decimal.readNat (Text.trim height) with
      | .ok width, .ok height => some ⟨width, height⟩
      | _, _ => none
  | _ => none

end BoxShape

namespace Grid

variable {alphabet : Alphabet}

/-! ### Writing -/

/-- The characters of the entry of a cell. -/
def entryCode (grid : Grid alphabet) (cell : Cell alphabet) : List Char :=
  (cell.value.elim [] fun symbol => Text.Decimal.ofInt symbol.value) ++
    if cell.hasOverride then '@' :: (grid.shapeOf cell).code else []

/-- The entries of all cells. -/
def entryCodes (grid : Grid alphabet) : List (List Char) :=
  (List.range grid.cellCount).map fun number => grid.entryCode (grid.cellAt number)

/-- The code of a grid. -/
def code (grid : Grid alphabet) : String :=
  String.ofList (grid.box.code ++ ';' :: Text.join ',' grid.entryCodes)

/-! ### Reading -/

/-- A text that could not be read, with the place of the flaw. -/
def unreadable (location : Location) (fault : ReadFault) : Error :=
  .malformed location (.unreadable fault)

/-- Read the value of a cell, which is absent from a blank text. -/
def readValue (location : Location) (text : List Char) :
    Except Error (Option (Symbol alphabet)) :=
  if text.isEmpty then .ok none
  else
    match Text.Decimal.readInt text with
    | .error fault => .error (unreadable location (.number fault))
    | .ok value =>
        match Symbol.ofInt? value with
        | some symbol => .ok (some symbol)
        | none =>
            .error (.malformed location
              (.valueOutOfDomain (String.ofList (Text.Decimal.ofInt value))))

/-- Read the entry of a cell. -/
def readEntry (location : Location) (entry : List Char) :
    Except Error (Cell alphabet) := do
  let value ← readValue location (Text.trim (entry.takeWhile (· != '@')))
  match entry.dropWhile (· != '@') with
  | [] => .ok { value }
  | _ :: shape =>
      match BoxShape.ofCode? (Text.trim shape) with
      | some shape => .ok (Cell.withBoxShape { value } shape)
      | none => .error (unreadable location .boxOverride)

/-- Read the entries of a square grid of the given size, the first of which has
the given row-major number. -/
def readEntries (size : Nat) : Nat → List (List Char) → Except Error (List (Cell alphabet))
  | _, [] => .ok []
  | number, entry :: rest => do
      let cell ← readEntry (.ofPosition (.ofNumber size number)) entry
      let others ← readEntries size (number + 1) rest
      .ok (cell :: others)

/-- The side of a square of the given number of cells. -/
def side? (count : Nat) : Option Nat :=
  (List.range (count + 1)).find? fun side => side * side == count

/-- The cells of a square grid of the given size, row by row. -/
def squareRows (size : Nat) (cells : List (Cell alphabet)) : List (List (Cell alphabet)) :=
  (List.range size).map fun row => (cells.drop (row * size)).take size

/-- Read a grid from the characters of its code. -/
def readCode (text : List Char) : Except Error (Grid alphabet) := do
  match Text.pieces ';' text with
  | [shape, entries] =>
      let some shape := BoxShape.ofCode? (Text.trim shape)
        | .error (unreadable .unknown .boxDimensions)
      let entries := Text.pieces ',' entries
      let some size := side? entries.length
        | .error (unreadable .unknown .cellCount)
      let cells ← readEntries size 0 entries
      let grid ← ofRows (squareRows size cells) shape
      grid.checkValues
      .ok grid
  | _ => .error (unreadable .unknown .separatorCount)

/-- Read a grid from its code. -/
def ofCode (code : String) : Except Error (Grid alphabet) :=
  readCode code.toList

end Grid

end Sudoku
