/-!
# Positions and box shapes

A cell is named by its row and column, both counted from zero, or by its number
in row-major order. A box shape says how many columns and rows a box spans.
-/

namespace Sudoku

/-- The place of a cell within a grid, counted from the top left corner. -/
structure Position where
  row : Nat
  column : Nat
  deriving DecidableEq

namespace Position

/-- The position of the cell with the given row-major number in a grid of the
given width. -/
def ofNumber (width number : Nat) : Position :=
  ⟨number / width, number % width⟩

/-- The row-major number of a position in a grid of the given width. -/
def number (width : Nat) (position : Position) : Nat :=
  position.row * width + position.column

@[simp] theorem row_ofNumber (width number : Nat) :
    (ofNumber width number).row = number / width := rfl

@[simp] theorem column_ofNumber (width number : Nat) :
    (ofNumber width number).column = number % width := rfl

@[simp] theorem number_ofNumber (width cellNumber : Nat) :
    (ofNumber width cellNumber).number width = cellNumber := by
  simp [number, Nat.div_add_mod']

/-- Positions come in reading order: by row first, then by column. -/
instance : Ord Position where
  compare first second :=
    (compare first.row second.row).then (compare first.column second.column)

/-- The text of a position. -/
def text (position : Position) : String :=
  s!"(row {position.row}, column {position.column})"

end Position

/-- The number of columns and rows a box spans. -/
structure BoxShape where
  width : Nat
  height : Nat
  deriving DecidableEq

namespace BoxShape

/-- The positions of the block that a position falls in, row by row, when a grid is cut into
blocks of the shape from the top left corner on. -/
def block (shape : BoxShape) (position : Position) : List Position :=
  let top := position.row - position.row % shape.height
  let left := position.column - position.column % shape.width
  (List.range shape.height).flatMap fun row =>
    (List.range shape.width).map fun column => ⟨top + row, left + column⟩

/-- The text of a shape, its width before its height. -/
def text (shape : BoxShape) : String :=
  s!"{shape.width}x{shape.height}"

end BoxShape

end Sudoku
