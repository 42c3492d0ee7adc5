import Sudoku.Domain

/-!
# Grids

A grid is a rectangle of cells with a default box shape and a domain. A cell
may hold a value, and may override either dimension of its box, which makes
irregular puzzles possible. A grid is only built when it is rectangular, is not
empty, and every box dimension in it, default or overriding, tiles it. Whether
its values lie in the domain and respect the rules is left open here.
-/

namespace Sudoku

/-- A cell: its value, and its own box dimensions where they differ from those
of the grid. -/
structure Cell (alphabet : Alphabet) where
  value : Option (Symbol alphabet) := none
  boxWidth : Option Nat := none
  boxHeight : Option Nat := none
  deriving DecidableEq

namespace Cell

variable {alphabet : Alphabet}

/-- The cell with its box width overridden. -/
def withBoxWidth (cell : Cell alphabet) (width : Nat) : Cell alphabet :=
  { cell with boxWidth := some width }

/-- The cell with its box height overridden. -/
def withBoxHeight (cell : Cell alphabet) (height : Nat) : Cell alphabet :=
  { cell with boxHeight := some height }

/-- The cell with both box dimensions overridden. -/
def withBoxShape (cell : Cell alphabet) (shape : BoxShape) : Cell alphabet :=
  (cell.withBoxWidth shape.width).withBoxHeight shape.height

/-- Whether the cell overrides a dimension of its box. -/
def hasOverride (cell : Cell alphabet) : Bool :=
  cell.boxWidth.isSome || cell.boxHeight.isSome

end Cell

/-- A rectangle of cells in row-major order. -/
structure Grid (alphabet : Alphabet) where
  height : Nat
  width : Nat
  cells : Array (Cell alphabet)
  box : BoxShape
  domain : Domain alphabet
  explicitDomain : Bool
  deriving DecidableEq

namespace Grid

variable {alphabet : Alphabet}

/-! ### Building -/

/-- What keeps boxes of the given width from tiling the columns. -/
def widthFlaw? (columns width : Nat) : Option MalformedReason :=
  if width = 0 then some .zeroBoxDimension
  else if columns % width = 0 then none
  else some (.boxWidthDoesNotTile width columns)

/-- What keeps boxes of the given height from tiling the rows. -/
def heightFlaw? (rows height : Nat) : Option MalformedReason :=
  if height = 0 then some .zeroBoxDimension
  else if rows % height = 0 then none
  else some (.boxHeightDoesNotTile height rows)

/-- What keeps the overrides of a cell from tiling the grid, its width before
its height. -/
def overrideFlaw? (height width : Nat) (cell : Cell alphabet) : Option MalformedReason :=
  (cell.boxWidth.bind (widthFlaw? width)).or
    (cell.boxHeight.bind (heightFlaw? height))

/-- The first row that is not of the given width. -/
def lengthFlaw? (width : Nat) (rows : List (List (Cell alphabet))) : Option Error :=
  rows.zipIdx.findSome? fun (row, number) =>
    if row.length = width then none
    else some (.malformed (.ofRow number) (.nonRectangular width row.length))

/-- The first cell whose overrides do not tile the grid. -/
def overridesFlaw? (height width : Nat) (rows : List (List (Cell alphabet))) :
    Option Error :=
  rows.zipIdx.findSome? fun (row, rowNumber) =>
    row.zipIdx.findSome? fun (cell, column) =>
      (overrideFlaw? height width cell).map
        (.malformed (.ofPosition ⟨rowNumber, column⟩))

/-- The first flaw of form in rows of cells with a default box shape: no cells,
rows of different lengths, a default shape that does not tile the grid, an
override that does not. -/
def flaw? (rows : List (List (Cell alphabet))) (box : BoxShape) : Option Error :=
  let height := rows.length
  let width := (rows.headD []).length
  if width = 0 then some (.malformed .unknown .emptyGrid)
  else
    (lengthFlaw? width rows).or <|
    ((widthFlaw? width box.width).map (.malformed .unknown)).or <|
    ((heightFlaw? height box.height).map (.malformed .unknown)).or <|
    overridesFlaw? height width rows

/-- Build a grid from its rows. A flaw of form is reported before a fault of the
domain. -/
def build (rows : List (List (Cell alphabet))) (box : BoxShape)
    (domain : Except Error (Domain alphabet)) (explicitDomain : Bool) :
    Except Error (Grid alphabet) :=
  match flaw? rows box with
  | some error => .error error
  | none =>
      domain.map fun domain => {
        height := rows.length
        width := (rows.headD []).length
        cells := rows.flatten.toArray
        box, domain, explicitDomain }

/-- Build a grid over the default domain, the symbols from one up to the number
of rows. -/
def ofRows (rows : List (List (Cell alphabet))) (box : BoxShape) :
    Except Error (Grid alphabet) :=
  build rows box (Domain.default rows.length) false

/-- Build a grid over a domain of its own. -/
def ofRowsOver (domain : Domain alphabet) (rows : List (List (Cell alphabet)))
    (box : BoxShape) : Except Error (Grid alphabet) :=
  build rows box (.ok domain) true

/-- Build a grid without values. -/
def blank (height width : Nat) (box : BoxShape) : Except Error (Grid alphabet) :=
  ofRows ((List.range height).map fun _ => List.replicate width {}) box

/-! ### Reading -/

/-- The number of cells. -/
def cellCount (grid : Grid alphabet) : Nat :=
  grid.height * grid.width

/-- The cell of the given row-major number. -/
def cellAt (grid : Grid alphabet) (number : Nat) : Cell alphabet :=
  grid.cells.getD number {}

/-- The value of the cell of the given row-major number. -/
def valueAt (grid : Grid alphabet) (number : Nat) : Option (Symbol alphabet) :=
  (grid.cellAt number).value

/-- The box shape of a cell: its own dimensions where it has them, and those of
the grid otherwise. -/
def shapeOf (grid : Grid alphabet) (cell : Cell alphabet) : BoxShape :=
  ⟨cell.boxWidth.getD grid.box.width, cell.boxHeight.getD grid.box.height⟩

/-- The box shape of the cell of the given row-major number. -/
def shapeAt (grid : Grid alphabet) (number : Nat) : BoxShape :=
  grid.shapeOf (grid.cellAt number)

/-- Whether a position lies inside the grid. -/
def contains (grid : Grid alphabet) (position : Position) : Bool :=
  decide (position.row < grid.height) && decide (position.column < grid.width)

/-- The cell at a position inside the grid. -/
def cell (grid : Grid alphabet) (position : Position) : Except Error (Cell alphabet) :=
  if grid.contains position then .ok (grid.cellAt (position.number grid.width))
  else .error (.outOfBounds (.ofPosition position))

/-- The value at a position inside the grid. -/
def value (grid : Grid alphabet) (position : Position) :
    Except Error (Option (Symbol alphabet)) :=
  (grid.cell position).map Cell.value

/-- The box shape of the cell at a position inside the grid. -/
def boxShape (grid : Grid alphabet) (position : Position) : Except Error BoxShape :=
  (grid.cell position).map grid.shapeOf

/-- The cells row by row. -/
def rows (grid : Grid alphabet) : List (List (Cell alphabet)) :=
  (List.range grid.height).map fun row =>
    (List.range grid.width).map fun column =>
      grid.cellAt (Position.number grid.width ⟨row, column⟩)

/-- The number of cells that hold a value. -/
def clueCount (grid : Grid alphabet) : Nat :=
  (List.range grid.cellCount).countP fun number => (grid.valueAt number).isSome

/-- Whether every cell holds a value. -/
def isFull (grid : Grid alphabet) : Bool :=
  (List.range grid.cellCount).all fun number => (grid.valueAt number).isSome

/-- Whether another grid of the same dimensions holds every value of this one in
the same cell. -/
def isSubset (grid other : Grid alphabet) : Bool :=
  grid.height == other.height && grid.width == other.width &&
    (List.range grid.cellCount).all fun number =>
      (grid.valueAt number).all fun symbol => other.valueAt number == some symbol

/-- The first cell whose value is not in the domain. -/
def valueFlaw? (grid : Grid alphabet) : Option Error :=
  (List.range grid.cellCount).findSome? fun number =>
    (grid.valueAt number).bind fun symbol =>
      if grid.domain.contains symbol then none
      else some (.malformed (.ofPosition (.ofNumber grid.width number))
        (.valueOutOfDomain symbol.text))

/-- Check that every value lies in the domain. -/
def checkValues (grid : Grid alphabet) : Except Error Unit :=
  Error.guard grid.valueFlaw?

/-! ### Writing -/

/-- The grid with the value of the cell of the given row-major number replaced. -/
def setValueAt (grid : Grid alphabet) (number : Nat) (value : Option (Symbol alphabet)) :
    Grid alphabet :=
  { grid with cells := grid.cells.modify number fun cell => { cell with value } }

/-- Replace the value at a position inside the grid. -/
def setValue (grid : Grid alphabet) (position : Position)
    (value : Option (Symbol alphabet)) : Except Error (Grid alphabet) :=
  if grid.contains position then
    .ok (grid.setValueAt (position.number grid.width) value)
  else .error (.outOfBounds (.ofPosition position))

/-- Write a symbol into the cell at a position inside the grid. The symbol need
not be in the domain. -/
def commit (grid : Grid alphabet) (position : Position) (symbol : Symbol alphabet) :
    Except Error (Grid alphabet) :=
  grid.setValue position (some symbol)

/-- Empty the cell at a position inside the grid. -/
def clear (grid : Grid alphabet) (position : Position) : Except Error (Grid alphabet) :=
  grid.setValue position none

end Grid

end Sudoku
