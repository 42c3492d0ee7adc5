import Sudoku.Position

/-!
# Locations

A location says how much is known of the place a fault was found in: the grid
of a game, and the row and column within that grid.
-/

namespace Sudoku

/-- The known part of a place in a game. -/
structure Location where
  grid : Option Nat := none
  row : Option Nat := none
  column : Option Nat := none
  deriving DecidableEq

namespace Location

/-- Nothing is known of the place. -/
def unknown : Location := {}

/-- A whole grid. -/
def ofGrid (grid : Nat) : Location := { grid := some grid }

/-- A whole row of an unnamed grid. -/
def ofRow (row : Nat) : Location := { row := some row }

/-- A single cell of an unnamed grid. -/
def ofPosition (position : Position) : Location :=
  { row := some position.row, column := some position.column }

/-- The same place, within the grid of the given number. -/
def inGrid (location : Location) (grid : Nat) : Location :=
  { location with grid := some grid }

@[simp] theorem row_inGrid (location : Location) (grid : Nat) :
    (location.inGrid grid).row = location.row := rfl

@[simp] theorem column_inGrid (location : Location) (grid : Nat) :
    (location.inGrid grid).column = location.column := rfl

@[simp] theorem inGrid_inGrid (location : Location) (first second : Nat) :
    (location.inGrid first).inGrid second = location.inGrid second := rfl

/-- The known parts from the outside in, or a sign for the whole when no part
is known. -/
def text (location : Location) : String :=
  let parts :=
    (location.grid.map fun grid => s!"grid {grid}").toList ++
    (location.row.map fun row => s!"row {row}").toList ++
    (location.column.map fun column => s!"column {column}").toList
  if parts.isEmpty then "<root>" else " / ".intercalate parts

end Location

end Sudoku
