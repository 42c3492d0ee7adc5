/-!
# Messages

A message is a game in the form in which it is exchanged. It has the parts of a
game one by one, and any of them may be missing. Values are signed integers of
64 bits and box dimensions are unsigned integers of 32 bits.
-/

namespace Sudoku

/-- A cell in a message. -/
structure CellMessage where
  value : Option Int64 := none
  width : Option UInt32 := none
  height : Option UInt32 := none
  deriving DecidableEq

/-- A row of cells in a message. -/
structure RowMessage where
  cells : Option (List CellMessage) := none
  deriving DecidableEq

/-- A grid in a message. -/
structure GridMessage where
  rows : Option (List RowMessage) := none
  boxWidth : Option UInt32 := none
  boxHeight : Option UInt32 := none
  domain : Option (List Int64) := none
  deriving DecidableEq

/-- A game in a message. -/
structure GameMessage where
  grids : Option (List GridMessage) := none
  deriving DecidableEq

end Sudoku
