import Sudoku.Game
import Sudoku.Message.Basic

/-!
# From games to messages

Encoding writes a game cell by cell. What a cell does not have is left out, and
so is a domain that the grid did not name; a named domain keeps its listed
order. It fails only on a box dimension that is too wide for a message.
-/

namespace Sudoku

variable {alphabet : Alphabet}

/-- A box dimension in a message. -/
def MessageField.ofDimension (dimension : Nat) : Except Error UInt32 :=
  if dimension < UInt32.size then .ok (UInt32.ofNat dimension)
  else .error (.internal (.wideBoxDimension dimension))

/-- The number of a symbol in a message. -/
def MessageField.ofSymbol (symbol : Symbol alphabet) : Int64 :=
  Int64.ofInt symbol.value

namespace Cell

/-- The message of a cell. -/
def encode (cell : Cell alphabet) : Except Error CellMessage := do
  let width ← cell.boxWidth.mapM MessageField.ofDimension
  let height ← cell.boxHeight.mapM MessageField.ofDimension
  .ok { value := cell.value.map MessageField.ofSymbol, width, height }

end Cell

namespace Grid

/-- The message of a row of cells. -/
def encodeRow (cells : List (Cell alphabet)) : Except Error RowMessage := do
  let cells ← cells.mapM Cell.encode
  .ok { cells := some cells }

/-- The message of a grid. -/
def encode (grid : Grid alphabet) : Except Error GridMessage := do
  let rows ← grid.rows.mapM encodeRow
  let boxWidth ← MessageField.ofDimension grid.box.width
  let boxHeight ← MessageField.ofDimension grid.box.height
  let domain :=
    if grid.explicitDomain then some (grid.domain.listed.map MessageField.ofSymbol)
    else none
  .ok { rows := some rows, boxWidth := some boxWidth, boxHeight := some boxHeight, domain }

end Grid

namespace Game

/-- The message of a game. -/
def encode (game : Game alphabet) : Except Error GameMessage := do
  let grids ← game.grids.mapM Grid.encode
  .ok { grids := some grids }

end Game

end Sudoku
