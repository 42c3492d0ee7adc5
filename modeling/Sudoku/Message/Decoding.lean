import Sudoku.Game
import Sudoku.Message.Basic

/-!
# From messages to games

Decoding a message checks that nothing needed is missing, that every symbol
belongs to the alphabet, that the grids can be built, and that every value lies
in its domain. The first flaw is reported with its place. Whether the values
respect the rules of the puzzle is left to the solver.
-/

namespace Sudoku

variable {alphabet : Alphabet}

/-- A part of a message that has to be there. -/
def MessageField.require {part : Type} (location : Location) (field : String) :
    Option part → Except Error part
  | some part => .ok part
  | none => .error (.malformed location (.missingField field))

/-- The symbol of a number in a message. -/
def MessageField.symbol (location : Location) (value : Int64) :
    Except Error (Symbol alphabet) :=
  match Symbol.ofInt? value.toInt with
  | some symbol => .ok symbol
  | none =>
      .error (.malformed location
        (.valueOutOfDomain (String.ofList (Text.Decimal.ofInt value.toInt))))

namespace CellMessage

/-- The cell of a message. -/
def decode (location : Location) (message : CellMessage) :
    Except Error (Cell alphabet) := do
  let value ← message.value.mapM (MessageField.symbol location)
  .ok {
    value
    boxWidth := message.width.map UInt32.toNat
    boxHeight := message.height.map UInt32.toNat }

/-- The cells of a row, of which the first is in the given column. -/
def decodeFrom (row : Nat) :
    Nat → List CellMessage → Except Error (List (Cell alphabet))
  | _, [] => .ok []
  | column, message :: rest => do
      let cell ← message.decode (.ofPosition ⟨row, column⟩)
      let others ← decodeFrom row (column + 1) rest
      .ok (cell :: others)

end CellMessage

namespace RowMessage

/-- The cells of the rows of a grid, of which the first has the given number. -/
def decodeFrom : Nat → List RowMessage → Except Error (List (List (Cell alphabet)))
  | _, [] => .ok []
  | row, message :: rest => do
      let cells ← MessageField.require (.ofRow row) "cells" message.cells
      let cells ← CellMessage.decodeFrom row 0 cells
      let others ← decodeFrom (row + 1) rest
      .ok (cells :: others)

end RowMessage

namespace GridMessage

/-- The domain of a message that lists one. -/
def decodeDomain (values : List Int64) : Except Error (Domain alphabet) := do
  let listed ← values.mapM (MessageField.symbol .unknown)
  Domain.ofList listed

/-- The grid of a message. -/
def decode (message : GridMessage) : Except Error (Grid alphabet) := do
  let rows ← MessageField.require .unknown "rows" message.rows
  let width ← MessageField.require .unknown "box_width" message.boxWidth
  let height ← MessageField.require .unknown "box_height" message.boxHeight
  let box : BoxShape := ⟨width.toNat, height.toNat⟩
  let rows ← RowMessage.decodeFrom 0 rows
  let grid ←
    match message.domain with
    | none => Grid.ofRows rows box
    | some values => do
        let domain ← decodeDomain values
        Grid.ofRowsOver domain rows box
  grid.checkValues
  .ok grid

/-- The grids of a game, of which the first has the given number. -/
def decodeFrom : Nat → List GridMessage → Except Error (List (Grid alphabet))
  | _, [] => .ok []
  | number, message :: rest => do
      let grid ← message.decode.mapError (·.inGrid number)
      let others ← decodeFrom (number + 1) rest
      .ok (grid :: others)

end GridMessage

namespace GameMessage

/-- The game of a message. -/
def decode (message : GameMessage) : Except Error (Game alphabet) := do
  let grids ← MessageField.require .unknown "grids" message.grids
  let grids ← GridMessage.decodeFrom 0 grids
  .ok { grids }

end GameMessage

end Sudoku
