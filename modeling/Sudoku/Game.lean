import Sudoku.Grid.Basic

/-!
# Games

A game is a sequence of grids that have nothing to do with one another. The
number of a grid becomes part of the errors that it gives rise to.
-/

namespace Sudoku

/-- A sequence of independent grids. -/
structure Game (alphabet : Alphabet) where
  grids : List (Grid alphabet)
  deriving DecidableEq

namespace Game

variable {alphabet : Alphabet}

/-- The number of grids. -/
def size (game : Game alphabet) : Nat :=
  game.grids.length

/-- Whether the game has no grids. -/
def isEmpty (game : Game alphabet) : Bool :=
  game.grids.isEmpty

/-- The grid of the given number. -/
def grid (game : Game alphabet) (number : Nat) : Except Error (Grid alphabet) :=
  match game.grids[number]? with
  | some grid => .ok grid
  | none => .error (.outOfBounds (.ofGrid number))

/-- The cell at a position of the grid of the given number. -/
def cell (game : Game alphabet) (number : Nat) (position : Position) :
    Except Error (Cell alphabet) := do
  let grid ← game.grid number
  (grid.cell position).mapError (·.inGrid number)

/-- The game with the grid of the given number replaced. -/
def setGrid (game : Game alphabet) (number : Nat) (grid : Grid alphabet) : Game alphabet :=
  { grids := game.grids.set number grid }

/-- The results of work on the grids in order, up to the first error. An error
names the number of its grid. -/
def traverseFrom {result : Type} (work : Nat → Grid alphabet → Except Error result) :
    Nat → List (Grid alphabet) → Except Error (List result)
  | _, [] => .ok []
  | number, grid :: rest => do
      let first ← (work number grid).mapError (·.inGrid number)
      let others ← traverseFrom work (number + 1) rest
      .ok (first :: others)

end Game

end Sudoku
