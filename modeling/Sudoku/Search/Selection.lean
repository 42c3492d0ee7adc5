import Sudoku.Board.Basic

/-!
# Choosing a cell to branch on

The cell to branch on is the open cell with the fewest candidates, and of several
such cells the first in row-major order. The scan over the cells ends early at a
cell with two candidates, since after propagation no open cell has fewer.
-/

namespace Sudoku
namespace Board

variable {alphabet : Alphabet}

/-- Whether a cell with the given number of candidates improves on the best cell
so far. -/
def improves (count : Nat) (best : Option (Nat × Nat)) : Bool :=
  best.all fun cellAndCount => decide (count < cellAndCount.2)

/-- Scan cells for one that improves on the best cell so far, which comes with
its number of candidates. -/
def scan (board : Board alphabet) :
    List Nat → Option (Nat × Nat) → Option (Nat × Nat)
  | [], best => best
  | cell :: rest, best =>
      let count := (board.candidatesAt cell).size
      if board.isOpen cell && improves count best then
        if count ≤ 2 then some (cell, count)
        else board.scan rest (some (cell, count))
      else board.scan rest best

/-- The cell to branch on, if any cell is open. -/
def selectCell? (board : Board alphabet) : Option Nat :=
  (board.scan (List.range board.layout.cellCount) none).map Prod.fst

end Board
end Sudoku
