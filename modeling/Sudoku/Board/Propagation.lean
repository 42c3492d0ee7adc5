import Sudoku.Board.Basic

/-!
# Propagation

An open cell with a single candidate has to take it, and an open cell without
candidates shows that the board has no completion. Propagation commits single
candidates until no open cell has fewer than two, or some open cell has none.
The cells to look at are kept in a queue from which the latest goes first.
-/

namespace Sudoku

/-- How propagation ended: at rest, after a number of forced commits, or at an
open cell without candidates. -/
inductive Propagation
  | fixpoint (forced : Nat)
  | contradiction (cell : Nat)
  deriving DecidableEq

namespace Signal

/-- The cell that a commit left without candidates. -/
def dead? : Signal → Option Nat
  | .contradiction cell => some cell
  | .forced _ => none

/-- The cell that a commit left with a single candidate. -/
def forced? : Signal → Option Nat
  | .contradiction _ => none
  | .forced cell => some cell

end Signal

namespace Board

variable {alphabet : Alphabet}

/-- What the cells of a queue call for: nothing, a halt at a cell without
candidates, or the commit of a single candidate, with the rest of the queue. -/
inductive Move
  | rest
  | halt (cell : Nat)
  | force (cell value : Nat) (queue : List Nat)
  deriving DecidableEq

/-- The move that the first open cell of the queue with fewer than two candidates
calls for. -/
def move (board : Board alphabet) : List Nat → Move
  | [] => .rest
  | cell :: queue =>
      if board.isOpen cell then
        match (board.candidatesAt cell).toList with
        | [] => .halt cell
        | [value] => .force cell value queue
        | _ :: _ :: _ => board.move queue
      else board.move queue

/-- Work off a queue of cells, after a number of forced commits. -/
def settle (board : Board alphabet) (queue : List Nat) (forced : Nat) :
    Except Error (Board alphabet × Propagation) :=
  match board.move queue with
  | .rest => .ok (board, .fixpoint forced)
  | .halt cell => .ok (board, .contradiction cell)
  | .force cell value queue =>
      match _committed : board.commit cell value with
      | .error error => .error error
      | .ok (next, signals) =>
          match signals.findSome? Signal.dead? with
          | some dead => .ok (next, .contradiction dead)
          | none =>
              next.settle ((signals.filterMap Signal.forced?).reverse ++ queue)
                (forced + 1)
termination_by board.openCount
decreasing_by
  have := openCount_commit ‹board.commit cell value = .ok (next, signals)›
  omega

/-- The open cells with fewer than two candidates, the last in row-major order
first. -/
def pending (board : Board alphabet) : List Nat :=
  ((List.range board.assigned.size).filter fun cell =>
    board.isOpen cell && decide ((board.candidatesAt cell).size ≤ 1)).reverse

/-- Commit single candidates for as long as there are any and no open cell is
without candidates. The commits stay on the trail however it ends. -/
def propagate (board : Board alphabet) : Except Error (Board alphabet × Propagation) :=
  board.settle board.pending 0

end Board

end Sudoku
