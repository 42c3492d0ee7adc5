import Sudoku.Configuration
import Sudoku.Game
import Sudoku.Search.Basic

/-!
# Solving grids

A solver checks a grid, propagates its forced values and searches for the rest.
It finds a solution of a grid or that there is none, and tells whether a grid
has no solution, exactly one, or several. A search that is cancelled yields no
grid at all.
-/

namespace Sudoku

variable {alphabet : Alphabet}

/-- The outcome of solving a grid. -/
inductive Solution (alphabet : Alphabet)
  | solved (grid : Grid alphabet)
  | unsatisfiable
  | cancelled
  deriving DecidableEq

namespace Solution

/-- The phase in which a search with this outcome ends. -/
def phase : Solution alphabet → Phase
  | .solved _ => .solved
  | .unsatisfiable => .unsatisfiable
  | .cancelled => .cancelled

/-- Whether there is a solution. -/
def isSolved : Solution alphabet → Bool
  | .solved _ => true
  | _ => false

/-- The solution, if there is one. -/
def grid? : Solution alphabet → Option (Grid alphabet)
  | .solved grid => some grid
  | _ => none

end Solution

/-- How many solutions a grid has. -/
inductive Uniqueness (alphabet : Alphabet)
  | impossible
  | unique (grid : Grid alphabet)
  | ambiguous
  | cancelled
  deriving DecidableEq

/-- A solver with its settings and the token it observes. -/
structure Solver where
  configuration : SolverConfiguration := {}
  token : CancelToken := {}
  deriving DecidableEq

namespace Solver

/-- The token of a search that begins at the given time. -/
def tokenAt (solver : Solver) (start : Time) : CancelToken :=
  match solver.configuration.timeLimit with
  | some limit => solver.token.withTimeout start limit
  | none => solver.token

/-- Search a grid until it yields the wanted number of solutions. -/
def search (solver : Solver) (watch : Watch) (wanted : Nat) (grid : Grid alphabet) :
    Except Error (Search alphabet) := do
  let layout ← Layout.ofGrid grid
  let board ← Board.ofGrid layout grid
  let goal : Goal := ⟨wanted, solver.configuration.verifySolutions⟩
  Search.complete goal (watch.cancels (solver.tokenAt watch.start)) board

/-- The outcome of a search for one solution. -/
def solutionOf (search : Search alphabet) : Solution alphabet :=
  match search.phase, search.solutions with
  | .cancelled, _ => .cancelled
  | _, grid :: _ => .solved grid
  | _, [] => .unsatisfiable

/-- The outcome of a search for two solutions. -/
def uniquenessOf (search : Search alphabet) : Uniqueness alphabet :=
  match search.phase, search.solutions with
  | .cancelled, _ => .cancelled
  | _, [] => .impossible
  | _, [grid] => .unique grid
  | _, _ :: _ :: _ => .ambiguous

/-- Solve a grid, and tell how much work that was. -/
def solveWithStatistics (solver : Solver) (watch : Watch) (grid : Grid alphabet) :
    Except Error (Solution alphabet × Statistics) :=
  (solver.search watch 1 grid).map fun search => (solutionOf search, search.statistics)

/-- Solve a grid. -/
def solve (solver : Solver) (watch : Watch) (grid : Grid alphabet) :
    Except Error (Solution alphabet) :=
  (solver.solveWithStatistics watch grid).map Prod.fst

/-- Tell whether a grid has no solution, exactly one, or several. -/
def checkUniqueness (solver : Solver) (watch : Watch) (grid : Grid alphabet) :
    Except Error (Uniqueness alphabet) :=
  (solver.search watch 2 grid).map uniquenessOf

/-- Solve every grid of a game, each under a watch of its own. -/
def solveGame (solver : Solver) (watches : Nat → Watch) (game : Game alphabet) :
    Except Error (List (Solution alphabet)) :=
  Game.traverseFrom (fun number grid => solver.solve (watches number) grid) 0 game.grids

end Solver

end Sudoku
