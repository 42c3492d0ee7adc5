import Sudoku.Board.Propagation
import Sudoku.Search.Selection

/-!
# Searching for completions

A search walks through the completions of a board depth first. It keeps a stack
of choice points, each with the options that are left to try, and moves in small
steps: it chooses a cell to branch on, or accepts a solution when no cell is
open, and then tries the next option of the innermost choice point. A token is
looked at before every try. The number of steps is bounded by the size of the
search tree.
-/

namespace Sudoku

/-- How much work a search did: the candidates committed by choice, the choice
points given up, the values committed by propagation that came to rest, and the
largest number of choice points at a time. -/
structure Statistics where
  branches : Nat := 0
  backtracks : Nat := 0
  forcedMoves : Nat := 0
  maxDepth : Nat := 0
  deriving DecidableEq

/-- A cell that a search branches on, the options not tried yet, and the mark of
the board before the first try. -/
structure ChoicePoint where
  cell : Nat
  options : CandidateSet
  mark : Nat
  deriving DecidableEq

/-- What a search does next, or how it ended. -/
inductive Phase
  | choosing
  | trying
  | solved
  | unsatisfiable
  | cancelled
  deriving DecidableEq

/-- Whether a search ends in this phase. -/
def Phase.isFinal : Phase → Bool
  | .choosing | .trying => false
  | .solved | .unsatisfiable | .cancelled => true

/-- What a search is after: the number of solutions that suffices, and whether
each solution is checked before it is accepted. -/
structure Goal where
  wanted : Nat
  verify : Bool
  deriving DecidableEq

/-- The state of a search. The innermost choice point and the latest solution
come first. -/
structure Search (alphabet : Alphabet) where
  phase : Phase
  board : Board alphabet
  choices : List ChoicePoint := []
  solutions : List (Grid alphabet) := []
  statistics : Statistics := {}

namespace Search

variable {alphabet : Alphabet}

/-! ### Moves -/

/-- Propagate, and go on choosing cells if that came to rest. -/
def propagate (search : Search alphabet) : Except Error (Search alphabet) := do
  let (board, propagation) ← search.board.propagate
  match propagation with
  | .fixpoint forced =>
      let statistics := { search.statistics with
        forcedMoves := search.statistics.forcedMoves + forced }
      .ok { search with board, statistics, phase := .choosing }
  | .contradiction _ => .ok { search with board, phase := .trying }

/-- Open a choice point at a cell. -/
def branchOn (search : Search alphabet) (cell : Nat) : Search alphabet :=
  let point : ChoicePoint :=
    ⟨cell, search.board.candidatesAt cell, search.board.mark⟩
  let choices := point :: search.choices
  { search with
    choices
    phase := .trying
    statistics := { search.statistics with
      maxDepth := max search.statistics.maxDepth choices.length } }

/-- What is wrong with the working grid as a solution. -/
def solutionFlaw? (board : Board alphabet) : Except Error (Option Error) :=
  if board.grid.isFull then
    (board.layout.findConflict board.grid).map fun conflict =>
      conflict.map fun (first, second) => .internal (.conflictingCells first second)
  else .ok (some (.internal .openCells))

/-- Accept the working grid as a solution. -/
def accept (search : Search alphabet) (goal : Goal) : Except Error (Search alphabet) := do
  if goal.verify then
    Error.guard (← solutionFlaw? search.board)
  let solutions := search.board.grid :: search.solutions
  let phase := if goal.wanted ≤ solutions.length then .solved else .trying
  .ok { search with solutions, phase }

/-- Branch on a cell, or accept a solution if no cell is open. -/
def choose (search : Search alphabet) (goal : Goal) : Except Error (Search alphabet) :=
  match search.board.selectCell? with
  | some cell => .ok (search.branchOn cell)
  | none => search.accept goal

/-- Drop all choices and every value that was committed. -/
def abandon (search : Search alphabet) : Except Error (Search alphabet) :=
  (search.board.rollback 0).map fun board =>
    { search with board, choices := [], phase := .cancelled }

/-- End a search that has no choices left. -/
def exhaust (search : Search alphabet) : Search alphabet :=
  { search with phase := if search.solutions.isEmpty then .unsatisfiable else .solved }

/-- Give up the innermost choice point, with the board back at its mark. -/
def backtrack (search : Search alphabet) (board : Board alphabet)
    (outer : List ChoicePoint) : Search alphabet :=
  { search with
    board
    choices := outer
    statistics := { search.statistics with
      backtracks := search.statistics.backtracks + 1 } }

/-- Try an option of the innermost choice point, with the board back at its
mark. -/
def attempt (search : Search alphabet) (board : Board alphabet) (point : ChoicePoint)
    (value : Nat) (outer : List ChoicePoint) : Except Error (Search alphabet) := do
  let (board, signals) ← board.commit point.cell value
  let tried := { search with
    board
    choices := point :: outer
    statistics := { search.statistics with
      branches := search.statistics.branches + 1 } }
  if (signals.findSome? Signal.dead?).isSome then .ok tried
  else tried.propagate

/-- Try the next option of the innermost choice point, or give the choice point
up if it has none left. -/
def tryNext (search : Search alphabet) : Except Error (Search alphabet) :=
  match search.choices with
  | [] => .ok search.exhaust
  | point :: outer => do
      let board ← search.board.rollback point.mark
      match point.options.popFirst? with
      | none => .ok (search.backtrack board outer)
      | some (value, options) =>
          search.attempt board { point with options } value outer

/-- One step of a search. The flag tells whether the token is cancelled, which
matters before a try only. -/
def step (goal : Goal) (isCancelled : Bool) (search : Search alphabet) :
    Except Error (Search alphabet) :=
  match search.phase with
  | .choosing => search.choose goal
  | .trying => if isCancelled then search.abandon else search.tryNext
  | _ => .ok search

/-! ### Runs -/

/-- Take steps until the search ends, given the number of steps it took so far.
The first argument bounds the number of steps to come. -/
def run (goal : Goal) (isCancelled : Nat → Bool) :
    Nat → Nat → Search alphabet → Except Error (Search alphabet)
  | 0, _, search =>
      if search.phase.isFinal then .ok search
      else .error (.internal .unfinishedSearch)
  | budget + 1, taken, search =>
      if search.phase.isFinal then .ok search
      else do
        let next ← search.step goal (isCancelled taken)
        run goal isCancelled budget (taken + 1) next

/-- The number of steps it takes to choose a cell, to try each of its options,
and to give it up again, when so many cells are open. -/
def stepBound (domainSize : Nat) : Nat → Nat
  | 0 => 1
  | openCells + 1 => 2 + domainSize * (1 + stepBound domainSize openCells)

/-- A search on a board whose forced values have been committed. A contradiction
ends it before its first step. -/
def start (board : Board alphabet) : Except Error (Search alphabet) := do
  let search ← propagate { phase := .choosing, board }
  if search.phase = .trying then .ok search.exhaust else .ok search

/-- Search a board until it yields the wanted number of solutions, has no more of
them, or the token is cancelled. -/
def complete (goal : Goal) (isCancelled : Nat → Bool) (board : Board alphabet) :
    Except Error (Search alphabet) := do
  let search ← start board
  let bound := stepBound search.board.domainSize search.board.openCount + 1
  run goal isCancelled bound 0 search

end Search

end Sudoku
