import Sudoku.Document.Message
import Sudoku.Message.Decoding
import Sudoku.Message.Encoding
import Sudoku.Solver

/-!
# The service

The service answers a request: it decodes the message, turns away grids that are
too large, solves the grids in order, and encodes the solved game. The first grid
that cannot be solved decides the error.
-/

namespace Sudoku

/-- A service with its settings. -/
structure Service where
  configuration : ServiceConfiguration := {}
  deriving DecidableEq

namespace Service

/-- The alphabet that the service works with, which has every number that a
message can hold. -/
abbrev alphabet : Alphabet := .signed64

/-- The first of the grids with more cells than the limit, where the numbers of
the grids start with the given one. -/
def sizeFlaw? (limit : Nat) : Nat → List (Grid alphabet) → Option Error
  | _, [] => none
  | number, grid :: rest =>
      if limit < grid.cellCount then
        some (.malformed (.ofGrid number) (.tooLarge grid.cellCount limit))
      else sizeFlaw? limit (number + 1) rest

/-- Check that no grid is too large. -/
def checkSize (service : Service) (game : Game alphabet) : Except Error Unit :=
  Error.guard <| service.configuration.maxCells.bind fun limit =>
    sizeFlaw? limit.toNat 0 game.grids

/-- Solve the grid of the given number, which has to have a solution. -/
def solveGrid (solver : Solver) (watch : Watch) (number : Nat) (grid : Grid alphabet) :
    Except Error (Grid alphabet) := do
  match ← solver.solve watch grid with
  | .solved grid => .ok grid
  | .unsatisfiable => .error (.unsatisfiable number)
  | .cancelled => .error .cancelled

/-- Answer a request under a token. Each grid is solved under a watch of its
own. -/
def solve (service : Service) (token : CancelToken) (watches : Nat → Watch)
    (request : GameMessage) : Except Error GameMessage := do
  let game ← request.decode
  service.checkSize game
  let solver : Solver := ⟨service.configuration.solver, token⟩
  let grids ← Game.traverseFrom
    (fun number grid => solveGrid solver (watches number) number grid) 0 game.grids
  Game.encode { grids }

/-- Answer a request that is a document, by a document. Both are documents of a codec. -/
def solveDocument (service : Service) (codec : Codec GameMessage) (token : CancelToken)
    (watches : Nat → Watch) (request : String) : Except Error String := do
  let request ← GameMessage.ofDocument codec request
  let response ← service.solve token watches request
  response.toDocument codec

end Service

end Sudoku
