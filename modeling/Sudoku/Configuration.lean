import Sudoku.Cancellation

/-!
# Configuration

The settings of the solver and of the service around it, with their defaults.
-/

namespace Sudoku

/-- Settings of the solver: a limit to the time of one search in milliseconds,
and whether each solution is checked before it is accepted. -/
structure SolverConfiguration where
  timeLimitMs : Option UInt64 := none
  verifySolutions : Bool := true
  deriving DecidableEq

namespace SolverConfiguration

/-- The time limit as a span of the clock. -/
def timeLimit (configuration : SolverConfiguration) : Option Time :=
  configuration.timeLimitMs.map fun limit => Time.milliseconds limit.toNat

end SolverConfiguration

/-- Settings of the service: those of its solver, and the largest number of cells
that a grid may have. -/
structure ServiceConfiguration where
  solver : SolverConfiguration := {}
  maxCells : Option UInt64 := none
  deriving DecidableEq

end Sudoku
