import Sudoku.Configuration
import Sudoku.Document.Codec
import Sudoku.Error
import Sudoku.Json.Record

/-!
# Configuration as documents

The JSON form of the settings. Every setting is written, a missing limit as null.
A setting that is missing when it is read takes its default. Settings are read by a codec,
and what it says when it fails goes into the error.
-/

namespace Sudoku

namespace SolverConfiguration

/-- The JSON value of the settings of the solver. -/
def toJson (configuration : SolverConfiguration) : Json :=
  .ofFields [
    ("time_limit_ms",
      Json.orNull (configuration.timeLimitMs.map fun limit => .integer limit.toNat)),
    ("verify_solutions", .bool configuration.verifySolutions)]

/-- The settings of the solver of a JSON value. -/
def ofJson? (json : Json) : Option SolverConfiguration :=
  match json.fields? ["time_limit_ms", "verify_solutions"] with
  | some [timeLimitMs, verifySolutions] => do
      let timeLimitMs ← Json.optional? Json.uint64? timeLimitMs
      let verifySolutions ← Json.orDefault? Json.bool? true verifySolutions
      some { timeLimitMs, verifySolutions }
  | _ => none

/-- The codec of the settings of the solver as compact JSON. -/
def codec : Codec SolverConfiguration :=
  Json.codec toJson ofJson?

/-- Read the settings of the solver from a document. -/
def ofDocument (codec : Codec SolverConfiguration) (document : String) :
    Except Error SolverConfiguration :=
  (codec.read document).mapError .configuration

end SolverConfiguration

namespace ServiceConfiguration

/-- The JSON value of the settings of the service. -/
def toJson (configuration : ServiceConfiguration) : Json :=
  .ofFields [
    ("solver", configuration.solver.toJson),
    ("max_cells",
      Json.orNull (configuration.maxCells.map fun limit => .integer limit.toNat))]

/-- The settings of the service of a JSON value. -/
def ofJson? (json : Json) : Option ServiceConfiguration :=
  match json.fields? ["solver", "max_cells"] with
  | some [solver, maxCells] => do
      let solver ← Json.orDefault? SolverConfiguration.ofJson? {} solver
      let maxCells ← Json.optional? Json.uint64? maxCells
      some { solver, maxCells }
  | _ => none

/-- The codec of the settings of the service as compact JSON. -/
def codec : Codec ServiceConfiguration :=
  Json.codec toJson ofJson?

/-- Read the settings of the service from a document. -/
def ofDocument (codec : Codec ServiceConfiguration) (document : String) :
    Except Error ServiceConfiguration :=
  (codec.read document).mapError .configuration

end ServiceConfiguration

end Sudoku
