import Sudoku.Location
import Sudoku.Text.Decimal

/-!
# Errors

Every way in which a request can fail, as a cause with the data that explains
it. The wording of each cause is fixed here and nowhere else.
-/

namespace Sudoku

/-- Why a text could not be read. -/
inductive ReadFault
  | separatorCount
  | boxDimensions
  | cellCount
  | number (fault : Text.DecimalFault)
  | boxOverride
  | document (text : String)
  deriving DecidableEq

namespace ReadFault

/-- The wording of a reading fault. -/
def message : ReadFault → String
  | .separatorCount => "expected exactly one ';'"
  | .boxDimensions => "malformed box dimensions"
  | .cellCount => "number of cells is not a square"
  | .number fault => fault.message
  | .boxOverride => "malformed box override"
  | .document text => text

end ReadFault

/-- What is wrong with the form of an input. -/
inductive MalformedReason
  | emptyGrid
  | nonRectangular (expected found : Nat)
  | zeroBoxDimension
  | boxWidthDoesNotTile (width columns : Nat)
  | boxHeightDoesNotTile (height rows : Nat)
  | valueOutOfDomain (value : String)
  | emptyDomain
  | duplicateDomainValue (value : String)
  | missingField (field : String)
  | tooLarge (cells limit : Nat)
  | unreadable (fault : ReadFault)
  deriving DecidableEq

namespace MalformedReason

/-- The wording of a flaw of form. -/
def message : MalformedReason → String
  | .emptyGrid => "grid has no cells"
  | .nonRectangular expected found =>
      s!"row has {found} cells, expected {expected}"
  | .zeroBoxDimension => "box dimensions must be positive"
  | .boxWidthDoesNotTile width columns =>
      s!"box width {width} does not divide the {columns} columns"
  | .boxHeightDoesNotTile height rows =>
      s!"box height {height} does not divide the {rows} rows"
  | .valueOutOfDomain value => s!"value {value} is outside the domain"
  | .emptyDomain => "the domain must not be empty"
  | .duplicateDomainValue value =>
      s!"the domain lists {value} more than once"
  | .missingField field => "missing field `" ++ field ++ "`"
  | .tooLarge cells limit =>
      s!"grid has {cells} cells, the limit is {limit}"
  | .unreadable fault => "syntax error: " ++ fault.message

end MalformedReason

/-- How a well-formed puzzle contradicts itself. -/
inductive InvalidReason
  | duplicateValue (first second : Position) (value : String)
  | conflictingBoxShape (position : Position) (expected found : BoxShape)
  deriving DecidableEq

namespace InvalidReason

/-- The wording of a contradiction. -/
def message : InvalidReason → String
  | .duplicateValue first second value =>
      s!"cells at {first.text} and {second.text} both hold {value}"
  | .conflictingBoxShape position expected found =>
      s!"cell at {position.text} has box shape {found.text}, " ++
        s!"but its box is {expected.text}"

end InvalidReason

/-- A broken promise between two parts of the solver. -/
inductive InternalFault
  | dimensionMismatch
  | cellBoxedTwice
  | unknownCell (cell : Nat)
  | assignedCell (position : Position)
  | nonCandidate (value : Nat) (position : Position)
  | uncommittedCell (position : Position)
  | openCell (position : Position)
  | openCells
  | conflictingCells (first second : Position)
  | wideBoxDimension (dimension : Nat)
  | unfinishedSearch
  | other (text : String)
  deriving DecidableEq

namespace InternalFault

/-- The wording of a broken promise. -/
def message : InternalFault → String
  | .dimensionMismatch =>
      "grid does not match the dimensions of its constraint index"
  | .cellBoxedTwice => "box derivation assigned a cell twice"
  | .unknownCell cell => s!"there is no cell {cell}"
  | .assignedCell position => s!"commit to assigned cell {position.text}"
  | .nonCandidate value position =>
      s!"commit of non-candidate {value} to cell {position.text}"
  | .uncommittedCell position =>
      s!"undo of cell {position.text} which was not committed"
  | .openCell position => s!"undo of open cell {position.text}"
  | .openCells => "search finished with open cells"
  | .conflictingCells first second =>
      s!"search finished with conflicting cells {first.text} and {second.text}"
  | .wideBoxDimension dimension =>
      s!"box dimension {dimension} does not fit the wire format"
  | .unfinishedSearch => "search did not finish"
  | .other text => text

end InternalFault

/-- The outcome of a request that failed. -/
inductive Error
  | malformed (location : Location) (reason : MalformedReason)
  | invalid (location : Location) (reason : InvalidReason)
  | unsatisfiable (grid : Nat)
  | cancelled
  | outOfBounds (location : Location)
  | configuration (text : String)
  | internal (fault : InternalFault)
  deriving DecidableEq

namespace Error

/-- The wording of an error. -/
def message : Error → String
  | .malformed location reason =>
      s!"malformed input at {location.text}: {reason.message}"
  | .invalid location reason =>
      s!"invalid puzzle at {location.text}: {reason.message}"
  | .unsatisfiable grid => s!"grid {grid} has no solution"
  | .cancelled => "solving was cancelled"
  | .outOfBounds location => location.text ++ " is out of bounds"
  | .configuration text => "invalid configuration: " ++ text
  | .internal fault => "internal error: " ++ fault.message

/-- Whether the same request may succeed when it is made again. -/
def isRetryable : Error → Bool
  | .cancelled => true
  | _ => false

/-- The place an error names, if it names one. -/
def location? : Error → Option Location
  | .malformed location _ => some location
  | .invalid location _ => some location
  | .outOfBounds location => some location
  | .unsatisfiable grid => some (Location.ofGrid grid)
  | _ => none

/-- The error as seen from the game whose grid of the given number has it. -/
def inGrid (error : Error) (grid : Nat) : Error :=
  match error with
  | .malformed location reason => .malformed (location.inGrid grid) reason
  | .invalid location reason => .invalid (location.inGrid grid) reason
  | .outOfBounds location => .outOfBounds (location.inGrid grid)
  | other => other

/-- Fail with the error, if there is one. -/
def guard : Option Error → Except Error Unit
  | some error => .error error
  | none => .ok ()

@[simp] theorem guard_eq_ok_iff (flaw? : Option Error) :
    guard flaw? = .ok () ↔ flaw? = none := by
  cases flaw? <;> simp [guard]

@[simp] theorem guard_eq_error_iff (flaw? : Option Error) (error : Error) :
    guard flaw? = .error error ↔ flaw? = some error := by
  cases flaw? <;> simp [guard]

/-- What comes of a step and the work on its value succeeds when both do. -/
theorem bind_eq_ok_iff {first second : Type} (step : Except Error first)
    (work : first → Except Error second) (result : second) :
    step >>= work = .ok result ↔ ∃ value, step = .ok value ∧ work value = .ok result := by
  cases step <;> simp [bind, Except.bind]

/-- Naming the grid again replaces its number. -/
@[simp] theorem inGrid_inGrid (error : Error) (first second : Nat) :
    (error.inGrid first).inGrid second = error.inGrid second := by
  cases error <;> rfl

end Error

end Sudoku
