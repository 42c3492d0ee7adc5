import Sudoku.Proofs.Document
import Sudoku.Proofs.Domain.Existence
import Sudoku.Proofs.Service.Solving

/-!
# How a service classifies requests

A document that is no game is malformed, and so is a game with a grid that is too large.
Of any other game the first grid that is not solvable decides: it is inconsistent, or
it is unsatisfiable. A game without such a grid is solved. Time limits and cancellation
aside, that is all there is, and they add one error of their own.
-/

namespace Sudoku
namespace Service

variable {service : Service} {codec : Codec GameMessage} {token : CancelToken}
  {watches : Nat → Watch} {request : GameMessage} {game : Game alphabet} {document : String}

/-- A document holds a message that is decoded into a game. -/
def Reads (codec : Codec GameMessage) (document : String) (game : Game alphabet) : Prop :=
  ∃ request, GameMessage.ofDocument codec document = .ok request ∧ request.decode = .ok game

/-! ### The outcome of an undisturbed service -/

/-- An outcome is the one that a document calls for: its first flaw of form, else its
first grid that is too large, else its first grid that is not solvable, which is either
inconsistent or has no completion, else an answer. -/
structure Classifies (service : Service) (codec : Codec GameMessage) (document : String)
    (outcome : Except Error String) : Prop where
  unreadable : ∀ error, GameMessage.ofDocument codec document = .error error →
    outcome = .error error ∧ error.IsMalformed
  undecodable : ∀ request error, GameMessage.ofDocument codec document = .ok request →
    (request.decode : Except Error (Game alphabet)) = .error error →
    outcome = .error error ∧ error.IsMalformed
  tooLarge : ∀ game limit number grid, Reads codec document game →
    service.configuration.maxCells = some limit →
    game.IsFirst (fun grid => limit.toNat < grid.cellCount) number grid →
    outcome = .error (.malformed (.ofGrid number) (.tooLarge grid.cellCount limit.toNat))
  inconsistent : ∀ game number grid, Reads codec document game → service.Admits game →
    game.IsFirst (fun grid => ¬grid.Solvable) number grid → ¬grid.Consistent →
    ∃ location reason, grid.Rejects (.invalid location reason) ∧
      outcome = .error (.invalid (location.inGrid number) reason)
  unsatisfiable : ∀ game number grid, Reads codec document game → service.Admits game →
    game.IsFirst (fun grid => ¬grid.Solvable) number grid → grid.Consistent →
    outcome = .error (.unsatisfiable number)
  solved : ∀ game, Reads codec document game → service.Admits game →
    (∀ grid ∈ game.grids, grid.Solvable) → ∃ answer, outcome = .ok answer

/-- What an undisturbed service makes of a grid of a decoded request. -/
structure Decides (service : Service) (token : CancelToken) (watches : Nat → Watch)
    (number : Nat) (grid : Grid alphabet) : Prop where
  solvable : grid.Solvable → ∃ solution, service.work token watches number grid = .ok solution
  inconsistent : ¬grid.Consistent → ∃ location reason,
    grid.Rejects (.invalid location reason) ∧
      service.work token watches number grid = .error (.invalid location reason)
  unsatisfiable : ¬grid.Solvable → grid.Consistent →
    service.work token watches number grid = .error (.unsatisfiable number)

/-- An undisturbed service decides every grid of a decoded request. -/
theorem decides_of_undisturbed (decoded : request.decode = .ok game) {grid : Grid alphabet}
    (member : grid ∈ game.grids) {number : Nat}
    (undisturbed : Solver.Undisturbed ⟨service.configuration.solver, token⟩ (watches number)) :
    service.Decides token watches number grid := by
  have verdict := work_verdict decoded member service token watches number
  generalize worked : service.work token watches number grid = outcome at verdict
  cases verdict with
  | invalid inconsistent rejects =>
      exact ⟨fun solvable => absurd solvable.1 inconsistent,
        fun _ => ⟨_, _, rejects, worked⟩, fun _ consistent => absurd consistent inconsistent⟩
  | solved valid completes =>
      have consistent : grid.Consistent := ⟨valid.uniform, valid.distinct⟩
      exact ⟨fun _ => ⟨_, worked⟩, fun inconsistent => absurd consistent inconsistent,
        fun unsolvable => absurd ⟨consistent, _, completes⟩ unsolvable⟩
  | unsatisfiable valid incomplete =>
      have consistent : grid.Consistent := ⟨valid.uniform, valid.distinct⟩
      exact ⟨fun solvable => absurd solvable.2 incomplete,
        fun inconsistent => absurd consistent inconsistent, fun _ _ => worked⟩
  | cancelled disturbed => exact absurd undisturbed disturbed

/-- The work on the first grid that is not solvable decides how a service fails. -/
theorem solve_eq_error_of_isFirst (decoded : request.decode = .ok game)
    (admitted : service.Admits game)
    (decides : ∀ number, ∀ grid ∈ game.grids, service.Decides token watches number grid)
    {number : Nat} {grid : Grid alphabet} {cause : Error}
    (isFirst : game.IsFirst (fun grid => ¬grid.Solvable) number grid)
    (failed : service.work token watches number grid = .error cause) :
    service.solve token watches request = .error (cause.inGrid number) := by
  refine (solve_eq_error_iff _).2 (.inr ⟨game, decoded, .inr ⟨admitted, ?_⟩⟩)
  apply isFirst.traverseFrom_eq_error _ failed
  intro other otherGrid member solvable
  exact (decides other otherGrid member).solvable (not_not.1 solvable)

/-! ### The errors of any service -/

/-- The errors that a service reports for a document: that it is malformed, that a grid
of its game is inconsistent or has no completion, or that solving was cancelled. -/
inductive Reports (codec : Codec GameMessage) (document : String) : Error → Prop
  | malformed (location : Location) (reason : MalformedReason) :
      Reports codec document (.malformed location reason)
  | invalid {game : Game alphabet} {number : Nat} {grid : Grid alphabet}
      {location : Location} {reason : InvalidReason} (reads : Reads codec document game)
      (found : game.grids[number]? = some grid) (inconsistent : ¬grid.Consistent)
      (rejects : grid.Rejects (.invalid location reason)) :
      Reports codec document (.invalid (location.inGrid number) reason)
  | unsatisfiable {game : Game alphabet} {number : Nat} {grid : Grid alphabet}
      (reads : Reads codec document game) (found : game.grids[number]? = some grid)
      (incomplete : ¬∃ solution, grid.IsCompletion solution) :
      Reports codec document (.unsatisfiable number)
  | cancelled : Reports codec document .cancelled

/-- Malformed input is among the errors that a service reports. -/
theorem reports_of_isMalformed {error : Error} (isMalformed : error.IsMalformed) :
    Reports codec document error := by
  obtain ⟨location, reason, rfl⟩ := isMalformed
  exact .malformed location reason

/-- A service fails on a message with the errors that it reports. -/
theorem reports_of_solve (read : GameMessage.ofDocument codec document = .ok request)
    {error : Error} (failed : service.solve token watches request = .error error) :
    Reports codec document error := by
  rcases (solve_eq_error_iff error).1 failed with
    undecoded | ⟨game, decoded, tooLarge | ⟨_, unsolved⟩⟩
  · exact reports_of_isMalformed (request.onlyMalformed_decode error undecoded)
  · exact reports_of_isMalformed (onlyMalformed_checkSize service game error tooLarge)
  obtain ⟨earlier, grid, later, _, cause, grids, _, worked, rfl⟩ :=
    (Game.traverseFrom_eq_error_iff 0 game.grids error).1 unsolved
  rw [Nat.zero_add] at worked ⊢
  have found : game.grids[earlier.length]? = some grid := by
    rw [grids]
    simp
  have verdict := work_verdict decoded (List.mem_of_getElem? found) service token watches
    earlier.length
  rw [worked] at verdict
  cases verdict with
  | invalid inconsistent rejects =>
      exact .invalid ⟨request, read, decoded⟩ found inconsistent rejects
  | unsatisfiable _ incomplete => exact .unsatisfiable ⟨request, read, decoded⟩ found incomplete
  | cancelled _ => exact .cancelled

/-! ### Documents -/

/-- A document that was read is answered as its message is. -/
theorem solveDocument_eq_bind (read : GameMessage.ofDocument codec document = .ok request) :
    service.solveDocument codec token watches document =
      (service.solve token watches request).bind fun response => response.toDocument codec := by
  rw [solveDocument_eq, read]
  rfl

section

variable (writes : codec.WritesAll)

include writes

/-- Every response is written as a document. -/
theorem exists_toDocument (response : GameMessage) :
    ∃ answer, response.toDocument codec = .ok answer := by
  obtain ⟨answer, written⟩ := writes response
  exact ⟨answer, by rw [GameMessage.toDocument, written]; rfl⟩

/-- A service fails on a document with the errors that it reports. -/
theorem reports_of_solveDocument {error : Error}
    (failed : service.solveDocument codec token watches document = .error error) :
    Reports codec document error := by
  cases read : GameMessage.ofDocument codec document with
  | error other =>
      rw [solveDocument_eq, read] at failed
      rw [← Except.error.inj failed]
      exact reports_of_isMalformed
        (GameMessage.onlyMalformed_ofDocument codec document other read)
  | ok request =>
      rw [solveDocument_eq_bind read] at failed
      cases answered : service.solve token watches request with
      | error other =>
          rw [answered] at failed
          rw [← Except.error.inj failed]
          exact reports_of_solve read answered
      | ok response =>
          obtain ⟨answer, written⟩ := exists_toDocument writes response
          rw [answered, Except.bind, written] at failed
          simp at failed

/-- A service that is not disturbed on any grid classifies every document. -/
theorem classifies_of_undisturbed (document : String)
    (undisturbed : ∀ number,
      Solver.Undisturbed ⟨service.configuration.solver, token⟩ (watches number)) :
    service.Classifies codec document (service.solveDocument codec token watches document) := by
  have decides {request : GameMessage} {game : Game alphabet}
      (decoded : request.decode = .ok game) :
      ∀ number, ∀ grid ∈ game.grids, service.Decides token watches number grid :=
    fun number grid member => decides_of_undisturbed decoded member (undisturbed number)
  constructor
  case unreadable =>
    intro error unread
    refine ⟨?_, GameMessage.onlyMalformed_ofDocument codec document error unread⟩
    rw [solveDocument_eq, unread]
    rfl
  case undecodable =>
    intro request error read undecoded
    refine ⟨?_, request.onlyMalformed_decode error undecoded⟩
    rw [solveDocument_eq_bind read, (solve_eq_error_iff error).2 (.inl undecoded)]
    rfl
  case tooLarge =>
    rintro game limit number grid ⟨request, read, decoded⟩ limited isFirst
    have flawed := checkSize_eq_error limited isFirst
    rw [solveDocument_eq_bind read,
      (solve_eq_error_iff _).2 (.inr ⟨game, decoded, .inl flawed⟩)]
    rfl
  case inconsistent =>
    rintro game number grid ⟨request, read, decoded⟩ admitted isFirst inconsistent
    obtain ⟨location, reason, rejects, failed⟩ :=
      (decides decoded number grid isFirst.mem).inconsistent inconsistent
    refine ⟨location, reason, rejects, ?_⟩
    rw [solveDocument_eq_bind read,
      solve_eq_error_of_isFirst decoded admitted (decides decoded) isFirst failed]
    rfl
  case unsatisfiable =>
    rintro game number grid ⟨request, read, decoded⟩ admitted isFirst consistent
    have failed := (decides decoded number grid isFirst.mem).unsatisfiable isFirst.1 consistent
    rw [solveDocument_eq_bind read,
      solve_eq_error_of_isFirst decoded admitted (decides decoded) isFirst failed]
    rfl
  case solved =>
    rintro game ⟨request, read, decoded⟩ admitted solvable
    obtain ⟨solutions, traversed⟩ := Game.exists_traverseFrom
      (fun number grid member => (decides decoded number grid member).solvable
        (solvable grid member)) 0
    obtain ⟨response, encoded, _⟩ := exists_response decoded traversed
    rw [solveDocument_eq_bind read,
      (solve_eq_ok_iff response).2 ⟨game, solutions, decoded, admitted, traversed, encoded⟩]
    exact exists_toDocument writes response

end

/-- Without a time limit and with a token that is not cancelled, a service classifies
every document of a codec that writes every message. Whatever its settings and its token, it
reports malformed input, inconsistent and unsatisfiable grids, and cancellation, and no other
error; and what it reports of an inconsistent grid carries the number of that grid. -/
theorem solveDocument_classifies (service : Service) {codec : Codec GameMessage}
    (writes : codec.WritesAll) (token : CancelToken) (watches : Nat → Watch)
    (document : String) :
    (service.configuration.solver.timeLimitMs = none →
      (∀ number step, (watches number).cancels token step = false) →
      service.Classifies codec document (service.solveDocument codec token watches document)) ∧
    ∀ error, service.solveDocument codec token watches document = .error error →
      Reports codec document error := by
  refine ⟨?_, fun _ => reports_of_solveDocument writes⟩
  intro unlimited quiet
  apply classifies_of_undisturbed writes
  intro number
  apply Solver.undisturbed_of_unlimited _ (quiet number)
  simp [SolverConfiguration.timeLimit, unlimited]

/-! ### A grid without a completion -/

/-- The document of a row of two blank cells over one symbol. -/
def crampedDocument : String :=
  "\x7b\"grids\":[\x7b\"rows\":[\x7b\"cells\":[\x7b\x7d,\x7b\x7d]\x7d]," ++
    "\"box_width\":2,\"box_height\":1,\"domain\":[1]\x7d]\x7d"

/-- The row of two blank cells over one symbol. -/
def crampedGrid : Grid alphabet where
  height := 1
  width := 2
  cells := #[{}, {}]
  box := ⟨2, 1⟩
  domain := {
    listed := [⟨1, by decide, by decide⟩]
    values := #[⟨1, by decide, by decide⟩]
    perm := .refl _
    ascending := by simp
    nonempty := by decide }
  explicitDomain := true

/-- Two rivals cannot both hold the one symbol. -/
theorem not_isCompletion_crampedGrid (solution : Grid alphabet) :
    ¬crampedGrid.IsCompletion solution := by
  intro completes
  have holds (symbol : Symbol alphabet)
      (contained : crampedGrid.domain.contains symbol = true) :
      symbol = ⟨1, by decide, by decide⟩ := by
    have member := (crampedGrid.domain.contains_iff_mem_listed symbol).1 contained
    simpa [crampedGrid] using member
  obtain ⟨first, firstHeld⟩ :=
    completes.exists_valueAt (show 0 < crampedGrid.cellCount by decide)
  obtain ⟨second, secondHeld⟩ :=
    completes.exists_valueAt (show 1 < crampedGrid.cellCount by decide)
  apply completes.distinct 0 1 (by decide)
  rw [firstHeld, secondHeld, holds first (completes.inDomain 0 first firstHeld),
    holds second (completes.inDomain 1 second secondHeld)]

/-- The row of two blank cells over one symbol is reported as unsatisfiable. -/
theorem solveDocument_crampedDocument :
    ({} : Service).solveDocument GameMessage.codec {} (fun _ => .still false 0)
      crampedDocument = .error (.unsatisfiable 0) := by
  have reads : Reads GameMessage.codec crampedDocument ⟨[crampedGrid]⟩ := by
    have read : (do
        let request ← GameMessage.ofDocument GameMessage.codec crampedDocument
        request.decode) = .ok ⟨[crampedGrid]⟩ := by
      decide +kernel
    exact (Error.bind_eq_ok_iff _ _ _).1 read
  have admitted : ({} : Service).Admits ⟨[crampedGrid]⟩ := by
    rintro _ ⟨⟩
  have valid : crampedGrid.Valid := by decide +kernel
  have isFirst : (⟨[crampedGrid]⟩ : Game alphabet).IsFirst (fun grid => ¬grid.Solvable) 0
      crampedGrid := by
    refine ⟨?_, [], [], rfl, rfl, by simp⟩
    rintro ⟨_, solution, completes⟩
    exact not_isCompletion_crampedGrid solution completes
  have writes := (Codec.conventional_json GameMessage.toJson GameMessage.ofJson?).writesAll
  have classifies := (solveDocument_classifies {} writes {} (fun _ => .still false 0)
    crampedDocument).1 rfl fun _ _ => rfl
  exact classifies.unsatisfiable _ 0 crampedGrid reads admitted isFirst
    ⟨valid.uniform, valid.distinct⟩

end Service
end Sudoku
