import Sudoku.Proofs.Game
import Sudoku.Proofs.Message.Filling
import Sudoku.Proofs.Message.Malformed
import Sudoku.Proofs.Solver.Consistency
import Sudoku.Service

/-!
# Solving a request

A service solves the grids of a request one by one, once it has decoded the request and
found no grid too large. Each grid is contradictory, solved, unsatisfiable or
cancelled, and the game of the solutions can always be encoded: its message is that of
the request with the blanks filled in.
-/

namespace Sudoku
namespace Service

variable {service : Service} {token : CancelToken} {watches : Nat → Watch}
  {request : GameMessage} {game : Game alphabet}

/-! ### Size -/

/-- No grid of a game has more cells than the limit of the service, if it has one. -/
def Admits (service : Service) (game : Game alphabet) : Prop :=
  ∀ limit, service.configuration.maxCells = some limit →
    ∀ grid ∈ game.grids, grid.cellCount ≤ limit.toNat

theorem sizeFlaw?_eq_none_iff (limit number : Nat) (grids : List (Grid alphabet)) :
    sizeFlaw? limit number grids = none ↔ ∀ grid ∈ grids, grid.cellCount ≤ limit := by
  induction grids generalizing number with
  | nil => simp [sizeFlaw?]
  | cons grid rest inductionHypothesis =>
      simp only [sizeFlaw?, List.forall_mem_cons, ← inductionHypothesis (number + 1)]
      split
      · next large => simp [Nat.not_le_of_gt large]
      · next small => simp [Nat.le_of_not_gt small]

/-- The first grid that is too large is reported. -/
theorem sizeFlaw?_eq_some {limit : Nat} (number : Nat) {earlier later : List (Grid alphabet)}
    {grid : Grid alphabet} (small : ∀ other ∈ earlier, ¬limit < other.cellCount)
    (large : limit < grid.cellCount) :
    sizeFlaw? limit number (earlier ++ grid :: later) =
      some (.malformed (.ofGrid (number + earlier.length)) (.tooLarge grid.cellCount limit)) := by
  induction earlier generalizing number with
  | nil => simp [sizeFlaw?, large]
  | cons other rest inductionHypothesis =>
      obtain ⟨otherSmall, restSmall⟩ := List.forall_mem_cons.1 small
      rw [List.cons_append, sizeFlaw?, if_neg otherSmall,
        inductionHypothesis (number + 1) restSmall, List.length_cons,
        Nat.succ_add_eq_add_succ]

/-- The check of the sizes passes for the games that the service admits. -/
theorem checkSize_eq_ok_iff (service : Service) (game : Game alphabet) (nothing : Unit) :
    service.checkSize game = .ok nothing ↔ service.Admits game := by
  unfold checkSize Admits
  rw [Error.guard_eq_ok_iff]
  cases service.configuration.maxCells <;> simp [sizeFlaw?_eq_none_iff]

/-- The check of the sizes blames the first grid that is too large. -/
theorem checkSize_eq_error {limit : UInt64}
    (limited : service.configuration.maxCells = some limit) {number : Nat} {grid : Grid alphabet}
    (isFirst : game.IsFirst (fun grid => limit.toNat < grid.cellCount) number grid) :
    service.checkSize game =
      .error (.malformed (.ofGrid number) (.tooLarge grid.cellCount limit.toNat)) := by
  obtain ⟨large, earlier, later, grids, rfl, small⟩ := isFirst
  unfold checkSize
  rw [Error.guard_eq_error_iff, limited, Option.bind_some, grids, sizeFlaw?_eq_some 0 small large,
    Nat.zero_add]

theorem isMalformed_of_sizeFlaw? {limit number : Nat} {grids : List (Grid alphabet)}
    {error : Error} (flawed : sizeFlaw? limit number grids = some error) :
    error.IsMalformed := by
  induction grids generalizing number with
  | nil => simp [sizeFlaw?] at flawed
  | cons grid rest inductionHypothesis =>
      rw [sizeFlaw?] at flawed
      split at flawed
      · rw [← Option.some.inj flawed]
        exact Error.isMalformed_malformed _ _
      · exact inductionHypothesis flawed

/-- A game with a grid that is too large is malformed input. -/
theorem onlyMalformed_checkSize (service : Service) (game : Game alphabet) :
    Error.OnlyMalformed (service.checkSize game) := by
  intro error failed
  rw [checkSize, Error.guard_eq_error_iff, Option.bind_eq_some_iff] at failed
  obtain ⟨limit, _, flawed⟩ := failed
  exact isMalformed_of_sizeFlaw? flawed

/-! ### Grids -/

/-- What solving the grid of the given number comes to: the contradiction that it is
rejected for, a completion, that there is none, or that the solver was disturbed. -/
inductive Verdict (solver : Solver) (watch : Watch) (number : Nat) (grid : Grid alphabet) :
    Except Error (Grid alphabet) → Prop
  | invalid {location : Location} {reason : InvalidReason} (inconsistent : ¬grid.Consistent)
      (rejects : grid.Rejects (.invalid location reason)) :
      Verdict solver watch number grid (.error (.invalid location reason))
  | solved {solution : Grid alphabet} (valid : grid.Valid)
      (completes : grid.IsCompletion solution) :
      Verdict solver watch number grid (.ok solution)
  | unsatisfiable (valid : grid.Valid)
      (incomplete : ¬∃ solution, grid.IsCompletion solution) :
      Verdict solver watch number grid (.error (.unsatisfiable number))
  | cancelled (disturbed : ¬solver.Undisturbed watch) :
      Verdict solver watch number grid (.error .cancelled)

/-- Solving a grid with its values in its domain comes to a verdict. -/
theorem solveGrid_verdict {grid : Grid alphabet} (wellFormed : grid.WellFormed)
    (checked : grid.checkValues = .ok ()) (solver : Solver) (watch : Watch) (number : Nat) :
    Verdict solver watch number grid (solveGrid solver watch number grid) := by
  rcases Grid.loads_or_rejects wellFormed with
    ⟨valid, layout, loads⟩ | ⟨invalid, error, rejects⟩
  swap
  · -- The values were checked when the grid was decoded, and are not what it is rejected for.
    obtain ⟨location, reason, rfl⟩ := rejects.exists_invalid checked
    rw [Grid.valid_iff_consistent wellFormed checked] at invalid
    have failed : solveGrid solver watch number grid = .error (.invalid location reason) := by
      unfold solveGrid Solver.solve Solver.solveWithStatistics
      rw [rejects.search_eq]
      rfl
    rw [failed]
    exact .invalid invalid rejects
  rcases Solver.solve_cases loads solver watch with solved | ⟨disturbed, cancelled⟩
  swap
  · have failed : solveGrid solver watch number grid = .error .cancelled := by
      unfold solveGrid
      rw [cancelled]
      rfl
    rw [failed]
    exact .cancelled disturbed
  unfold solveGrid
  rw [solved]
  cases listed : (Board.initial layout grid).successes with
  | nil =>
      refine .unsatisfiable valid ?_
      rintro ⟨solution, completes⟩
      rw [← Solver.mem_successes_iff loads, listed] at completes
      simp at completes
  | cons success rest =>
      refine .solved valid ?_
      rw [← Solver.mem_successes_iff loads, listed]
      exact List.mem_cons_self

/-! ### Games -/

/-- The work of a service on a grid of a game. -/
def work (service : Service) (token : CancelToken) (watches : Nat → Watch) (number : Nat)
    (grid : Grid alphabet) : Except Error (Grid alphabet) :=
  solveGrid ⟨service.configuration.solver, token⟩ (watches number) number grid

/-- The work on a grid of a decoded request comes to a verdict. -/
theorem work_verdict (decoded : request.decode = .ok game) {grid : Grid alphabet}
    (member : grid ∈ game.grids) (service : Service) (token : CancelToken)
    (watches : Nat → Watch) (number : Nat) :
    Verdict ⟨service.configuration.solver, token⟩ (watches number) number grid
      (service.work token watches number grid) := by
  obtain ⟨_, sound⟩ := (GameMessage.decode_eq_ok_iff request game).1 decoded
  obtain ⟨built, checked⟩ := sound grid member
  exact solveGrid_verdict built.wellFormed checked _ _ number

/-- The solutions of the grids of a request are encoded as the request with its blanks
filled in, which is decoded into those solutions. -/
theorem exists_response (decoded : request.decode = .ok game)
    {solutions : List (Grid alphabet)}
    (traversed : Game.traverseFrom (service.work token watches) 0 game.grids = .ok solutions) :
    ∃ response : GameMessage, Game.encode ⟨solutions⟩ = .ok response ∧
      response.Fills request ∧ response.decode = .ok (⟨solutions⟩ : Game alphabet) ∧
      ∀ solution ∈ solutions, solution.isFull = true ∧ solution.Valid := by
  obtain ⟨denotes, sound⟩ := (GameMessage.decode_eq_ok_iff request game).1 decoded
  -- Of the four verdicts only a solution is a success.
  have solved : List.Forall₂ (fun solution grid =>
      (solution.isFull = true ∧ solution.Valid ∧ solution.Built) ∧ grid.IsCompletion solution)
      solutions game.grids := by
    apply Game.forall₂_of_traverseFrom _ traversed
    intro number grid member solution worked
    have verdict := work_verdict decoded member service token watches number
    rw [worked] at verdict
    cases verdict with
    | solved valid completes =>
        exact ⟨⟨completes.full, completes.valid valid, completes.built (sound grid member).1⟩,
          completes⟩
  obtain ⟨solutionsSound, complete⟩ := (List.forall₂_and_left _ _).1 solved
  obtain ⟨response, responseDenotes, fills⟩ := denotes.exists_fills complete
  refine ⟨response, (Game.encode_eq_ok_iff _ _).2 responseDenotes, fills,
    (GameMessage.decode_eq_ok_iff _ _).2 ⟨responseDenotes, ?_⟩, ?_⟩
  · intro solution member
    obtain ⟨_, valid, built⟩ := solutionsSound solution member
    exact ⟨built, (Board.checkValues_eq_ok_iff solution built.wellFormed).2 valid.inDomain⟩
  · intro solution member
    obtain ⟨full, valid, _⟩ := solutionsSound solution member
    exact ⟨full, valid⟩

/-- A service succeeds when the request is decoded into a game that it admits, and every
grid of the game is solved. -/
theorem solve_eq_ok_iff (response : GameMessage) :
    service.solve token watches request = .ok response ↔
      ∃ game solutions, request.decode = .ok game ∧ service.Admits game ∧
        Game.traverseFrom (service.work token watches) 0 game.grids = .ok solutions ∧
        Game.encode ⟨solutions⟩ = .ok response := by
  unfold solve
  simp only [Error.bind_eq_ok_iff, checkSize_eq_ok_iff]
  constructor
  · rintro ⟨game, decoded, _, admitted, solutions, traversed, encoded⟩
    exact ⟨game, solutions, decoded, admitted, traversed, encoded⟩
  · rintro ⟨game, solutions, decoded, admitted, traversed, encoded⟩
    exact ⟨game, decoded, (), admitted, solutions, traversed, encoded⟩

/-- A service fails when the request is not decoded, a grid is too large, or a grid is
not solved, and never because it cannot encode what it solved. -/
theorem solve_eq_error_iff (error : Error) :
    service.solve token watches request = .error error ↔
      (request.decode : Except Error (Game alphabet)) = .error error ∨
      ∃ game, request.decode = .ok game ∧ (service.checkSize game = .error error ∨
        service.Admits game ∧
          Game.traverseFrom (service.work token watches) 0 game.grids = .error error) := by
  unfold solve
  simp only [Error.bind_eq_error_iff]
  constructor
  · rintro (undecoded | ⟨game, decoded, tooLarge | ⟨_, admitted, failed | ⟨solutions, traversed,
      unencoded⟩⟩⟩)
    · exact .inl undecoded
    · exact .inr ⟨game, decoded, .inl tooLarge⟩
    · exact .inr ⟨game, decoded, .inr ⟨(checkSize_eq_ok_iff service game _).1 admitted, failed⟩⟩
    · -- The box dimensions of a solution are those of the request, and fit a message.
      obtain ⟨response, encoded, _⟩ := exists_response decoded traversed
      rw [encoded] at unencoded
      simp at unencoded
  · rintro (undecoded | ⟨game, decoded, tooLarge | ⟨admitted, failed⟩⟩)
    · exact .inl undecoded
    · exact .inr ⟨game, decoded, .inl tooLarge⟩
    · exact .inr ⟨game, decoded, .inr ⟨(), (checkSize_eq_ok_iff service game ()).2 admitted,
        .inl failed⟩⟩

/-! ### Documents -/

/-- A document is answered by solving between reading a message and writing one. -/
theorem solveDocument_eq (service : Service) (codec : Codec GameMessage) (token : CancelToken)
    (watches : Nat → Watch) (document : String) :
    service.solveDocument codec token watches document =
      ((GameMessage.ofDocument codec document).bind (service.solve token watches)).bind
        fun response => response.toDocument codec := by
  unfold solveDocument
  cases GameMessage.ofDocument codec document <;> rfl

end Service
end Sudoku
