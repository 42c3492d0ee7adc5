import Sudoku.Proofs.Service.Classification

/-!
# Which grid a service reports

A service gives up at the first grid that it does not solve. An inconsistent grid is
therefore reported only when every grid before it is solved: a grid without a completion,
or one whose search is cancelled, hides every contradiction after it. Solving the grids of
a game without encoding them goes on past such grids, and always finds the first
contradiction.
-/

namespace Sudoku

/-- Every grid of a game before the one of the given number is solved. -/
def Solver.SolvesBefore {alphabet : Alphabet} (solver : Solver) (watches : Nat → Watch)
    (game : Game alphabet) (number : Nat) : Prop :=
  ∀ earlier < number, ∀ grid, game.grids[earlier]? = some grid →
    ∃ solution, solver.solve (watches earlier) grid = .ok (.solved solution)

/-- All grids before one are solved, or there is a first that is not. -/
theorem Solver.solvesBefore_or_exists {alphabet : Alphabet} (solver : Solver)
    (watches : Nat → Watch) (game : Game alphabet) (number : Nat) :
    solver.SolvesBefore watches game number ∨
      ∃ earlier < number, solver.SolvesBefore watches game earlier ∧
        ∃ grid, game.grids[earlier]? = some grid ∧
          ∀ solution, solver.solve (watches earlier) grid ≠ .ok (.solved solution) := by
  induction number with
  | zero => exact .inl fun _ before => absurd before (Nat.not_lt_zero _)
  | succ number inductionHypothesis =>
      rcases inductionHypothesis with solves | ⟨earlier, before, found⟩
      swap
      · exact .inr ⟨earlier, Nat.lt_succ_of_lt before, found⟩
      by_cases last : ∃ grid, game.grids[number]? = some grid ∧
          ∀ solution, solver.solve (watches number) grid ≠ .ok (.solved solution)
      · exact .inr ⟨number, Nat.lt_succ_self number, solves, last⟩
      · left
        intro earlier before grid found
        rcases Nat.lt_succ_iff_lt_or_eq.1 before with before | rfl
        · exact solves earlier before grid found
        · by_contra unsolved
          exact last ⟨grid, found, fun solution solved => unsolved ⟨solution, solved⟩⟩

namespace Service

variable {service : Service} {token : CancelToken} {watches : Nat → Watch}
  {request : GameMessage} {game : Game alphabet}

/-- The solver of a service under a token. -/
def solver (service : Service) (token : CancelToken) : Solver :=
  ⟨service.configuration.solver, token⟩

/-- The work on a grid, as far as it depends on what the solver finds. -/
theorem work_eq (service : Service) (token : CancelToken) (watches : Nat → Watch) (number : Nat)
    (grid : Grid alphabet) :
    service.work token watches number grid =
      match (service.solver token).solve (watches number) grid with
      | .ok (.solved solution) => .ok solution
      | .ok .unsatisfiable => .error (.unsatisfiable number)
      | .ok .cancelled => .error .cancelled
      | .error error => .error error := by
  unfold work solveGrid solver
  cases Solver.solve _ (watches number) grid with
  | error error => rfl
  | ok outcome => cases outcome <;> rfl

/-- A service reports the first grid that it does not solve. -/
theorem solve_eq_error_of_solvesBefore (decoded : request.decode = .ok game)
    (admitted : service.Admits game) {number : Nat} {grid : Grid alphabet} {cause : Error}
    (found : game.grids[number]? = some grid)
    (solves : (service.solver token).SolvesBefore watches game number)
    (failed : service.work token watches number grid = .error cause) :
    service.solve token watches request = .error (cause.inGrid number) := by
  refine (solve_eq_error_iff _).2 (.inr ⟨game, decoded, .inr ⟨admitted, ?_⟩⟩)
  refine Game.traverseFrom_eq_error_of_getElem? found ?_ failed
  intro earlier before other otherFound
  obtain ⟨solution, solved⟩ := solves earlier before other otherFound
  exact ⟨solution, by rw [work_eq, solved]⟩

/-- The first grid that a service does not solve, although its solver does not fail on it,
is reported as unsatisfiable or cancelled. -/
theorem solve_of_unsolved (decoded : request.decode = .ok game)
    (admitted : service.Admits game) {number : Nat} {grid : Grid alphabet}
    (found : game.grids[number]? = some grid)
    (solves : (service.solver token).SolvesBefore watches game number) :
    ((service.solver token).solve (watches number) grid = .ok .unsatisfiable →
      service.solve token watches request = .error (.unsatisfiable number)) ∧
    ((service.solver token).solve (watches number) grid = .ok .cancelled →
      service.solve token watches request = .error .cancelled) := by
  constructor
  · intro unsatisfiable
    exact solve_eq_error_of_solvesBefore decoded admitted found solves
      (by rw [work_eq, unsatisfiable])
  · intro cancelled
    exact solve_eq_error_of_solvesBefore decoded admitted found solves
      (by rw [work_eq, cancelled])

/-- Solving the grids of a game reports the first inconsistent grid, whatever the solver
sees of the world, and a service reports the same exactly when it solves every grid before
it. The first grid that it does not solve is reported otherwise, as unsatisfiable or
cancelled. -/
theorem solve_of_inconsistent (decoded : request.decode = .ok game)
    (admitted : service.Admits game) {number : Nat} {grid : Grid alphabet}
    (isFirst : game.IsFirst (fun grid => ¬grid.Consistent) number grid) :
    ∃ location reason, grid.Rejects (.invalid location reason) ∧
      (∀ others, (service.solver token).solveGame others game =
        .error (.invalid (location.inGrid number) reason)) ∧
      (service.solve token watches request =
          .error (.invalid (location.inGrid number) reason) ↔
        (service.solver token).SolvesBefore watches game number) ∧
      ∀ earlier < number, (service.solver token).SolvesBefore watches game earlier →
        ∀ other, game.grids[earlier]? = some other →
          ((service.solver token).solve (watches earlier) other = .ok .unsatisfiable →
            service.solve token watches request = .error (.unsatisfiable earlier)) ∧
          ((service.solver token).solve (watches earlier) other = .ok .cancelled →
            service.solve token watches request = .error .cancelled) := by
  obtain ⟨_, sound⟩ := (GameMessage.decode_eq_ok_iff request game).1 decoded
  have outcomes {other : Grid alphabet} (member : other ∈ game.grids) :=
    Grid.solves_or_rejects (sound other member).1.wellFormed (sound other member).2
  obtain ⟨consistent, _⟩ | ⟨_, location, reason, rejects, fails⟩ := outcomes isFirst.mem
  · exact absurd consistent isFirst.1
  have solvesConsistent {other : Grid alphabet} (member : other ∈ game.grids)
      (consistent : other.Consistent) (watch : Watch) :
      ∃ outcome, (service.solver token).solve watch other = .ok outcome := by
    obtain ⟨_, solves⟩ | ⟨inconsistent, _⟩ := outcomes member
    · exact solves _ _
    · exact absurd consistent inconsistent
  refine ⟨location, reason, rejects, ?_, ⟨?_, ?_⟩,
    fun _ _ solves _ found => solve_of_unsolved decoded admitted found solves⟩
  · intro others
    have works : ∀ number other, other ∈ game.grids → ¬¬other.Consistent →
        ∃ outcome, (service.solver token).solve (others number) other = .ok outcome := by
      intro number other member consistent
      exact solvesConsistent member (not_not.1 consistent) (others number)
    exact isFirst.traverseFrom_eq_error works (fails (service.solver token) (others number))
  · intro reported
    rcases (service.solver token).solvesBefore_or_exists watches game number with
      solves | ⟨earlier, before, solves, other, found, unsolved⟩
    · exact solves
    -- The grid that is not solved would be reported in place of the inconsistent one.
    obtain ⟨outcome, outcomeEq⟩ := solvesConsistent (List.mem_of_getElem? found)
      (not_not.1 (isFirst.not_of_lt before found)) (watches earlier)
    obtain ⟨unsatisfiable, cancelled⟩ := solve_of_unsolved decoded admitted found solves
    cases outcome with
    | solved solution => exact absurd outcomeEq (unsolved solution)
    | unsatisfiable =>
        rw [unsatisfiable outcomeEq] at reported
        simp at reported
    | cancelled =>
        rw [cancelled outcomeEq] at reported
        simp at reported
  · intro solves
    exact solve_eq_error_of_solvesBefore decoded admitted isFirst.getElem? solves
      (by rw [work_eq, fails])

/-! ### A hidden contradiction -/

/-- The messages of two rows over one symbol: two blank cells, which have no completion,
and two cells that both hold it. -/
def hiddenMessage : GameMessage where
  grids := some [
    { rows := some [{ cells := some [{}, {}] }]
      boxWidth := some 2
      boxHeight := some 1
      domain := some [1] },
    { rows := some [{ cells := some [{ value := some 1 }, { value := some 1 }] }]
      boxWidth := some 2
      boxHeight := some 1
      domain := some [1] }]

/-- The row of two cells over one symbol that both hold it. -/
def clashingGrid : Grid alphabet :=
  { crampedGrid with
    cells := #[{ value := crampedGrid.domain.value? 0 },
      { value := crampedGrid.domain.value? 0 }] }

/-- The game of a row without a completion and one with equal values. -/
def hiddenGame : Game alphabet :=
  ⟨[crampedGrid, clashingGrid]⟩

/-- The row without a completion is reported, and hides the row with equal values, which
solving the grids of the game reports. -/
theorem solve_hiddenMessage :
    (∃ location reason, (({} : Service).solver {}).solveGame (fun _ => .still false 0)
      hiddenGame = .error (.invalid (Location.inGrid location 1) reason)) ∧
    ({} : Service).solve {} (fun _ => .still false 0) hiddenMessage =
      .error (.unsatisfiable 0) := by
  have decoded : hiddenMessage.decode = .ok hiddenGame := by decide +kernel
  have admitted : ({} : Service).Admits hiddenGame := by
    rintro _ ⟨⟩
  have valid : crampedGrid.Valid := by decide +kernel
  have isFirst : hiddenGame.IsFirst (fun grid => ¬grid.Consistent) 1 clashingGrid := by
    refine ⟨?_, [crampedGrid], [], rfl, rfl, ?_⟩
    · intro consistent
      exact consistent.distinct 0 1 (by decide) _ rfl rfl
    · have consistent : crampedGrid.Consistent := ⟨valid.uniform, valid.distinct⟩
      simpa using consistent
  obtain ⟨location, reason, _, rejected, _, hidden⟩ :=
    @solve_of_inconsistent {} {} (fun _ => .still false 0) _ _ decoded admitted _ _ isFirst
  have solves : (({} : Service).solver {}).SolvesBefore (fun _ => .still false 0) hiddenGame 0 :=
    fun _ before => absurd before (Nat.not_lt_zero _)
  exact ⟨⟨location, reason, rejected _⟩,
    (hidden 0 Nat.one_pos solves _ rfl).1 (by decide +kernel)⟩

/-- A service need not report the inconsistent grid that solving the grids of the game
reports. -/
theorem not_solve_eq_of_solveGame :
    ¬∀ (service : Service) (token : CancelToken) (watches : Nat → Watch)
      (request : GameMessage) (game : Game alphabet) (location : Location)
      (reason : InvalidReason), request.decode = .ok game → service.Admits game →
      (service.solver token).solveGame watches game = .error (.invalid location reason) →
      service.solve token watches request = .error (.invalid location reason) := by
  intro agree
  have decoded : hiddenMessage.decode = .ok hiddenGame := by decide +kernel
  have admitted : ({} : Service).Admits hiddenGame := by
    rintro _ ⟨⟩
  have rejected : (({} : Service).solver {}).solveGame (fun _ => .still false 0) hiddenGame =
      .error (.invalid ⟨some 1, some 0, some 0⟩ (.duplicateValue ⟨0, 0⟩ ⟨0, 1⟩ "1")) := by
    decide +kernel
  have reported := agree {} {} _ hiddenMessage hiddenGame _ _ decoded admitted rejected
  have answered : ({} : Service).solve {} (fun _ => .still false 0) hiddenMessage =
      .error (.unsatisfiable 0) := by
    decide +kernel
  rw [answered] at reported
  simp at reported

end Service
end Sudoku
