import Sudoku.Proofs.Search.Ledger
import Sudoku.Proofs.Search.Statistics
import Sudoku.Proofs.Solver.Termination

/-!
# Statistics of a solver

The statistics that a solver reports with its outcome describe a search tree of the grid:
no deeper than the grid has blank cells, with two branches at least for every choice point
that was given up, and one for every other choice point, but for the innermost one of a
search that is cancelled. The branches are the commits of options, and the forced moves
are the values of propagation that came to rest. They leave out the values that were
committed before propagation ended at a dead cell.
-/

namespace Sudoku
namespace Solver

variable {alphabet : Alphabet} {grid : Grid alphabet} {search : Search alphabet}

/-- The search of a valid grid is a run on its board that comes to an end. -/
theorem exists_search_reaches (built : grid.Built) (valid : grid.Valid) (solver : Solver)
    (watch : Watch) (wanted : Nat) :
    ∃ layout first total last, grid.Loads layout ∧
      Search.start (.initial layout grid) = .ok first ∧
      Search.Sound (.initial layout grid) first ∧
      solver.search watch wanted grid = .ok last ∧
      Search.Reaches ⟨wanted, solver.configuration.verifySolutions⟩
        (watch.cancels (solver.tokenAt watch.start)) first total last ∧
      last.phase.isFinal = true := by
  rcases Grid.loads_or_rejects built.wellFormed with ⟨_, layout, loads⟩ | ⟨invalid, _⟩
  swap
  · exact absurd valid invalid
  have coherent := loads.coherent
  obtain ⟨first, _, started, sound, _⟩ := Search.exists_start ⟨1, true⟩ coherent Nat.one_pos
  obtain ⟨total, last, completed, reaches, final⟩ :=
    Search.exists_complete_of_start coherent rfl sound started
      ⟨wanted, solver.configuration.verifySolutions⟩
      (watch.cancels (solver.tokenAt watch.start))
  exact ⟨layout, first, total, last, loads, started, sound,
    (search_eq_complete loads solver watch wanted).trans completed, reaches, final⟩

/-! ### The shape of the search -/

/-- A solver whose search found nothing has no solution. -/
theorem solutions_ne_nil_of_isSolved (solved : (solutionOf search).isSolved = true) :
    search.solutions ≠ [] := by
  intro nothing
  unfold solutionOf at solved
  rw [nothing] at solved
  cases phase : search.phase <;> simp [phase, Solution.isSolved] at solved

/-- A solver tells that there is no solution when its search has ended without one. -/
theorem phase_of_unsatisfiable (concluded : search.Concluded)
    (final : search.phase.isFinal = true)
    (unsatisfiable : solutionOf search = .unsatisfiable) : search.phase = .unsatisfiable := by
  have nothing : search.solutions = [] := by
    cases solutions : search.solutions with
    | nil => rfl
    | cons => cases phase : search.phase <;> simp [solutionOf, phase, solutions] at unsatisfiable
  cases phase : search.phase with
  | choosing | trying => simp [phase, Phase.isFinal] at final
  | solved => exact absurd nothing (concluded.solved phase)
  | unsatisfiable => rfl
  | cancelled => simp [solutionOf, phase] at unsatisfiable

/-- The statistics of the search of a valid grid with so many blank cells fit the shape of
a search tree, whatever the settings and the token. -/
theorem statistics_fit (built : grid.Built) (valid : grid.Valid) (solver : Solver)
    (watch : Watch) :
    ∃ solution statistics,
      solver.solveWithStatistics watch grid = .ok (solution, statistics) ∧
      statistics.maxDepth ≤ grid.blanks.length ∧
      2 * statistics.backtracks ≤ statistics.branches ∧
      (solution ≠ .cancelled → statistics.maxDepth ≤ statistics.branches) ∧
      (solution = .cancelled → statistics.maxDepth ≤ statistics.branches + 1) ∧
      (solution.isSolved = true →
        grid.blanks.length ≤ statistics.branches + statistics.forcedMoves) ∧
      (solution = .unsatisfiable →
        (statistics.branches = 0 ∧ statistics.backtracks = 0 ∧ statistics.maxDepth = 0) ∨
        (1 ≤ statistics.maxDepth ∧ statistics.maxDepth ≤ statistics.backtracks)) := by
  obtain ⟨layout, first, total, last, loads, started, sound, searched, reaches, final⟩ :=
    exists_search_reaches built valid solver watch 1
  have coherent := loads.coherent
  have fresh : (Board.initial layout grid).mark = 0 := rfl
  have openCount := coherent.length_openCells
  rw [loads.openCells_initial] at openCount
  have accounted := Search.Accounted.of_start started coherent fresh
  refine ⟨solutionOf last, last.statistics, solveWithStatistics_of_search searched, ?_⟩
  rw [openCount]
  rcases reaches.steps_or_withdrawn coherent fresh sound with
    steps | ⟨before, earlier, _, steps, _, rfl⟩
  · replace accounted := accounted.of_steps steps sound coherent fresh
    refine ⟨accounted.balanced.maxDepth_le_openCells, accounted.twice_backtracks_le,
      fun _ => accounted.maxDepth_le_branches final, fun _ => accounted.maxDepth_le_succ,
      fun solved => ?_, fun unsatisfiable => ?_⟩
    · exact accounted.covered.solutions (solutions_ne_nil_of_isSolved solved)
    · exact accounted.exhausted
        (phase_of_unsatisfiable accounted.concluded final unsatisfiable)
  · -- The search was abandoned, and keeps the counters that it had at its last try.
    replace accounted := accounted.of_steps steps sound coherent fresh
    have cancelled : solutionOf (earlier.withdrawn (.initial layout grid)) = .cancelled := rfl
    rw [cancelled]
    exact ⟨accounted.balanced.maxDepth_le_openCells, accounted.twice_backtracks_le,
      fun other => absurd rfl other, fun _ => accounted.maxDepth_le_succ,
      fun solved => by simp [Solution.isSolved] at solved,
      fun unsatisfiable => by simp at unsatisfiable⟩

/-- A search of the band for one solution counts a branch or a forced value for each of its four
open cells. -/
theorem statistics_fit_openBand :
    ∃ completed statistics,
      ({} : Solver).solveWithStatistics (.still false 0) Grid.openBand =
        .ok (.solved completed, statistics) ∧
      statistics.maxDepth ≤ statistics.branches ∧
      4 ≤ statistics.branches + statistics.forcedMoves := by
  obtain ⟨solution, statistics, solved, _, _, deep, _, counted, _⟩ :=
    statistics_fit Grid.built_openBand (by decide +kernel) {} (.still false 0)
  have outcome : (({} : Solver).solveWithStatistics (.still false 0) Grid.openBand).map
      (fun result => result.1.isSolved) = .ok true := by
    decide +kernel
  have blanks : Grid.openBand.blanks.length = 4 := by decide +kernel
  rw [solved, Except.map, Except.ok.injEq] at outcome
  rw [blanks] at counted
  cases solution with
  | solved completed =>
      exact ⟨completed, statistics, solved, deep (by simp), counted rfl⟩
  | unsatisfiable | cancelled => simp [Solution.isSolved] at outcome

/-! ### What is counted -/

/-- At any time of the search of a valid grid, the branches are the values on the trail that
commits of options put there, and the forced moves are those that propagation put there
when it came to rest. What else propagation put there is not counted. -/
theorem branches_and_forcedMoves_tally (built : grid.Built) (valid : grid.Valid)
    (solver : Solver) (watch : Watch) (wanted : Nat) :
    ∃ layout board, Layout.ofGrid grid = .ok layout ∧ Board.ofGrid layout grid = .ok board ∧
      (∃ total calls last, solver.search watch wanted grid = .ok last ∧
        Search.Traced ⟨wanted, solver.configuration.verifySolutions⟩
          (watch.cancels (solver.tokenAt watch.start)) board total calls last ∧
        last.phase.isFinal = true) ∧
      ∀ count calls search,
        Search.Traced ⟨wanted, solver.configuration.verifySolutions⟩
          (watch.cancels (solver.tokenAt watch.start)) board count calls search →
        search.board = board.follow calls ∧
        search.statistics.branches = Board.gain Board.commits board calls ∧
        search.statistics.forcedMoves = Board.gain Board.propagatesToRest board calls ∧
        Board.gain Board.propagates board calls =
          search.statistics.forcedMoves + Board.gain Board.propagatesInVain board calls := by
  obtain ⟨layout, first, total, last, loads, started, _, searched, reaches, final⟩ :=
    exists_search_reaches built valid solver watch wanted
  obtain ⟨calls, traced⟩ := reaches.exists_traced started
  refine ⟨layout, .initial layout grid, loads.divided, loads.board,
    ⟨total, calls, last, searched, traced, final⟩, ?_⟩
  intro count calls search traced
  have tracked := Board.tracked_of_ofGrid (Layout.sound_of_ofGrid loads.divided)
    built.wellFormed loads.board
  obtain ⟨followed, branches, forcedMoves⟩ := traced.tallies tracked rfl
  rw [Nat.zero_add] at branches forcedMoves
  refine ⟨followed, branches, forcedMoves, ?_⟩
  rw [Board.gain_propagates, forcedMoves]

/-- The search of the band commits one option, and propagation of it forces the values of the
other open cells. -/
theorem branches_and_forcedMoves_tally_openBand :
    ∃ board calls last, ({} : Solver).search (.still false 0) 1 Grid.openBand = .ok last ∧
      last.board = Board.follow board calls ∧ Board.gain Board.commits board calls = 1 ∧
      Board.gain Board.propagatesToRest board calls = 3 := by
  obtain ⟨_, board, _, _, ⟨_, calls, last, searched, traced, _⟩, tallies⟩ :=
    branches_and_forcedMoves_tally Grid.built_openBand (by decide +kernel) {}
      (.still false 0) 1
  obtain ⟨followed, branches, forcedMoves, _⟩ := tallies _ _ _ traced
  have counts : (({} : Solver).search (.still false 0) 1 Grid.openBand).map
      (fun search => search.statistics) = .ok ⟨1, 0, 3, 1⟩ := by
    decide +kernel
  rw [searched, Except.map, Except.ok.injEq] at counts
  rw [counts] at branches forcedMoves
  exact ⟨board, calls, last, searched, followed, branches.symm, forcedMoves.symm⟩

/-- A box of three cells over two symbols, one of which is given. -/
def stuckRow : Grid .unsigned8 where
  height := 1
  width := 3
  cells := #[{ value := some Grid.one }, {}, {}]
  box := ⟨3, 1⟩
  domain := {
    listed := [Grid.one, Grid.two]
    values := #[Grid.one, Grid.two]
    perm := .refl _
    ascending := by decide
    nonempty := by decide }
  explicitDomain := true

/-- The box is built from its row. -/
theorem built_stuckRow : stuckRow.Built := by
  have made : Grid.ofRowsOver stuckRow.domain [[{ value := some Grid.one }, {}, {}]] ⟨3, 1⟩ =
      .ok stuckRow := by
    rfl
  exact .ofRowsOver made

/-- The forced moves need not be all the values that propagation committed. -/
theorem not_forcedMoves_eq_gain_propagates :
    ¬∀ grid : Grid .unsigned8, grid.Built → grid.Valid →
      ∀ (solver : Solver) (watch : Watch) wanted layout board,
        Layout.ofGrid grid = .ok layout → Board.ofGrid layout grid = .ok board →
        ∀ count calls search,
          Search.Traced ⟨wanted, solver.configuration.verifySolutions⟩
            (watch.cancels (solver.tokenAt watch.start)) board count calls search →
          search.statistics.forcedMoves = Board.gain Board.propagates board calls := by
  intro counted
  have trace : (do
      let layout ← Layout.ofGrid stuckRow
      let board ← Board.ofGrid layout stuckRow
      let first ← Search.start board
      .ok (first.statistics.forcedMoves, Board.gain Board.propagates board [.propagate])) =
        .ok (0, 1) := by
    decide +kernel
  simp only [Error.bind_eq_ok_iff, Except.ok.injEq, Prod.mk.injEq] at trace
  obtain ⟨layout, divided, board, loaded, first, started, uncounted, gained⟩ := trace
  have same := counted stuckRow built_stuckRow (by decide +kernel) {} (.still false 0) 1
    layout board divided loaded 0 [.propagate] first (.start started)
  omega

end Solver
end Sudoku
