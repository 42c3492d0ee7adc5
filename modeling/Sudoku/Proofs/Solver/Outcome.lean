import Sudoku.Proofs.Search.Run
import Sudoku.Proofs.Solver.Validation

/-!
# Outcomes of a solver

A solver reports an error for the grids it rejects and for no others. On any
other grid its search is that of the recursion on the board of the grid, which
has the completions of the grid one by one, unless its token is cancelled. None
of this depends on whether solutions are checked.
-/

namespace Sudoku

variable {alphabet : Alphabet} {grid : Grid alphabet} {layout : Layout}
  {solver : Solver} {watch : Watch} {wanted : Nat}

/-- The token of a solver does not count as cancelled at any step of a search. -/
def Solver.Undisturbed (solver : Solver) (watch : Watch) : Prop :=
  ∀ step, watch.cancels (solver.tokenAt watch.start) step = false

/-- A solver without a time limit is undisturbed while its own token is not
cancelled. -/
theorem Solver.undisturbed_of_unlimited
    (unlimited : solver.configuration.timeLimit = none)
    (quiet : ∀ step, watch.cancels solver.token step = false) :
    solver.Undisturbed watch := by
  unfold Undisturbed tokenAt
  rw [unlimited]
  exact quiet

/-- A search has what the recursive search of the board of a grid has: the first of
its successes, as many as are wanted. -/
structure Grid.Answers (grid : Grid alphabet) (layout : Layout) (wanted : Nat)
    (search : Search alphabet) : Prop where
  explores : Board.explore wanted 0 (.initial layout grid) {} = .ok search.exploration
  phase : search.phase = Search.endOf search.exploration
  solutions : search.solutions =
    ((Board.initial layout grid).successes.take wanted).reverse

namespace Grid

/-- A search of a grid answers, unless it is cancelled. -/
theorem Loads.exists_answers (loads : grid.Loads layout) (solver : Solver)
    (positive : 0 < wanted) :
    ∃ answer, grid.Answers layout wanted answer ∧
      ∀ watch, solver.search watch wanted grid = .ok answer ∨
        (¬solver.Undisturbed watch ∧
          ∃ stopped, solver.search watch wanted grid = .ok stopped ∧
            stopped.phase = .cancelled) := by
  obtain ⟨explored, answer, recursion, ends, searches⟩ := Search.exists_complete
    ⟨wanted, solver.configuration.verifySolutions⟩ loads.coherent rfl positive
  obtain ⟨sameExplored, sameRecursion, adds⟩ :=
    loads.coherent.tree.exists_explore 0 {} positive
  rw [recursion, Except.ok.injEq] at sameRecursion
  subst sameRecursion
  refine ⟨answer, ⟨?_, ?_, ?_⟩, ?_⟩
  · rw [recursion, ends.exploration]
  · rw [ends.phase, ends.exploration]
  · have solutions : answer.solutions = explored.solutions :=
      congrArg Exploration.solutions ends.exploration
    rw [solutions, adds, List.append_nil]
    rfl
  · intro watch
    have searched : solver.search watch wanted grid =
        Search.complete ⟨wanted, solver.configuration.verifySolutions⟩
          (watch.cancels (solver.tokenAt watch.start)) (.initial layout grid) := by
      simp only [Solver.search, loads.divided, loads.board, bind, Except.bind]
    rw [searched]
    rcases searches (watch.cancels (solver.tokenAt watch.start)) with
      completed | ⟨⟨step, raised⟩, stopped⟩
    · exact .inl completed
    · have disturbed : ¬solver.Undisturbed watch := by
        intro undisturbed
        rw [undisturbed step] at raised
        simp at raised
      exact .inr ⟨disturbed, stopped⟩

/-- A search of a grid does not fail. -/
theorem Loads.exists_search (loads : grid.Loads layout) (solver : Solver) (watch : Watch)
    (positive : 0 < wanted) :
    ∃ search, solver.search watch wanted grid = .ok search := by
  obtain ⟨answer, _, searches⟩ := loads.exists_answers solver positive
  rcases searches watch with searched | ⟨_, stopped, searched, _⟩
  · exact ⟨answer, searched⟩
  · exact ⟨stopped, searched⟩

/-- A solver does not reject a grid that it can search. -/
theorem Loads.not_rejects (loads : grid.Loads layout) (error : Error) :
    ¬grid.Rejects error := by
  intro rejects
  obtain ⟨search, searched⟩ := loads.exists_search {} (.still false 0) Nat.one_pos
  rw [rejects.search_eq] at searched
  simp at searched

/-! ### Failure -/

/-- A search of a built grid fails exactly with what the grid is rejected for. -/
theorem search_eq_error_iff (wellFormed : grid.WellFormed) (positive : 0 < wanted)
    (solver : Solver) (watch : Watch) (error : Error) :
    solver.search watch wanted grid = .error error ↔ grid.Rejects error := by
  constructor
  · intro failed
    rcases loads_or_rejects wellFormed with ⟨_, layout, loads⟩ | ⟨_, other, rejects⟩
    · obtain ⟨search, searched⟩ := loads.exists_search solver watch positive
      rw [failed] at searched
      simp at searched
    · have same := rejects.search_eq solver watch wanted
      rw [failed, Except.error.injEq] at same
      rw [same]
      exact rejects
  · intro rejects
    exact rejects.search_eq solver watch wanted

/-- A search of a built grid does not depend on whether solutions are checked. -/
theorem search_verify (wellFormed : grid.WellFormed) (positive : 0 < wanted)
    (solver : Solver) (watch : Watch) (verify : Bool) :
    ({ solver with configuration := { solver.configuration with
        verifySolutions := verify } } : Solver).search watch wanted grid =
      solver.search watch wanted grid := by
  rcases loads_or_rejects wellFormed with ⟨_, layout, loads⟩ | ⟨_, error, rejects⟩
  · have checks := Search.complete_verify loads.coherent rfl positive
    simp only [Solver.search, loads.divided, loads.board, bind, Except.bind]
    rw [checks, checks solver.configuration.verifySolutions]
    rfl
  · rw [rejects.search_eq, rejects.search_eq]

end Grid

namespace Solver

/-- The solver that checks solutions, or does not, and is otherwise the same. -/
def verifying (solver : Solver) (verify : Bool) : Solver :=
  { solver with configuration := { solver.configuration with verifySolutions := verify } }

/-- A solver fails to solve exactly what a grid is rejected for. -/
theorem solveWithStatistics_eq_error_iff (wellFormed : grid.WellFormed) (solver : Solver)
    (watch : Watch) (error : Error) :
    solver.solveWithStatistics watch grid = .error error ↔ grid.Rejects error := by
  rw [← Grid.search_eq_error_iff wellFormed Nat.one_pos solver watch, solveWithStatistics]
  cases solver.search watch 1 grid <;> simp [Except.map]

/-- A solver fails to tell the uniqueness of a grid with what the grid is rejected for. -/
theorem checkUniqueness_eq_error_iff (wellFormed : grid.WellFormed) (solver : Solver)
    (watch : Watch) (error : Error) :
    solver.checkUniqueness watch grid = .error error ↔ grid.Rejects error := by
  rw [← Grid.search_eq_error_iff wellFormed Nat.two_pos solver watch, checkUniqueness]
  cases solver.search watch 2 grid <;> simp [Except.map]

/-- A solver fails on the grids that are not valid, with what each is rejected for
and never with an internal fault or a place out of bounds, and what it returns does
not depend on whether it checks solutions. -/
theorem fails_iff_rejects (built : grid.Built) (solver : Solver) (watch : Watch) :
    (∀ error, solver.solveWithStatistics watch grid = .error error ↔ grid.Rejects error) ∧
    (∀ error, solver.checkUniqueness watch grid = .error error ↔ grid.Rejects error) ∧
    ((∃ error, grid.Rejects error) ↔ ¬grid.Valid) ∧
    (∀ error, grid.Rejects error →
      (∀ fault, error ≠ .internal fault) ∧ ∀ location, error ≠ .outOfBounds location) ∧
    ∀ verify,
      (solver.verifying verify).solveWithStatistics watch grid =
        solver.solveWithStatistics watch grid ∧
      (solver.verifying verify).checkUniqueness watch grid =
        solver.checkUniqueness watch grid := by
  have wellFormed := built.wellFormed
  refine ⟨solveWithStatistics_eq_error_iff wellFormed solver watch,
    checkUniqueness_eq_error_iff wellFormed solver watch, ?_, ?_, ?_⟩
  · rcases Grid.loads_or_rejects wellFormed with ⟨valid, layout, loads⟩ | ⟨invalid, rejects⟩
    · apply iff_of_false _ (not_not_intro valid)
      rintro ⟨error, rejects⟩
      exact loads.not_rejects error rejects
    · exact iff_of_true rejects invalid
  · intro error rejects
    cases rejects <;> simp
  · intro verify
    constructor
    · rw [solveWithStatistics, verifying, Grid.search_verify wellFormed Nat.one_pos]
      rfl
    · rw [checkUniqueness, verifying, Grid.search_verify wellFormed Nat.two_pos]
      rfl

/-- Solving the band does not fail, even with a cancelled token. -/
theorem solveWithStatistics_openBand :
    ¬∃ error, ({} : Solver).solveWithStatistics (.still true 0) Grid.openBand =
      .error error := by
  have fails := fails_iff_rejects Grid.built_openBand {} (.still true 0)
  rintro ⟨error, failed⟩
  exact fails.2.2.1.1 ⟨error, (fails.1 error).1 failed⟩ (by decide +kernel)

/-- The search of an undisturbed solver on a valid grid is the recursive search of
its board: it has the same solutions, of which there are as many of the first
successes as are wanted, it did the same work, and it is solved or unsatisfiable
when the recursion has solutions or not. -/
theorem search_refines_recursion (built : grid.Built) (valid : grid.Valid)
    (undisturbed : solver.Undisturbed watch) (positive : 0 < wanted) :
    ∃ layout board explored search,
      Layout.ofGrid grid = .ok layout ∧ Board.ofGrid layout grid = .ok board ∧
      Board.explore wanted 0 board {} = .ok explored ∧
      solver.search watch wanted grid = .ok search ∧
      search.solutions = explored.solutions ∧
      search.solutions.reverse = board.successes.take wanted ∧
      search.statistics.branches = explored.branches ∧
      search.statistics.backtracks = explored.backtracks ∧
      search.statistics.maxDepth = explored.maxDepth ∧
      search.phase = if explored.solutions = [] then .unsatisfiable else .solved := by
  rcases Grid.loads_or_rejects built.wellFormed with ⟨_, layout, loads⟩ | ⟨invalid, _⟩
  swap
  · exact absurd valid invalid
  obtain ⟨answer, answers, searches⟩ := loads.exists_answers solver positive
  rcases searches watch with searched | ⟨disturbed, _⟩
  swap
  · exact absurd undisturbed disturbed
  refine ⟨layout, .initial layout grid, answer.exploration, answer, loads.divided,
    loads.board, answers.explores, searched, rfl, ?_, rfl, rfl, rfl, ?_⟩
  · rw [answers.solutions, List.reverse_reverse]
  · rw [answers.phase, Search.endOf]
    simp only [List.isEmpty_iff]

/-- Searching the band for two solutions finds what the recursion does. -/
theorem search_openBand :
    ∃ layout board explored search, Layout.ofGrid Grid.openBand = .ok layout ∧
      Board.ofGrid layout Grid.openBand = .ok board ∧
      Board.explore 2 0 board {} = .ok explored ∧
      ({} : Solver).search (.still false 0) 2 Grid.openBand = .ok search ∧
      search.solutions = explored.solutions := by
  have undisturbed : ({} : Solver).Undisturbed (.still false 0) :=
    undisturbed_of_unlimited rfl fun _ => rfl
  have valid : Grid.openBand.Valid := by decide +kernel
  obtain ⟨layout, board, explored, search, divided, loaded, recursion, searched, same, _⟩ :=
    search_refines_recursion Grid.built_openBand valid undisturbed Nat.two_pos
  exact ⟨layout, board, explored, search, divided, loaded, recursion, searched, same⟩

end Solver
end Sudoku
