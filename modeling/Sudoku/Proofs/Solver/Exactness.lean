import Sudoku.Proofs.Solver.Outcome

/-!
# Exactness of a solver

An undisturbed solver finds a completion of every valid grid that has one, and
tells that there is none of every valid grid that has none. Asked for uniqueness,
it tells apart none, exactly one, and several. What it does claim is true even
when it is disturbed or the grid is not valid.
-/

namespace Sudoku
namespace Solver

variable {alphabet : Alphabet} {grid solution : Grid alphabet} {layout : Layout}
  {solver : Solver} {watch : Watch} {answer : Search alphabet}

/-- The solution that a search for one finds is the first success of the recursion. -/
theorem solutionOf_answer (answers : grid.Answers layout 1 answer) :
    solutionOf answer =
      match (Board.initial layout grid).successes with
      | [] => .unsatisfiable
      | success :: _ => .solved success := by
  have solutions := answers.solutions
  have phase := answers.phase
  unfold Search.endOf Search.exploration at phase
  rw [solutions] at phase
  cases listed : (Board.initial layout grid).successes with
  | nil =>
      rw [listed] at solutions phase
      rw [solutionOf, phase, solutions]
      rfl
  | cons success rest =>
      rw [listed] at solutions phase
      rw [solutionOf, phase, solutions]
      rfl

/-- How many solutions a search for two finds is how many successes the recursion
has. -/
theorem uniquenessOf_answer (answers : grid.Answers layout 2 answer) :
    uniquenessOf answer =
      match (Board.initial layout grid).successes with
      | [] => .impossible
      | [success] => .unique success
      | _ :: _ :: _ => .ambiguous := by
  have solutions := answers.solutions
  have phase := answers.phase
  unfold Search.endOf Search.exploration at phase
  rw [solutions] at phase
  cases listed : (Board.initial layout grid).successes with
  | nil =>
      rw [listed] at solutions phase
      rw [uniquenessOf, phase, solutions]
      rfl
  | cons success rest =>
      cases rest with
      | nil | cons =>
          rw [listed] at solutions phase
          rw [uniquenessOf, phase, solutions]
          rfl

/-- Solving a grid gives the first success of the recursion, or nothing when there is
none, unless it is cancelled. -/
theorem solve_cases (loads : grid.Loads layout) (solver : Solver) (watch : Watch) :
    solver.solve watch grid =
        .ok (match (Board.initial layout grid).successes with
          | [] => .unsatisfiable
          | success :: _ => .solved success) ∨
      (¬solver.Undisturbed watch ∧ solver.solve watch grid = .ok .cancelled) := by
  obtain ⟨answer, answers, searches⟩ := loads.exists_answers solver Nat.one_pos
  rcases searches watch with searched | ⟨disturbed, stopped, searched, cancelled⟩
  · left
    unfold solve solveWithStatistics
    rw [searched, ← solutionOf_answer answers]
    rfl
  · refine .inr ⟨disturbed, ?_⟩
    simp only [solve, solveWithStatistics, searched, solutionOf, cancelled, Except.map]

/-- The uniqueness of a grid is how many successes the recursion has, unless it is
cancelled. -/
theorem checkUniqueness_cases (loads : grid.Loads layout) (solver : Solver)
    (watch : Watch) :
    solver.checkUniqueness watch grid =
        .ok (match (Board.initial layout grid).successes with
          | [] => .impossible
          | [success] => .unique success
          | _ :: _ :: _ => .ambiguous) ∨
      (¬solver.Undisturbed watch ∧ solver.checkUniqueness watch grid = .ok .cancelled) := by
  obtain ⟨answer, answers, searches⟩ := loads.exists_answers solver Nat.two_pos
  rcases searches watch with searched | ⟨disturbed, stopped, searched, cancelled⟩
  · left
    unfold checkUniqueness
    rw [searched, ← uniquenessOf_answer answers]
    rfl
  · refine .inr ⟨disturbed, ?_⟩
    simp only [checkUniqueness, searched, uniquenessOf, cancelled, Except.map]

/-- The successes of the recursion are the completions of the grid. -/
theorem mem_successes_iff (loads : grid.Loads layout) (solution : Grid alphabet) :
    solution ∈ (Board.initial layout grid).successes ↔ grid.IsCompletion solution :=
  loads.coherent.tree.mem_successes_iff.trans loads.completes_iff

/-- A solver that is undisturbed solves every valid grid that has a completion, and
finds every other valid grid unsatisfiable. Whether or not the grid is valid and the
solver undisturbed, a solution is a completion, and an unsatisfiable grid has none. -/
theorem solve_exact (built : grid.Built) (solver : Solver) (watch : Watch) :
    (grid.Valid → solver.Undisturbed watch →
      ((∃ completion, grid.IsCompletion completion) →
        ∃ solution, solver.solve watch grid = .ok (.solved solution)) ∧
      ((¬∃ completion, grid.IsCompletion completion) →
        solver.solve watch grid = .ok .unsatisfiable)) ∧
    (∀ solution, solver.solve watch grid = .ok (.solved solution) →
      grid.IsCompletion solution) ∧
    (solver.solve watch grid = .ok .unsatisfiable →
      ¬∃ completion, grid.IsCompletion completion) := by
  rcases Grid.loads_or_rejects built.wellFormed with
    ⟨_, layout, loads⟩ | ⟨invalid, error, rejects⟩
  swap
  · have failed : solver.solve watch grid = .error error := by
      unfold solve solveWithStatistics
      rw [rejects.search_eq]
      rfl
    rw [failed]
    refine ⟨?_, by simp, by simp⟩
    intro valid
    exact absurd valid invalid
  have completions := mem_successes_iff loads
  rcases solve_cases loads solver watch with solved | ⟨disturbed, cancelled⟩
  swap
  · rw [cancelled]
    refine ⟨?_, by simp, by simp⟩
    intro _ undisturbed
    exact absurd undisturbed disturbed
  rw [solved]
  cases listed : (Board.initial layout grid).successes with
  | nil =>
      have none : ¬∃ completion, grid.IsCompletion completion := by
        rintro ⟨completion, completes⟩
        rw [← completions, listed] at completes
        simp at completes
      refine ⟨?_, by simp, fun _ => none⟩
      intro _ _
      exact ⟨fun completed => absurd completed none, fun _ => rfl⟩
  | cons success rest =>
      have completes : grid.IsCompletion success := by
        rw [← completions, listed]
        exact List.mem_cons_self
      refine ⟨?_, ?_, by simp⟩
      · intro _ _
        exact ⟨fun _ => ⟨success, rfl⟩, fun none => absurd ⟨success, completes⟩ none⟩
      · intro solution same
        rw [Except.ok.injEq, Solution.solved.injEq] at same
        rw [← same]
        exact completes

/-- The band is solved. -/
theorem solve_openBand :
    ∃ solution, ({} : Solver).solve (.still false 0) Grid.openBand =
      .ok (.solved solution) :=
  ((solve_exact Grid.built_openBand {} (.still false 0)).1 (by decide +kernel)
    (undisturbed_of_unlimited rfl fun _ => rfl)).1
      ⟨Grid.fullBand Grid.one Grid.four, by decide +kernel⟩

/-- A solver that is undisturbed finds a valid grid impossible when it has no
completion, unique when it has exactly one, and ambiguous when it has several. -/
theorem checkUniqueness_exact (built : grid.Built) (valid : grid.Valid) {solver : Solver}
    {watch : Watch} (undisturbed : solver.Undisturbed watch) :
    (solver.checkUniqueness watch grid = .ok .impossible ↔
      ¬∃ completion, grid.IsCompletion completion) ∧
    (∀ solution, solver.checkUniqueness watch grid = .ok (.unique solution) ↔
      grid.IsCompletion solution ∧
        ∀ completion, grid.IsCompletion completion → completion = solution) ∧
    (solver.checkUniqueness watch grid = .ok .ambiguous ↔
      ∃ first second, first ≠ second ∧
        grid.IsCompletion first ∧ grid.IsCompletion second) := by
  rcases Grid.loads_or_rejects built.wellFormed with ⟨_, layout, loads⟩ | ⟨invalid, _⟩
  swap
  · exact absurd valid invalid
  rcases checkUniqueness_cases loads solver watch with checked | ⟨disturbed, _⟩
  swap
  · exact absurd undisturbed disturbed
  have distinct := loads.coherent.tree.nodup_successes
  rw [checked]
  simp only [← mem_successes_iff loads]
  cases listed : (Board.initial layout grid).successes with
  | nil => simp
  | cons success rest =>
      cases rest with
      | nil => simp [eq_comm]
      | cons other rest =>
          rw [listed] at distinct
          have different : success ≠ other := by
            rintro rfl
            simp at distinct
          have first : success ∈ success :: other :: rest := by simp
          have second : other ∈ success :: other :: rest := by simp
          refine ⟨?_, ?_, ?_⟩
          · apply iff_of_false (by simp)
            intro none
            exact none ⟨success, first⟩
          · intro solution
            apply iff_of_false (by simp)
            rintro ⟨_, only⟩
            exact different ((only success first).trans (only other second).symm)
          · exact iff_of_true rfl ⟨success, other, different, first, second⟩

/-- The band is ambiguous. -/
theorem checkUniqueness_openBand :
    ({} : Solver).checkUniqueness (.still false 0) Grid.openBand = .ok .ambiguous :=
  (checkUniqueness_exact Grid.built_openBand (by decide +kernel)
    (undisturbed_of_unlimited rfl fun _ => rfl)).2.2.2
      ⟨Grid.fullBand Grid.one Grid.four, Grid.fullBand Grid.four Grid.one,
        by decide +kernel, by decide +kernel, by decide +kernel⟩

end Solver
end Sudoku
