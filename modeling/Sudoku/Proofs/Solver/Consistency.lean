import Sudoku.Proofs.Solver.Exactness

/-!
# Consistent grids

A grid is consistent when it does not contradict itself, and solvable when it is
consistent and has a completion. Of a grid whose values lie in its domain, a solver
rejects an inconsistency and nothing else. The completions of a valid grid are valid.
-/

namespace Sudoku
namespace Grid

variable {alphabet : Alphabet} {grid solution : Grid alphabet}

/-- A grid without a contradiction: every block is of one shape, and no two rivals hold
equal values. -/
structure Consistent (grid : Grid alphabet) : Prop where
  uniform : ∀ cell < grid.cellCount, grid.UniformAt cell
  distinct : ∀ first second, grid.Rivals first second → ∀ symbol,
    grid.valueAt first = some symbol → grid.valueAt second ≠ some symbol

/-- A consistent grid with a completion. -/
def Solvable (grid : Grid alphabet) : Prop :=
  grid.Consistent ∧ ∃ solution, grid.IsCompletion solution

/-- A grid with its values in its domain is valid when it is consistent. -/
theorem valid_iff_consistent (wellFormed : grid.WellFormed)
    (checked : grid.checkValues = .ok ()) : grid.Valid ↔ grid.Consistent := by
  constructor
  · intro valid
    exact ⟨valid.uniform, valid.distinct⟩
  · intro consistent
    exact ⟨consistent.uniform, (Board.checkValues_eq_ok_iff grid wellFormed).1 checked,
      consistent.distinct⟩

/-- A grid with its values in its domain is rejected as contradicting itself. -/
theorem Rejects.exists_invalid {error : Error} (rejects : grid.Rejects error)
    (checked : grid.checkValues = .ok ()) :
    ∃ location reason, error = .invalid location reason := by
  cases rejects with
  | shapes _ => exact ⟨_, _, rfl⟩
  | values _ outside =>
      rw [checked] at outside
      simp at outside
  | rivals _ _ _ _ _ => exact ⟨_, _, rfl⟩

/-- A grid with its values in its domain is solved without failing when it is consistent,
and rejected for a contradiction when it is not. -/
theorem solves_or_rejects (wellFormed : grid.WellFormed) (checked : grid.checkValues = .ok ()) :
    (grid.Consistent ∧ ∀ (solver : Solver) (watch : Watch),
      ∃ outcome, solver.solve watch grid = .ok outcome) ∨
    (¬grid.Consistent ∧ ∃ location reason, grid.Rejects (.invalid location reason) ∧
      ∀ (solver : Solver) (watch : Watch),
        solver.solve watch grid = .error (.invalid location reason)) := by
  rcases loads_or_rejects wellFormed with ⟨valid, layout, loads⟩ | ⟨invalid, error, rejects⟩
  · refine .inl ⟨(valid_iff_consistent wellFormed checked).1 valid, ?_⟩
    intro solver watch
    rcases Solver.solve_cases loads solver watch with solved | ⟨_, cancelled⟩
    · exact ⟨_, solved⟩
    · exact ⟨_, cancelled⟩
  · rw [valid_iff_consistent wellFormed checked] at invalid
    obtain ⟨location, reason, rfl⟩ := rejects.exists_invalid checked
    refine .inr ⟨invalid, location, reason, rejects, ?_⟩
    intro solver watch
    unfold Solver.solve Solver.solveWithStatistics
    rw [rejects.search_eq]
    rfl

/-- Cells of one frame are rivals in both grids. -/
theorem rivals_iff_of_frame_eq {first second : Grid alphabet}
    (frames : first.frame = second.frame) (cell other : Nat) :
    first.Rivals cell other ↔ second.Rivals cell other := by
  unfold Rivals
  rw [cellCount_eq_of_frame_eq frames, width_eq_of_frame_eq frames,
    block_eq_of_frame_eq frames]

/-- A completion of a valid grid is valid. -/
theorem IsCompletion.valid (completes : grid.IsCompletion solution) (valid : grid.Valid) :
    solution.Valid where
  uniform cell inside member belongs := by
    have frames := completes.frame_eq
    rw [cellCount_eq_of_frame_eq frames] at inside
    rw [block_eq_of_frame_eq frames] at belongs
    rw [shapeAt_eq_of_frame_eq frames, shapeAt_eq_of_frame_eq frames]
    exact valid.uniform cell inside member belongs
  inDomain cell symbol held := by
    rw [domain_eq_of_frame_eq completes.frame_eq]
    exact completes.inDomain cell symbol held
  distinct first second rivals symbol held heldToo := by
    rw [rivals_iff_of_frame_eq completes.frame_eq] at rivals
    exact completes.distinct first second rivals (held.trans heldToo.symm)

end Grid
end Sudoku
