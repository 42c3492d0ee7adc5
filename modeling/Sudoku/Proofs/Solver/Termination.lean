import Sudoku.Proofs.Board.Calls
import Sudoku.Proofs.Search.Bounds
import Sudoku.Proofs.Solver.Cancellation

/-!
# Termination of a solver

The search of a solver comes to its end on every valid grid, whatever its token does and
however many solutions are wanted. On the way it never has more choice points than the
grid has cells without a value, and it tries no more branches than there are in a tree
that branches over the whole domain at each of these cells.
-/

namespace Sudoku

variable {alphabet : Alphabet} {grid : Grid alphabet} {layout : Layout}

namespace Grid

/-- The cells without a value. -/
def blanks (grid : Grid alphabet) : List Nat :=
  (List.range grid.cellCount).filter fun number => (grid.valueAt number).isNone

/-- The open cells of the board of a grid are those without a value. -/
theorem Loads.openCells_initial (loads : grid.Loads layout) :
    (Board.initial layout grid).openCells = grid.blanks := by
  have coherent := loads.coherent
  unfold Board.openCells blanks
  rw [coherent.layout_eq, coherent.cellCount_eq]
  apply List.filter_congr
  intro cell _
  rw [Bool.eq_iff_iff, Board.isOpen_iff, ← coherent.valueAt_eq_none_iff, Option.isNone_iff_eq_none]
  rfl

end Grid

namespace Board

variable {given : Grid alphabet} {board : Board alphabet}

/-- Propagation of a coherent board ends, and every cell that it closes is on the trail. -/
theorem Coherent.exists_propagate_mark (coherent : Coherent layout given board) :
    ∃ last propagation, board.propagate = .ok (last, propagation) ∧
      last.mark + last.openCount = board.mark + board.openCount := by
  obtain ⟨result, propagated, settled⟩ := coherent.exists_propagate
  cases settled with
  | rest run | dead run =>
      have longer := run.mark_eq coherent
      have fewer := run.openCount_eq
      exact ⟨_, _, propagated, by omega⟩

end Board

namespace Solver

/-- The search of a valid grid comes to its end, whatever its token does. All along, it has
no more choice points than the grid has blank cells, each for another one of them; it has
tried no more branches than a tree over the whole domain at these cells has; and its board
can be propagated and rolled back. -/
theorem search_terminates (built : grid.Built) (valid : grid.Valid) (solver : Solver)
    (watch : Watch) (wanted : Nat) :
    ∃ layout board first, Layout.ofGrid grid = .ok layout ∧
      Board.ofGrid layout grid = .ok board ∧ Search.start board = .ok first ∧
      (∃ total last, solver.search watch wanted grid = .ok last ∧
        Search.Reaches ⟨wanted, solver.configuration.verifySolutions⟩
          (watch.cancels (solver.tokenAt watch.start)) first total last ∧
        last.phase.isFinal = true) ∧
      ∀ count search,
        Search.Reaches ⟨wanted, solver.configuration.verifySolutions⟩
          (watch.cancels (solver.tokenAt watch.start)) first count search →
        count ≤ Search.stepBound grid.domain.size grid.blanks.length + 1 ∧
        search.choices.length ≤ grid.blanks.length ∧
        (search.choices.map ChoicePoint.cell).Nodup ∧
        (∀ point ∈ search.choices, point.cell ∈ grid.blanks) ∧
        search.statistics.branches ≤
          ∑ depth ∈ Finset.range grid.blanks.length, grid.domain.size ^ (depth + 1) ∧
        (∀ mark, ∃ restored, search.board.rollback mark = .ok restored ∧
          restored.mark = min mark search.board.mark) ∧
        ∃ last propagation, search.board.propagate = .ok (last, propagation) ∧
          last.mark + last.openCount = search.board.mark + search.board.openCount := by
  rcases Grid.loads_or_rejects built.wellFormed with ⟨_, layout, loads⟩ | ⟨invalid, _⟩
  swap
  · exact absurd valid invalid
  have coherent := loads.coherent
  have fresh : (Board.initial layout grid).mark = 0 := rfl
  have blanks := loads.openCells_initial
  have openCount := coherent.length_openCells
  rw [blanks] at openCount
  obtain ⟨first, _, started, sound, _⟩ := Search.exists_start ⟨1, true⟩ coherent Nat.one_pos
  refine ⟨layout, .initial layout grid, first, loads.divided, loads.board, started, ?_, ?_⟩
  · obtain ⟨total, last, completed, reaches, final⟩ :=
      Search.exists_complete_of_start coherent fresh sound started
        ⟨wanted, solver.configuration.verifySolutions⟩
        (watch.cancels (solver.tokenAt watch.start))
    exact ⟨total, last, (search_eq_complete loads solver watch wanted).trans completed,
      reaches, final⟩
  · intro count search reaches
    obtain ⟨within, _, branches⟩ := reaches.bounded coherent fresh sound started
    have stacked := (reaches.sound coherent fresh sound).stacked
    have tracked := (Board.tracked_of_ofGrid coherent.sound coherent.wellFormed
      loads.board).of_descends stacked.descends
    have domains : first.board.domainSize = grid.domain.size :=
      congrArg Domain.size (coherent.of_descends sound.stacked.descends).domain_eq
    have steps := Search.stepBound_le_of_le grid.domain.size (Search.openCount_start started)
    rw [domains] at within
    rw [openCount]
    refine ⟨by omega, stacked.length_le coherent, stacked.nodup_cells, ?_, branches, ?_,
      tracked.coherent.exists_propagate_mark⟩
    · rw [← blanks]
      exact stacked.mem_openCells coherent
    · intro mark
      obtain ⟨restored, success, _, marks⟩ := tracked.exists_rollback mark
      exact ⟨restored, success, marks⟩

/-- The search of the band for two solutions ends, after no more than four branches for the first
of its four open cells, sixteen for the second, and so on. -/
theorem search_terminates_openBand :
    ∃ last, ({} : Solver).search (.still false 0) 2 Grid.openBand = .ok last ∧
      last.phase.isFinal = true ∧ last.statistics.branches ≤ 4 + 16 + 64 + 256 := by
  obtain ⟨_, _, _, _, _, _, ⟨_, last, searched, reaches, final⟩, bounded⟩ :=
    search_terminates Grid.built_openBand (by decide +kernel) {} (.still false 0) 2
  obtain ⟨_, _, _, _, branches, _⟩ := bounded _ _ reaches
  have total : ∑ depth ∈ Finset.range Grid.openBand.blanks.length,
      Grid.openBand.domain.size ^ (depth + 1) = 4 + 16 + 64 + 256 := by
    decide +kernel
  rw [total] at branches
  exact ⟨last, searched, final, branches⟩

end Solver
end Sudoku
