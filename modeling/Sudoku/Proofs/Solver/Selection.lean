import Sudoku.Proofs.Solver.Statistics

/-!
# Every selection of a run

The scan for the cell to branch on ends early at a cell with two candidates. It still finds
what a scan of all cells finds, provided that no open cell has fewer. That is the case
whenever a search comes to choose a cell: it does so on boards at rest only.
-/

namespace Sudoku

variable {alphabet : Alphabet} {grid : Grid alphabet}

namespace Board

variable {board : Board alphabet}

/-- The scan with an early end selects the first of the open cells with the least number of
candidates, at least two, and no cell only when none is open. -/
structure SelectsForemost (board : Board alphabet) : Prop where
  fullScan : board.selectCell? = board.fewest?
  selected : ∀ cell, board.selectCell? = some cell ↔ board.Foremost cell
  nothing : board.selectCell? = none ↔
    ∀ cell < board.layout.cellCount, board.assignedAt cell ≠ none
  atLeastTwo : ∀ cell, board.selectCell? = some cell → 2 ≤ (board.candidatesAt cell).size

/-- Boards at rest are those on which the early end is safe. -/
theorem AtRest.selectsForemost (atRest : board.AtRest) : board.SelectsForemost := by
  have fullScan := selectCell?_eq_fewest? atRest
  have selected (cell : Nat) : board.selectCell? = some cell ↔ board.Foremost cell := by
    rw [fullScan, fewest?_eq_some_iff]
  refine ⟨fullScan, selected, ?_, fun cell chosen => ?_⟩
  · rw [fullScan, fewest?_eq_none_iff]
  · have foremost := (selected cell).1 chosen
    exact atRest cell foremost.inside foremost.isOpen

end Board

namespace Grid

/-- A well-formed grid with a layout and a board can be searched. -/
theorem loads_of_ofGrid {layout : Layout} {board : Board alphabet}
    (wellFormed : grid.WellFormed) (divided : Layout.ofGrid grid = .ok layout)
    (loaded : Board.ofGrid layout grid = .ok board) : grid.Loads layout := by
  have coherent :=
    (Board.tracked_of_ofGrid (Layout.sound_of_ofGrid divided) wellFormed loaded).coherent
  obtain ⟨_, _, _, rfl⟩ := Board.ofGrid_eq_ok_iff.1 loaded
  exact ⟨divided, loaded, coherent⟩

end Grid

namespace Solver

/-- Either a run of a solver fails before it has a board to choose a cell on, or it comes to
its end, and whenever it chooses a cell, the scan with an early end selects the one that a
scan of all cells would choose. -/
theorem search_selects_foremost (built : grid.Built) (solver : Solver) (watch : Watch)
    (wanted : Nat) :
    ((∃ error, solver.search watch wanted grid = .error error) ∧
      ∀ layout board, Layout.ofGrid grid = .ok layout →
        Board.ofGrid layout grid ≠ .ok board) ∨
    ∃ layout board first total last, Layout.ofGrid grid = .ok layout ∧
      Board.ofGrid layout grid = .ok board ∧ Search.start board = .ok first ∧
      solver.search watch wanted grid = .ok last ∧
      Search.Reaches ⟨wanted, solver.configuration.verifySolutions⟩
        (watch.cancels (solver.tokenAt watch.start)) first total last ∧
      last.phase.isFinal = true ∧
      ∀ count search,
        Search.Reaches ⟨wanted, solver.configuration.verifySolutions⟩
          (watch.cancels (solver.tokenAt watch.start)) first count search →
        search.phase = .choosing → search.board.SelectsForemost := by
  rcases Grid.loads_or_rejects built.wellFormed with ⟨valid, _⟩ | ⟨_, error, rejects⟩
  · obtain ⟨layout, first, total, last, loads, started, sound, searched, reaches, final⟩ :=
      exists_search_reaches built valid solver watch wanted
    refine .inr ⟨layout, _, first, total, last, loads.divided, loads.board, started,
      searched, reaches, final, ?_⟩
    intro count search reaches choosing
    exact ((reaches.sound loads.coherent rfl sound).atRest choosing).selectsForemost
  · refine .inl ⟨⟨error, rejects.search_eq solver watch wanted⟩, ?_⟩
    intro layout board divided loaded
    exact (Grid.loads_of_ofGrid built.wellFormed divided loaded).not_rejects error rejects

/-- The first selection in the search of the band is its first cell, since its open cells all have
two candidates. -/
theorem search_selects_foremost_openBand :
    ∃ (board : Board .unsigned8) (first : Search .unsigned8),
      Search.start board = .ok first ∧ first.board.selectCell? = some 0 ∧
      first.board.Foremost 0 ∧ 2 ≤ (first.board.candidatesAt 0).size := by
  have trace : (do
      let layout ← Layout.ofGrid Grid.openBand
      let board ← Board.ofGrid layout Grid.openBand
      let first ← Search.start board
      .ok (first.phase, first.board.selectCell?)) = .ok (.choosing, some 0) := by
    decide +kernel
  simp only [Error.bind_eq_ok_iff, Except.ok.injEq, Prod.mk.injEq] at trace
  obtain ⟨layout, divided, board, loaded, first, started, choosing, chosen⟩ := trace
  obtain ⟨_, fails⟩ | ⟨_, _, _, _, _, sameLayout, sameBoard, sameFirst, _, _, _, selects⟩ :=
    search_selects_foremost Grid.built_openBand {} (.still false 0) 1
  · exact absurd loaded (fails layout board divided)
  · obtain rfl := Except.ok.inj (divided.symm.trans sameLayout)
    obtain rfl := Except.ok.inj (loaded.symm.trans sameBoard)
    obtain rfl := Except.ok.inj (started.symm.trans sameFirst)
    have foremost := selects 0 first .start choosing
    exact ⟨board, first, started, chosen, (foremost.selected 0).1 chosen,
      foremost.atLeastTwo 0 chosen⟩

end Solver
end Sudoku
