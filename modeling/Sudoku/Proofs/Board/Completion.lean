import Sudoku.Proofs.Board.Propagation
import Sudoku.Proofs.Grid.Completion

/-!
# Completions of a board

The completions of a board are those of its working grid. A commit keeps the
completions that hold the committed value. Every completion holds some candidate
of each open cell, so a forced commit keeps all completions and a dead cell rules
them out, and a board without open cells is its own only completion.
-/

namespace Sudoku

/-- Whether the second cell is a peer of the first. -/
def Layout.Peers (layout : Layout) (first second : Nat) : Prop :=
  second ∈ layout.peersOf first

namespace Board

variable {alphabet : Alphabet} {layout : Layout} {given : Grid alphabet}
  {board next last : Board alphabet} {solution : Grid alphabet} {cell value : Nat}
  {signals : List Signal}

/-- A solution completes a board when it fills the working grid by the peers of the
layout. -/
def Completes (solution : Grid alphabet) (board : Board alphabet) : Prop :=
  Grid.Fills board.layout.Peers solution board.grid

namespace Coherent

/-- The number of cells of the working grid. -/
theorem grid_cellCount (coherent : Coherent layout given board) :
    board.grid.cellCount = layout.cellCount := by
  rw [Grid.cellCount_eq_of_frame_eq coherent.frame_eq, ← coherent.cellCount_eq]

/-- A completion holds the value of some candidate in every open cell. -/
theorem exists_candidate (coherent : Coherent layout given board)
    (completes : Completes solution board) (inside : cell < layout.cellCount)
    (isOpen : board.assignedAt cell = none) :
    ∃ value, (board.candidatesAt cell).contains value = true ∧
      solution.valueAt cell = given.domain.value? value := by
  obtain ⟨symbol, held⟩ :=
    completes.exists_valueAt (by rw [coherent.grid_cellCount]; exact inside)
  have inDomain := completes.inDomain cell symbol held
  rw [coherent.domain_eq, Domain.contains_iff] at inDomain
  obtain ⟨value, named⟩ := inDomain
  refine ⟨value, ?_, held.trans named.symm⟩
  rw [coherent.candidates cell inside]
  refine ⟨isOpen, Domain.lt_size_of_value? named, ?_⟩
  intro peer member isAssigned
  have peerValue := coherent.value peer
  rw [isAssigned, Option.bind_some, named] at peerValue
  have peerHeld := completes.keeps peer symbol peerValue
  apply completes.distinct cell peer _ (held.trans peerHeld.symm)
  rw [coherent.layout_eq]
  exact member

/-- A board with a dead cell has no completion. -/
theorem not_completes_of_dead (coherent : Coherent layout given board)
    (dead : board.Dead cell) : ¬Completes solution board := by
  intro completes
  have inside := dead.inside
  rw [coherent.layout_eq] at inside
  obtain ⟨value, candidate, _⟩ := coherent.exists_candidate completes inside dead.isOpen
  rw [dead.noCandidate] at candidate
  simp at candidate

/-- No two peers hold equal values in the working grid. -/
theorem respected (coherent : Coherent layout given board) :
    layout.Respected board.grid := by
  intro cell peer member symbol held peerHeld
  rw [coherent.value] at held peerHeld
  obtain ⟨value, isAssigned, named⟩ := Option.bind_eq_some_iff.1 held
  obtain ⟨other, peerAssigned, peerNamed⟩ := Option.bind_eq_some_iff.1 peerHeld
  rw [Domain.index_eq_of_value? peerNamed named] at peerAssigned
  exact coherent.distinct cell peer member value isAssigned peerAssigned

/-- The working grid has the dimensions of the layout. -/
theorem fits_grid (coherent : Coherent layout given board) :
    layout.fits board.grid = true := by
  unfold Layout.fits
  rw [Grid.width_eq_of_frame_eq coherent.frame_eq,
    Grid.height_eq_of_frame_eq coherent.frame_eq]
  exact coherent.fits

/-- Without open cells the working grid is full. -/
theorem isFull_of_full (coherent : Coherent layout given board)
    (full : ∀ cell < layout.cellCount, board.assignedAt cell ≠ none) :
    board.grid.isFull = true := by
  rw [Grid.isFull_iff]
  intro cell inside
  rw [coherent.grid_cellCount] at inside
  rw [Option.isSome_iff_ne_none, ne_eq, coherent.valueAt_eq_none_iff]
  exact full cell inside

/-- A board without open cells is its own only completion. -/
theorem completes_iff_of_full (coherent : Coherent layout given board)
    (full : ∀ cell < layout.cellCount, board.assignedAt cell ≠ none) :
    Completes solution board ↔ solution = board.grid := by
  have isFull := coherent.isFull_of_full full
  have exists_value {cell : Nat} (inside : cell < layout.cellCount) :
      ∃ symbol, board.grid.valueAt cell = some symbol := by
    rw [← coherent.grid_cellCount] at inside
    exact Option.isSome_iff_exists.1 ((Grid.isFull_iff _).1 isFull cell inside)
  constructor
  · intro completes
    apply Grid.eq_of_frame_eq completes.frame_eq
    intro cell
    by_cases inside : cell < layout.cellCount
    · obtain ⟨symbol, held⟩ := exists_value inside
      rw [held, completes.keeps cell symbol held]
    · rw [← coherent.cells_size] at inside
      rw [Grid.valueAt_eq_none_of_le (Nat.le_of_not_lt inside)]
      rw [← Grid.cells_size_eq_of_frame_eq completes.frame_eq] at inside
      exact Grid.valueAt_eq_none_of_le (Nat.le_of_not_lt inside)
  · rintro rfl
    refine ⟨rfl, isFull, ?_, fun _ _ held => held, ?_⟩
    · intro cell symbol held
      rw [coherent.value] at held
      obtain ⟨value, _, named⟩ := Option.bind_eq_some_iff.1 held
      rw [coherent.domain_eq, Domain.contains_iff]
      exact ⟨value, named⟩
    · intro first second peers same
      unfold Layout.Peers at peers
      rw [coherent.layout_eq] at peers
      obtain ⟨symbol, held⟩ := exists_value (coherent.sound.lt_of_mem peers)
      exact coherent.respected first second peers symbol held (same.symm.trans held)

end Coherent

/-- A commit keeps the completions that hold the committed value. -/
theorem Committed.completes_iff (coherent : Coherent layout given board)
    (committed : Committed layout given board cell value next signals) :
    Completes solution next ↔
      Completes solution board ∧ solution.valueAt cell = given.domain.value? value := by
  have isOpen := committed.isOpen coherent
  obtain ⟨symbol, named⟩ := given.domain.exists_value?
    (coherent.lt_size_of_candidate committed.inside committed.candidate)
  have frames : next.grid.frame = board.grid.frame :=
    committed.coherent.frame_eq.trans coherent.frame_eq.symm
  have domains := Grid.domain_eq_of_frame_eq frames
  have layouts : next.layout = board.layout :=
    committed.coherent.layout_eq.trans coherent.layout_eq.symm
  have values (other : Nat) : next.grid.valueAt other =
      if other = cell then some symbol else board.grid.valueAt other := by
    rw [committed.coherent.value, coherent.value, committed.assignedAt coherent]
    split
    · rw [Option.bind_some, named]
    · rfl
  rw [named]
  constructor
  · intro completes
    have cellHeld : solution.valueAt cell = some symbol :=
      completes.keeps cell symbol (by rw [values, if_pos rfl])
    refine ⟨⟨completes.frame_eq.trans frames, completes.full, ?_, ?_, ?_⟩, cellHeld⟩
    · rw [← domains]
      exact completes.inDomain
    · intro other held isHeld
      have different : other ≠ cell := by
        rintro rfl
        rw [coherent.value, isOpen] at isHeld
        simp at isHeld
      exact completes.keeps other held (by rw [values, if_neg different, isHeld])
    · rw [← layouts]
      exact completes.distinct
  · rintro ⟨completes, cellHeld⟩
    refine ⟨completes.frame_eq.trans frames.symm, completes.full, ?_, ?_, ?_⟩
    · rw [domains]
      exact completes.inDomain
    · intro other held isHeld
      rw [values] at isHeld
      split at isHeld
      · next same => rw [same, cellHeld, isHeld]
      · exact completes.keeps other held isHeld
    · rw [layouts]
      exact completes.distinct

/-- Forced commits keep all completions. -/
theorem ForcedRun.completes_iff (coherent : Coherent layout given board) {count : Nat}
    (run : ForcedRun board count last) :
    Completes solution last ↔ Completes solution board := by
  induction run with
  | rest board => rfl
  | @force board next last cell value count signals single success _ inductionHypothesis =>
      have committed := coherent.committed success
      rw [inductionHypothesis committed.coherent, committed.completes_iff coherent]
      apply and_iff_left_of_imp
      intro completes
      obtain ⟨index, candidate, held⟩ := coherent.exists_candidate completes
        committed.inside (committed.isOpen coherent)
      rw [held, (CandidateSet.contains_iff_of_toList_eq_singleton single index).1 candidate]

end Board
end Sudoku
