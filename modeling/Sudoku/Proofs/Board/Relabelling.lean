import Sudoku.Board.Propagation
import Sudoku.Proofs.Board.Coherence
import Sudoku.Proofs.Grid.Relabelling
import Sudoku.Search.Selection

/-!
# Relabelled boards

A board works on the indices of values. Boards of relabelled grids have the same cells
assigned and the same candidates, and every operation keeps it so: it picks the same
cells, tells the same, and fails with the same error.
-/

namespace Sudoku
namespace Board

variable {alphabet otherAlphabet : Alphabet} {domain : Domain alphabet}
  {otherDomain : Domain otherAlphabet} {board : Board alphabet} {other : Board otherAlphabet}

/-- Two boards that differ in the symbols of their working grids only. -/
structure Relabels (otherDomain : Domain otherAlphabet) (domain : Domain alphabet)
    (other : Board otherAlphabet) (board : Board alphabet) : Prop where
  layout_eq : other.layout = board.layout
  assigned_eq : other.assigned = board.assigned
  candidates_eq : other.candidates = board.candidates
  trail_eq : other.trail = board.trail
  grid : other.grid.Relabels otherDomain domain board.grid

/-- Working off a queue commits the value that is called for, and goes on from there. -/
theorem settle_of_force {queue remaining : List Nat} {cell value : Nat}
    (moved : board.move queue = .force cell value remaining) (forced : Nat) :
    board.settle queue forced = board.commit cell value >>= fun result =>
      match result.2.findSome? Signal.dead? with
      | some dead => .ok (result.1, .contradiction dead)
      | none => result.1.settle ((result.2.filterMap Signal.forced?).reverse ++ remaining)
          (forced + 1) := by
  rw [settle, moved]
  dsimp only
  split
  · next failed => rw [failed]; rfl
  · next success => rw [success]; rfl

namespace Relabels

variable (relabels : other.Relabels otherDomain domain board)

include relabels

/-! ### Reading -/

theorem domainSize_eq : other.domainSize = board.domainSize :=
  relabels.grid.size_domain_eq

theorem assignedAt_eq (cell : Nat) : other.assignedAt cell = board.assignedAt cell := by
  unfold assignedAt
  rw [relabels.assigned_eq]

theorem isOpen_eq : other.isOpen = board.isOpen := by
  funext cell
  unfold isOpen
  rw [relabels.assignedAt_eq]

theorem candidatesAt_eq : other.candidatesAt = board.candidatesAt := by
  funext cell
  unfold candidatesAt
  rw [relabels.candidates_eq, relabels.domainSize_eq]

theorem openCount_eq : other.openCount = board.openCount := by
  unfold openCount
  rw [relabels.assigned_eq]

theorem mark_eq : other.mark = board.mark := by
  unfold mark
  rw [relabels.trail_eq]

theorem openPeers_eq (cell : Nat) : other.openPeers cell = board.openPeers cell := by
  unfold openPeers
  rw [relabels.layout_eq, relabels.isOpen_eq]

theorem signal?_eq : other.signal? = board.signal? := by
  funext value peer
  unfold signal?
  rw [relabels.candidatesAt_eq]

/-! ### Choosing cells -/

theorem move_eq (queue : List Nat) : other.move queue = board.move queue := by
  induction queue with
  | nil => rfl
  | cons cell rest inductionHypothesis =>
      unfold move
      rw [relabels.isOpen_eq, relabels.candidatesAt_eq, inductionHypothesis]

theorem pending_eq : other.pending = board.pending := by
  unfold pending
  rw [relabels.assigned_eq, relabels.isOpen_eq, relabels.candidatesAt_eq]

theorem scan_eq (cells : List Nat) (best : Option (Nat × Nat)) :
    other.scan cells best = board.scan cells best := by
  induction cells generalizing best with
  | nil => rfl
  | cons cell rest inductionHypothesis =>
      unfold scan
      simp only [relabels.isOpen_eq, relabels.candidatesAt_eq, inductionHypothesis]

theorem selectCell?_eq : other.selectCell? = board.selectCell? := by
  unfold selectCell?
  rw [relabels.layout_eq, relabels.scan_eq]

/-! ### Committing and undoing -/

theorem assign {grid : Grid alphabet} {otherGrid : Grid otherAlphabet}
    (grids : otherGrid.Relabels otherDomain domain grid) (cell value : Nat) :
    (other.assign otherGrid cell value).Relabels otherDomain domain
      (board.assign grid cell value) where
  layout_eq := relabels.layout_eq
  assigned_eq := by
    simp only [Board.assign, relabels.assigned_eq]
  candidates_eq := by
    simp only [Board.assign, relabels.candidates_eq, relabels.openPeers_eq,
      relabels.domainSize_eq]
  trail_eq := by
    simp only [Board.assign, relabels.trail_eq]
  grid := grids

theorem reopen {grid : Grid alphabet} {otherGrid : Grid otherAlphabet}
    (grids : otherGrid.Relabels otherDomain domain grid) (cell value : Nat) :
    (other.reopen otherGrid cell value).Relabels otherDomain domain
      (board.reopen grid cell value) where
  layout_eq := relabels.layout_eq
  assigned_eq := by
    simp only [Board.reopen, relabels.assigned_eq]
  candidates_eq := by
    simp only [Board.reopen, relabels.candidates_eq, relabels.assigned_eq,
      relabels.layout_eq, relabels.domainSize_eq]
  trail_eq := relabels.trail_eq
  grid := grids

/-- A commit writes the value of the index, whichever symbol that is. -/
theorem commit_agree (cell value : Nat) :
    Error.Agree (fun result original =>
        result.1.Relabels otherDomain domain original.1 ∧ result.2 = original.2)
      (other.commit cell value) (board.commit cell value) := by
  unfold commit
  rw [relabels.assigned_eq, relabels.candidatesAt_eq, relabels.layout_eq]
  split
  · exact .error rfl
  · exact .error rfl
  · split
    · rw [relabels.grid.other_domain_eq, relabels.grid.domain_eq]
      have related := Domain.rel_value? relabels.grid.domain_size_eq value
      have written := relabels.grid.setValue_agree (board.layout.positionOf cell) related
      generalize otherDomain.value? value = otherNamed, domain.value? value = named
        at related written ⊢
      cases related with
      | none => exact .error rfl
      | some same =>
          refine Error.Agree.map written fun otherGrid grid grids => ⟨?_, ?_⟩
          · exact relabels.assign grids cell value
          · rw [relabels.openPeers_eq, relabels.signal?_eq]
    · exact .error rfl

theorem release_agree (cell : Nat) :
    Error.Agree (Relabels otherDomain domain) (other.release cell) (board.release cell) := by
  unfold release
  rw [relabels.assignedAt_eq, relabels.layout_eq]
  split
  · exact .error rfl
  · refine Error.Agree.map
      (relabels.grid.setValue_agree (board.layout.positionOf cell) .none) ?_
    exact fun _ _ grids => relabels.reopen grids cell _

theorem releaseEntry_agree (entry : Option Nat) :
    Error.Agree (Relabels otherDomain domain) (other.releaseEntry entry)
      (board.releaseEntry entry) := by
  cases entry with
  | none => exact .ok relabels
  | some cell => exact relabels.release_agree cell

/-- Rolling back undoes the same commits. -/
theorem rollback_agree (mark : Nat) :
    Error.Agree (Relabels otherDomain domain) (other.rollback mark) (board.rollback mark) := by
  unfold rollback
  rw [relabels.trail_eq]
  refine Error.Agree.foldlM (fun _ _ entry related => related.releaseEntry_agree entry) _ ?_
  exact ⟨relabels.layout_eq, relabels.assigned_eq, relabels.candidates_eq, rfl, relabels.grid⟩

/-! ### Propagating -/

omit relabels in
/-- Working off a queue commits the same values in the same order. -/
theorem settle_agree (relabels : other.Relabels otherDomain domain board)
    (queue : List Nat) (forced : Nat) :
    Error.Agree (fun result original =>
        result.1.Relabels otherDomain domain original.1 ∧ result.2 = original.2)
      (other.settle queue forced) (board.settle queue forced) := by
  -- Every commit closes an open cell, so their number goes down.
  induction count : board.openCount using Nat.strong_induction_on
    generalizing board other queue forced with
  | _ count inductionHypothesis =>
  cases moved : board.move queue with
  | rest =>
      unfold settle
      rw [relabels.move_eq, moved]
      exact .ok ⟨relabels, rfl⟩
  | halt cell =>
      unfold settle
      rw [relabels.move_eq, moved]
      exact .ok ⟨relabels, rfl⟩
  | force cell value remaining =>
      rw [settle_of_force moved, settle_of_force ((relabels.move_eq queue).trans moved)]
      refine (relabels.commit_agree cell value).of_outcomes.bind ?_
      rintro ⟨otherNext, signals⟩ ⟨next, _⟩ ⟨⟨nexts, rfl⟩, _, success⟩
      dsimp only
      split
      · exact .ok ⟨nexts, rfl⟩
      · have closed := openCount_commit success
        exact inductionHypothesis next.openCount (by omega) nexts _ _ rfl

theorem propagate_agree :
    Error.Agree (fun result original =>
        result.1.Relabels otherDomain domain original.1 ∧ result.2 = original.2)
      other.propagate board.propagate := by
  unfold propagate
  rw [relabels.pending_eq]
  exact relabels.settle_agree _ 0

end Relabels

/-! ### Building -/

/-- Relabelled grids have relabelled boards. -/
theorem ofGrid_agree {grid : Grid alphabet} {otherGrid : Grid otherAlphabet}
    (relabels : otherGrid.Relabels otherDomain domain grid) (layout : Layout) :
    Error.Agree (Relabels otherDomain domain) (ofGrid layout otherGrid)
      (ofGrid layout grid) := by
  unfold ofGrid
  rw [relabels.fits_eq]
  split
  · rw [Grid.checkValues_eq_ok fun cell => (relabels.inDomain cell).1,
      Grid.checkValues_eq_ok fun cell => (relabels.inDomain cell).2]
    refine (Error.Agree.refl _).bind fun _ _ _ => ?_
    refine (relabels.checkUnique_agree layout).bind fun _ _ _ => .ok ?_
    constructor
    case grid => exact relabels
    all_goals simp only [relabels.bind_index?_eq, relabels.size_domain_eq]
  · exact .error rfl

end Board
end Sudoku
