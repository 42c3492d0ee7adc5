import Mathlib.Logic.Relation
import Sudoku.Proofs.Board.Commit

/-!
# Rolling back

A board descends from another when it arises from it by commits. Rolling a
descendant back to the mark of its ancestor takes the commits back one by one,
the latest first, and gives the ancestor exactly as it was.
-/

namespace Sudoku
namespace Board

variable {alphabet : Alphabet} {layout : Layout} {given : Grid alphabet}
  {board next base : Board alphabet} {cell value : Nat} {signals : List Signal}

/-- Releasing a cell does not look at the trail and leaves it alone. -/
theorem release_withTrail (board : Board alphabet) (trail : List (Option Nat))
    (cell : Nat) :
    ({ board with trail } : Board alphabet).release cell =
      (board.release cell).map fun next => { next with trail } := by
  simp only [release, assignedAt]
  cases board.assigned.getD cell none with
  | none => rfl
  | some value => cases board.grid.clear (board.layout.positionOf cell) <;> rfl

/-- Releasing the cell of a commit restores the board from before it, but for the
trail. -/
theorem Committed.release_eq (coherent : Coherent layout given board)
    (committed : Committed layout given board cell value next signals) :
    next.release cell = .ok { board with trail := next.trail } := by
  have isOpen := getElem?_assigned_of_open
    (by rw [coherent.assigned_size]; exact committed.inside)
    (committed.isOpen coherent)
  have isAssigned : next.assignedAt cell = some value := by
    rw [committed.assignedAt coherent, if_pos rfl]
  obtain ⟨restored, released, restoredCoherent, assigned, trail⟩ :=
    committed.coherent.exists_release isAssigned
  have sameAssigned : restored.assigned = board.assigned := by
    rw [assigned, committed.assigned, Array.setIfInBounds_setIfInBounds]
    apply Array.ext_getElem?
    intro other
    rw [Array.getElem?_setIfInBounds]
    split
    · next same =>
        subst same
        split
        · exact isOpen.symm
        · next outside => exact (Array.getElem?_eq_none (Nat.le_of_not_lt outside)).symm
    · rfl
  rw [released, restoredCoherent.eq_withTrail coherent sameAssigned, trail]

/-- Rolling back to the present does nothing. -/
@[simp] theorem rollback_mark (board : Board alphabet) :
    board.rollback board.mark = .ok board := by
  simp only [rollback, mark, Nat.sub_self, List.take_zero, List.drop_zero]
  rfl

/-- Rolling back past a commit is taking it back first. -/
theorem Committed.rollback_eq (coherent : Coherent layout given board)
    (committed : Committed layout given board cell value next signals) {mark : Nat}
    (earlier : mark ≤ board.mark) : next.rollback mark = board.rollback mark := by
  have count : next.trail.length - mark = board.trail.length - mark + 1 := by
    rw [committed.trail, List.length_cons]
    unfold Board.mark at earlier
    omega
  rw [rollback, count, rollback, committed.trail, List.take_succ_cons,
    List.drop_succ_cons, List.foldlM_cons, releaseEntry, release_withTrail,
    committed.release_eq coherent]
  rfl

/-! ### Descent -/

/-- One board arises from another by one commit. -/
def Commits (board next : Board alphabet) : Prop :=
  ∃ cell value signals, board.commit cell value = .ok (next, signals)

/-- One board arises from another by commits. -/
abbrev Descends : Board alphabet → Board alphabet → Prop :=
  Relation.ReflTransGen Commits

/-- A descendant of a coherent board is coherent. -/
theorem Coherent.of_descends (coherent : Coherent layout given base)
    (descends : Descends base board) : Coherent layout given board := by
  induction descends with
  | refl => exact coherent
  | tail _ step inductionHypothesis =>
      obtain ⟨cell, value, signals, success⟩ := step
      exact (inductionHypothesis.committed success).coherent

/-- An assigned cell keeps its index in every descendant. -/
theorem Coherent.assignedAt_of_descends (coherent : Coherent layout given base)
    (descends : Descends base board) (isAssigned : base.assignedAt cell = some value) :
    board.assignedAt cell = some value := by
  induction descends with
  | refl => exact isAssigned
  | tail earlier step inductionHypothesis =>
      obtain ⟨other, _, _, success⟩ := step
      have before := coherent.of_descends earlier
      have committed := before.committed success
      have different : cell ≠ other := by
        rintro rfl
        rw [committed.isOpen before] at inductionHypothesis
        simp at inductionHypothesis
      rw [committed.assignedAt before, if_neg different, inductionHypothesis]

/-- A descendant has no earlier mark than its ancestor. -/
theorem mark_le_of_descends (coherent : Coherent layout given base)
    (descends : Descends base board) : base.mark ≤ board.mark := by
  induction descends with
  | refl => exact Nat.le_refl _
  | tail earlier step inductionHypothesis =>
      obtain ⟨cell, value, signals, success⟩ := step
      have committed := (coherent.of_descends earlier).committed success
      have longer := congrArg List.length committed.trail
      rw [List.length_cons] at longer
      unfold mark at inductionHypothesis ⊢
      omega

/-- Rolling back to a mark that is no later than an ancestor goes through it. -/
theorem rollback_eq_of_descends (coherent : Coherent layout given base)
    (descends : Descends base board) {mark : Nat} (earlier : mark ≤ base.mark) :
    board.rollback mark = base.rollback mark := by
  induction descends with
  | refl => rfl
  | tail before step inductionHypothesis =>
      obtain ⟨cell, value, signals, success⟩ := step
      have committed := (coherent.of_descends before).committed success
      have marks := mark_le_of_descends coherent before
      rw [committed.rollback_eq (coherent.of_descends before) (Nat.le_trans earlier marks),
        inductionHypothesis]

/-- Rolling a descendant back to the mark of its ancestor gives the ancestor. -/
theorem rollback_mark_of_descends (coherent : Coherent layout given base)
    (descends : Descends base board) : board.rollback base.mark = .ok base := by
  rw [rollback_eq_of_descends coherent descends (Nat.le_refl _), rollback_mark]

end Board
end Sudoku
