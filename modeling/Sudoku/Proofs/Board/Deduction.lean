import Sudoku.Proofs.Board.Calls
import Sudoku.Proofs.Board.Completion

/-!
# What propagation deduces

Propagation ends at rest or at an open cell without candidates. All that it commits on
the way is on the trail, and belongs to every completion of the board that it started
from. A board at which it ends without candidates had no completion to begin with.
-/

namespace Sudoku
namespace Board

variable {alphabet shapes : Alphabet} {layout : Layout} {given : Grid alphabet}
  {shaped : Grid shapes} {board next first last : Board alphabet} {cells : List Nat}

/-! ### What is committed -/

/-- One board has the commits of some more cells, the latest first, on top of the trail of
another, and agrees with it in all other cells. -/
structure Extends (board : Board alphabet) (cells : List Nat) (last : Board alphabet) :
    Prop where
  trail : last.trail = cells.map some ++ board.trail
  nodup : cells.Nodup
  wasOpen : ∀ cell ∈ cells, board.assignedAt cell = none
  isAssigned : ∀ cell ∈ cells, last.assignedAt cell ≠ none
  keeps : ∀ cell, cell ∉ cells → last.assignedAt cell = board.assignedAt cell

/-- A board extends itself by nothing. -/
theorem Extends.refl (board : Board alphabet) : Extends board [] board where
  trail := rfl
  nodup := .nil
  wasOpen := by simp
  isAssigned := by simp
  keeps _ _ := rfl

/-- A commit before those of an extension is its earliest. -/
theorem Committed.extends {cell value : Nat} {signals : List Signal}
    (coherent : Coherent layout given board)
    (committed : Committed layout given board cell value next signals)
    (extension : Extends next cells last) : Extends board (cells ++ [cell]) last := by
  have assignedAt := committed.assignedAt coherent
  have closed : next.assignedAt cell = some value := by rw [assignedAt, if_pos rfl]
  have absent : cell ∉ cells := fun member => by
    rw [extension.wasOpen cell member] at closed
    simp at closed
  constructor
  · rw [extension.trail, committed.trail]
    simp
  · rw [List.nodup_append_comm]
    exact extension.nodup.cons absent
  · intro other member
    rcases List.mem_append.1 member with later | here
    · have different : other ≠ cell := fun same => absent (same ▸ later)
      have isOpen := extension.wasOpen other later
      rwa [assignedAt, if_neg different] at isOpen
    · rw [List.mem_singleton.1 here]
      exact committed.isOpen coherent
  · intro other member
    rcases List.mem_append.1 member with later | here
    · exact extension.isAssigned other later
    · rw [List.mem_singleton.1 here, extension.keeps cell absent, closed]
      simp
  · intro other notMember
    rw [List.mem_append, List.mem_singleton, not_or] at notMember
    rw [extension.keeps other notMember.1, assignedAt, if_neg notMember.2]

/-- Forced commits extend a board by as many cells. -/
theorem ForcedRun.exists_extends (coherent : Coherent layout given board) {count : Nat}
    (run : ForcedRun board count last) :
    ∃ cells, cells.length = count ∧ Extends board cells last := by
  induction run with
  | rest board => exact ⟨[], rfl, .refl board⟩
  | @force _ _ _ cell _ _ _ _ success _ inductionHypothesis =>
      have committed := coherent.committed success
      obtain ⟨cells, length, extension⟩ := inductionHypothesis committed.coherent
      exact ⟨cells ++ [cell], by rw [List.length_append, length]; rfl,
        committed.extends coherent extension⟩

/-- Every completion of a board holds the values that forced commits write. -/
theorem ForcedRun.valueAt_eq (coherent : Coherent layout given board) {count cell : Nat}
    (run : ForcedRun board count last) (extension : Extends board cells last)
    (member : cell ∈ cells) {solution : Grid alphabet} (completes : Completes solution board) :
    solution.valueAt cell = last.grid.valueAt cell := by
  have lastCoherent := coherent.of_descends run.descends
  obtain ⟨value, isAssigned⟩ :=
    Option.ne_none_iff_exists'.1 (extension.isAssigned cell member)
  obtain ⟨symbol, _, held⟩ := lastCoherent.exists_valueAt isAssigned
  rw [held]
  exact ((run.completes_iff coherent).2 completes).keeps cell symbol held

/-! ### How propagation ends -/

/-- Propagation of a board that calls led to always ends. If it ends at rest, then no open
cell has fewer than two candidates, as many commits as it reports are on top of the trail,
the completions are those from before, and each of them holds all committed values. If it
ends at a contradiction, then the cell that it reports is open and has no candidates, and
there was no completion before. -/
theorem propagate_deduces (divided : Layout.ofGrid shaped = .ok layout) (built : given.Built)
    (made : ofGrid layout given = .ok first) (calls : List Call)
    (followed : first.follow calls = board) :
    (∃ last outcome, board.propagate = .ok (last, outcome)) ∧
    (∀ last forced, board.propagate = .ok (last, .fixpoint forced) →
      last.AtRest ∧
      (∀ solution, Completes solution last ↔ Completes solution board) ∧
      ∃ cells, cells.length = forced ∧ Extends board cells last ∧
        ∀ solution, Completes solution board →
          ∀ cell ∈ cells, solution.valueAt cell = last.grid.valueAt cell) ∧
    ∀ last cell, board.propagate = .ok (last, .contradiction cell) →
      last.Dead cell ∧ ∀ solution, ¬Completes solution board := by
  have coherent : Coherent layout given board := by
    rw [← followed]
    exact (tracked_follow divided built made calls).2.coherent
  rcases coherent.rests_or_halts with ⟨last, forced, rests⟩ | ⟨last, forced, cell, halts⟩
  · refine ⟨⟨_, _, rests.propagated⟩, fun other count propagated => ?_,
      fun other cell propagated => ?_⟩
    · rw [rests.propagated, Except.ok.injEq, Prod.mk.injEq, Propagation.fixpoint.injEq]
        at propagated
      obtain ⟨rfl, rfl⟩ := propagated
      obtain ⟨cells, length, extension⟩ := rests.run.exists_extends coherent
      exact ⟨rests.atRest, fun _ => rests.run.completes_iff coherent, cells, length,
        extension, fun _ completes _ member =>
          rests.run.valueAt_eq coherent extension member completes⟩
    · rw [rests.propagated] at propagated
      simp at propagated
  · refine ⟨⟨_, _, halts.propagated⟩, fun other count propagated => ?_,
      fun other dead propagated => ?_⟩
    · rw [halts.propagated] at propagated
      simp at propagated
    · rw [halts.propagated, Except.ok.injEq, Prod.mk.injEq, Propagation.contradiction.injEq]
        at propagated
      obtain ⟨rfl, rfl⟩ := propagated
      refine ⟨halts.dead, fun solution completes => ?_⟩
      exact halts.coherent.not_completes_of_dead halts.dead
        ((halts.run.completes_iff coherent).2 completes)

/-- With one cell of the band filled in, propagation commits the other three. -/
theorem propagate_openBand :
    ∃ last cells,
      ((initial bandLayout Grid.openBand).follow [.commit 0 0]).propagate =
        .ok (last, .fixpoint 3) ∧
      last.AtRest ∧ cells.length = 3 ∧
      Extends ((initial bandLayout Grid.openBand).follow [.commit 0 0]) cells last := by
  have outcome : ((initial bandLayout Grid.openBand).follow
      [.commit 0 0]).propagate.map Prod.snd = .ok (.fixpoint 3) := by
    decide +kernel
  obtain ⟨_, rests, _⟩ := propagate_deduces layout_openBand Grid.built_openBand
    ofGrid_openBand [.commit 0 0] rfl
  cases propagated : ((initial bandLayout Grid.openBand).follow
      [.commit 0 0]).propagate with
  | error error => simp [propagated, Except.map] at outcome
  | ok result =>
      obtain ⟨last, ended⟩ := result
      simp only [propagated, Except.map, Except.ok.injEq] at outcome
      subst outcome
      obtain ⟨atRest, _, cells, length, extension, _⟩ := rests last 3 propagated
      exact ⟨last, cells, rfl, atRest, length, extension⟩

end Board
end Sudoku
