import Sudoku.Proofs.Board.Relabelling
import Sudoku.Search.Basic

/-!
# Relabelled searches

A search chooses cells and tries values by their indices. Searches of relabelled boards
go through the same phases with the same choice points, count the same work, and find
solutions that relabel one another.
-/

namespace Sudoku
namespace Search

variable {alphabet otherAlphabet : Alphabet} {domain : Domain alphabet}
  {otherDomain : Domain otherAlphabet} {search : Search alphabet}
  {other : Search otherAlphabet} {goal : Goal}

open Board

/-- Two searches that differ in the symbols of their grids only. -/
structure Relabels (otherDomain : Domain otherAlphabet) (domain : Domain alphabet)
    (other : Search otherAlphabet) (search : Search alphabet) : Prop where
  phase_eq : other.phase = search.phase
  board : other.board.Relabels otherDomain domain search.board
  choices_eq : other.choices = search.choices
  solutions : List.Forall₂ (Grid.Relabels otherDomain domain) other.solutions search.solutions
  statistics_eq : other.statistics = search.statistics

namespace Relabels

variable (relabels : other.Relabels otherDomain domain search)

include relabels

/-! ### Moves -/

theorem propagate_agree :
    Error.Agree (Relabels otherDomain domain) other.propagate search.propagate := by
  unfold propagate
  refine relabels.board.propagate_agree.bind ?_
  rintro ⟨otherBoard, propagation⟩ ⟨board, _⟩ ⟨boards, rfl⟩
  dsimp only
  split
  · refine .ok ⟨rfl, boards, relabels.choices_eq, relabels.solutions, ?_⟩
    dsimp only
    rw [relabels.statistics_eq]
  · exact .ok ⟨rfl, boards, relabels.choices_eq, relabels.solutions, relabels.statistics_eq⟩

theorem branchOn (cell : Nat) :
    (other.branchOn cell).Relabels otherDomain domain (search.branchOn cell) := by
  refine ⟨rfl, relabels.board, ?_, relabels.solutions, ?_⟩
  all_goals
    simp only [Search.branchOn, relabels.board.candidatesAt_eq, relabels.board.mark_eq,
      relabels.choices_eq, relabels.statistics_eq]

theorem solutionFlaw?_agree :
    Error.Agree (· = ·) (solutionFlaw? other.board) (solutionFlaw? search.board) := by
  unfold solutionFlaw?
  rw [relabels.board.grid.isFull_eq, relabels.board.layout_eq,
    relabels.board.grid.findConflict_eq]
  exact .refl _

theorem accept_agree :
    Error.Agree (Relabels otherDomain domain) (other.accept goal) (search.accept goal) := by
  have solutions := relabels.solutions.cons relabels.board.grid
  have accepted : Relabels otherDomain domain { other with
      solutions := other.board.grid :: other.solutions
      phase := if goal.wanted ≤ (other.board.grid :: other.solutions).length then .solved
        else .trying }
    { search with
      solutions := search.board.grid :: search.solutions
      phase := if goal.wanted ≤ (search.board.grid :: search.solutions).length then .solved
        else .trying } := by
    refine ⟨?_, relabels.board, relabels.choices_eq, solutions, relabels.statistics_eq⟩
    dsimp only
    rw [solutions.length_eq]
  unfold accept
  dsimp only
  split
  · refine relabels.solutionFlaw?_agree.bind ?_
    rintro flaw? _ rfl
    exact (Error.Agree.refl _).bind fun _ _ _ => .ok accepted
  · exact .ok accepted

theorem choose_agree :
    Error.Agree (Relabels otherDomain domain) (other.choose goal) (search.choose goal) := by
  unfold choose
  rw [relabels.board.selectCell?_eq]
  split
  · exact .ok (relabels.branchOn _)
  · exact relabels.accept_agree

theorem abandon_agree : Error.Agree (Relabels otherDomain domain) other.abandon search.abandon :=
  (relabels.board.rollback_agree 0).map fun _ _ boards =>
    ⟨rfl, boards, rfl, relabels.solutions, relabels.statistics_eq⟩

theorem exhaust : other.exhaust.Relabels otherDomain domain search.exhaust := by
  refine ⟨?_, relabels.board, relabels.choices_eq, relabels.solutions,
    relabels.statistics_eq⟩
  have solutions := relabels.solutions
  unfold Search.exhaust
  dsimp only
  generalize other.solutions = otherGrids at solutions ⊢
  generalize search.solutions = grids at solutions ⊢
  cases solutions <;> rfl

theorem attempt_agree {board : Board alphabet} {otherBoard : Board otherAlphabet}
    (boards : otherBoard.Relabels otherDomain domain board) (point : ChoicePoint) (value : Nat)
    (outer : List ChoicePoint) :
    Error.Agree (Relabels otherDomain domain) (other.attempt otherBoard point value outer)
      (search.attempt board point value outer) := by
  unfold attempt
  refine (boards.commit_agree point.cell value).bind ?_
  rintro ⟨otherNext, signals⟩ ⟨next, _⟩ ⟨nexts, rfl⟩
  have tried : Relabels otherDomain domain { other with
      board := otherNext
      choices := point :: outer
      statistics := { other.statistics with branches := other.statistics.branches + 1 } }
    { search with
      board := next
      choices := point :: outer
      statistics := { search.statistics with branches := search.statistics.branches + 1 } } := by
    refine ⟨relabels.phase_eq, nexts, rfl, relabels.solutions, ?_⟩
    dsimp only
    rw [relabels.statistics_eq]
  dsimp only
  split
  · exact .ok tried
  · exact tried.propagate_agree

theorem tryNext_agree : Error.Agree (Relabels otherDomain domain) other.tryNext search.tryNext := by
  unfold tryNext
  rw [relabels.choices_eq]
  split
  · exact .ok relabels.exhaust
  · refine (relabels.board.rollback_agree _).bind fun otherBoard board boards => ?_
    split
    · refine .ok ⟨relabels.phase_eq, boards, rfl, relabels.solutions, ?_⟩
      dsimp only [backtrack]
      rw [relabels.statistics_eq]
    · exact relabels.attempt_agree boards _ _ _

/-- Searches that relabel one another take the same steps. -/
theorem step_agree (isCancelled : Bool) :
    Error.Agree (Relabels otherDomain domain) (other.step goal isCancelled)
      (search.step goal isCancelled) := by
  unfold step
  rw [relabels.phase_eq]
  split
  · exact relabels.choose_agree
  · split
    · exact relabels.abandon_agree
    · exact relabels.tryNext_agree
  · exact .ok relabels

/-! ### Runs -/

omit relabels in
/-- Searches that relabel one another still do so when they end. -/
theorem run_agree (relabels : other.Relabels otherDomain domain search) (isCancelled : Nat → Bool)
    (budget taken : Nat) :
    Error.Agree (Relabels otherDomain domain) (other.run goal isCancelled budget taken)
      (search.run goal isCancelled budget taken) := by
  induction budget generalizing other search taken with
  | zero =>
      unfold run
      rw [relabels.phase_eq]
      split
      · exact .ok relabels
      · exact .error rfl
  | succ budget inductionHypothesis =>
      unfold run
      rw [relabels.phase_eq]
      split
      · exact .ok relabels
      · exact (relabels.step_agree _).bind fun _ _ nexts =>
          inductionHypothesis nexts (taken + 1)

end Relabels

theorem start_agree {board : Board alphabet} {otherBoard : Board otherAlphabet}
    (boards : otherBoard.Relabels otherDomain domain board) :
    Error.Agree (Relabels otherDomain domain) (start otherBoard) (start board) := by
  unfold start
  have fresh : Relabels otherDomain domain { phase := .choosing, board := otherBoard }
      { phase := .choosing, board } :=
    ⟨rfl, boards, rfl, .nil, rfl⟩
  refine fresh.propagate_agree.bind fun otherSearch search searches => ?_
  rw [searches.phase_eq]
  split
  · exact .ok searches.exhaust
  · exact .ok searches

/-- Completing relabelled boards finds relabelled solutions with the same work. -/
theorem complete_agree {board : Board alphabet} {otherBoard : Board otherAlphabet}
    (boards : otherBoard.Relabels otherDomain domain board) (isCancelled : Nat → Bool) :
    Error.Agree (Relabels otherDomain domain) (complete goal isCancelled otherBoard)
      (complete goal isCancelled board) := by
  unfold complete
  refine (start_agree boards).bind fun otherSearch search searches => ?_
  rw [searches.board.domainSize_eq, searches.board.openCount_eq]
  exact searches.run_agree isCancelled _ 0

end Search
end Sudoku
