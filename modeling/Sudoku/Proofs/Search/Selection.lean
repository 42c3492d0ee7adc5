import Mathlib.Data.List.MinMax
import Sudoku.Proofs.Board.Propagation
import Sudoku.Search.Selection

/-!
# The cell to branch on

On a board at rest, the scan that ends early at a cell with two candidates
chooses the same cell as a scan of all open cells: the first of those with the
fewest candidates.
-/

namespace Sudoku
namespace Board

variable {alphabet : Alphabet} {board : Board alphabet}

/-- The open cells in row-major order. -/
def openCells (board : Board alphabet) : List Nat :=
  (List.range board.layout.cellCount).filter board.isOpen

/-- The first of the open cells with the fewest candidates. -/
def fewest? (board : Board alphabet) : Option Nat :=
  board.openCells.argmin fun cell => (board.candidatesAt cell).size

@[simp] theorem mem_openCells_iff (board : Board alphabet) (cell : Nat) :
    cell ∈ board.openCells ↔
      cell < board.layout.cellCount ∧ board.assignedAt cell = none := by
  simp [openCells]

/-- There is a cell to branch on unless no cell is open. -/
theorem fewest?_eq_none_iff (board : Board alphabet) :
    board.fewest? = none ↔
      ∀ cell < board.layout.cellCount, board.assignedAt cell ≠ none := by
  unfold fewest?
  rw [List.argmin_eq_none, List.eq_nil_iff_forall_not_mem]
  simp

/-- The cell to branch on is open. -/
theorem mem_openCells_of_fewest? {cell : Nat} (chosen : board.fewest? = some cell) :
    cell < board.layout.cellCount ∧ board.assignedAt cell = none :=
  (board.mem_openCells_iff cell).1 (List.argmin_mem chosen)

/-- The first in row-major order of the open cells with the least number of candidates. -/
structure Foremost (board : Board alphabet) (cell : Nat) : Prop where
  inside : cell < board.layout.cellCount
  isOpen : board.assignedAt cell = none
  least : ∀ other < board.layout.cellCount, board.assignedAt other = none →
    (board.candidatesAt cell).size ≤ (board.candidatesAt other).size
  first : ∀ other < cell, board.assignedAt other = none →
    (board.candidatesAt cell).size < (board.candidatesAt other).size

/-- No two cells come first. -/
theorem Foremost.unique {cell other : Nat} (foremost : board.Foremost cell)
    (otherForemost : board.Foremost other) : cell = other := by
  rcases Nat.lt_trichotomy cell other with before | same | after
  · have fewer := otherForemost.first cell before foremost.isOpen
    have atLeast := foremost.least other otherForemost.inside otherForemost.isOpen
    omega
  · exact same
  · have fewer := foremost.first other after otherForemost.isOpen
    have atLeast := otherForemost.least cell foremost.inside foremost.isOpen
    omega

/-- The open cells are listed in ascending order. -/
theorem pairwise_openCells (board : Board alphabet) : board.openCells.Pairwise (· < ·) :=
  List.pairwise_lt_range.filter _

/-- The cell to branch on comes first of those with the least number of candidates. -/
theorem foremost_of_fewest? {cell : Nat} (chosen : board.fewest? = some cell) :
    board.Foremost cell := by
  obtain ⟨inside, isOpen⟩ := mem_openCells_of_fewest? chosen
  have least (other : Nat) (listed : other ∈ board.openCells) :
      (board.candidatesAt cell).size ≤ (board.candidatesAt other).size :=
    List.le_of_mem_argmin (f := fun cell => (board.candidatesAt cell).size) listed chosen
  refine ⟨inside, isOpen, fun other otherInside otherOpen =>
    least other ((board.mem_openCells_iff other).2 ⟨otherInside, otherOpen⟩), ?_⟩
  intro other before otherOpen
  have listed :=
    (board.mem_openCells_iff other).2 ⟨Nat.lt_trans before inside, otherOpen⟩
  refine Nat.lt_of_le_of_ne (least other listed) fun tied => ?_
  have noLater : board.openCells.idxOf cell ≤ board.openCells.idxOf other :=
    List.index_of_argmin chosen listed (Nat.le_of_eq tied.symm)
  have ascends := List.pairwise_iff_getElem.1 board.pairwise_openCells _ _
    (List.idxOf_lt_length_of_mem (List.argmin_mem chosen))
    (List.idxOf_lt_length_of_mem listed)
  simp only [List.getElem_idxOf] at ascends
  rcases Nat.lt_or_eq_of_le noLater with earlier | same
  · exact Nat.lt_asymm before (ascends earlier)
  · exact Nat.ne_of_gt before ((List.idxOf_inj (List.argmin_mem chosen)).1 same)

/-- The full scan finds the cell that comes first. -/
theorem fewest?_eq_some_iff (cell : Nat) :
    board.fewest? = some cell ↔ board.Foremost cell := by
  refine ⟨foremost_of_fewest?, fun foremost => ?_⟩
  cases chosen : board.fewest? with
  | none =>
      exact absurd foremost.isOpen
        ((fewest?_eq_none_iff board).1 chosen cell foremost.inside)
  | some other => rw [(foremost_of_fewest? chosen).unique foremost]

/-- A best cell together with its number of candidates. -/
def counted (board : Board alphabet) (best : Option Nat) : Option (Nat × Nat) :=
  best.map fun cell => (cell, (board.candidatesAt cell).size)

/-- Going on with a scan that holds a cell with two candidates changes nothing when
no open cell has fewer. -/
private theorem foldl_argAux_of_size_le {cells : List Nat} {best : Nat}
    (few : (board.candidatesAt best).size ≤ 2)
    (atLeast : ∀ cell ∈ cells, 2 ≤ (board.candidatesAt cell).size) :
    cells.foldl (List.argAux fun first second =>
      (board.candidatesAt first).size < (board.candidatesAt second).size) (some best) =
        some best := by
  induction cells with
  | nil => rfl
  | cons cell rest inductionHypothesis =>
      have notBetter : ¬(board.candidatesAt cell).size < (board.candidatesAt best).size := by
        have := atLeast cell (by simp)
        omega
      rw [List.foldl_cons]
      simp only [List.argAux, notBetter, if_false]
      exact inductionHypothesis fun other member => atLeast other (by simp [member])

/-- One step of a scan of all open cells keeps the better cell. -/
private theorem argAux_eq_ite (board : Board alphabet) (best : Option Nat) (cell : Nat) :
    List.argAux (fun first second =>
      (board.candidatesAt first).size < (board.candidatesAt second).size) best cell =
        if improves (board.candidatesAt cell).size (board.counted best) then some cell
        else best := by
  cases best with
  | none => rfl
  | some other =>
      simp only [List.argAux, improves, counted, Option.map_some, Option.all_some,
        decide_eq_true_eq]

/-- The scan with an early end finds what a scan of all open cells finds, when each
of them has two candidates. -/
private theorem scan_eq_foldl (board : Board alphabet) (cells : List Nat)
    (best : Option Nat)
    (atLeast : ∀ cell ∈ cells, board.assignedAt cell = none →
      2 ≤ (board.candidatesAt cell).size) :
    board.scan cells (board.counted best) =
      board.counted ((cells.filter board.isOpen).foldl
        (List.argAux fun first second =>
          (board.candidatesAt first).size < (board.candidatesAt second).size) best) := by
  induction cells generalizing best with
  | nil => rfl
  | cons cell rest inductionHypothesis =>
      have restAtLeast := (List.forall_mem_cons.1 atLeast).2
      unfold scan
      by_cases isOpen : board.isOpen cell = true
      swap
      · simp only [isOpen, Bool.false_and]
        rw [List.filter_cons_of_neg isOpen]
        exact inductionHypothesis best restAtLeast
      rw [List.filter_cons_of_pos isOpen, List.foldl_cons, argAux_eq_ite]
      by_cases better : improves (board.candidatesAt cell).size (board.counted best) = true
      · simp only [isOpen, better, Bool.and_self, if_true]
        split
        · next few =>
            rw [foldl_argAux_of_size_le few]
            · rfl
            · intro other member
              obtain ⟨inRest, otherOpen⟩ := List.mem_filter.1 member
              exact restAtLeast other inRest ((board.isOpen_iff other).1 otherOpen)
        · exact inductionHypothesis (some cell) restAtLeast
      · simp only [better, Bool.and_false]
        exact inductionHypothesis best restAtLeast

/-- On a board at rest, the selected cell is the first of those with the fewest
candidates. -/
theorem selectCell?_eq_fewest? (atRest : board.AtRest) :
    board.selectCell? = board.fewest? := by
  have scanned := board.scan_eq_foldl (List.range board.layout.cellCount) none
    fun cell member => atRest cell (List.mem_range.1 member)
  rw [counted, Option.map_none] at scanned
  unfold selectCell?
  rw [scanned, counted, Option.map_map, fewest?, List.argmin, openCells]
  simp [Function.comp_def]

end Board
end Sudoku
