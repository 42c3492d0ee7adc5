import Sudoku.Proofs.Search.Selection

/-!
# The recursive search

The search as a recursion on boards: propagate, fail at a contradiction, succeed
when no cell is open, and otherwise commit the candidates of the open cell that
has the fewest, each to the same board, and search what comes of them. This is
the search without its stack, its trail and its undoing. `successes` lists what
the recursion succeeds with in depth-first order, and `explore` is the recursion
that stops as soon as it has enough and counts its work.
-/

namespace Sudoku

/-- What a recursive search has found, the latest solution first, and its work: the
candidates it committed by choice, the cells it gave up, and how many choices it
had open at most. -/
structure Exploration (alphabet : Alphabet) where
  solutions : List (Grid alphabet) := []
  branches : Nat := 0
  backtracks : Nat := 0
  maxDepth : Nat := 0

namespace Board

variable {alphabet : Alphabet} {board rest next : Board alphabet}

/-- Working off a queue opens no cell. -/
theorem openCount_settle {queue : List Nat} {forced : Nat} {propagation : Propagation}
    (settled : board.settle queue forced = .ok (rest, propagation)) :
    rest.openCount ≤ board.openCount := by
  fun_induction board.settle queue forced with
  | case1 | case2 =>
      simp only [Except.ok.injEq, Prod.mk.injEq] at settled
      rw [settled.1]
  | case3 => simp at settled
  | case4 board _ _ cell value _ _ next _ committed =>
      simp only [Except.ok.injEq, Prod.mk.injEq] at settled
      rw [← settled.1]
      have := openCount_commit committed
      omega
  | case5 board _ _ cell value _ _ next _ committed _ inductionHypothesis =>
      have := inductionHypothesis settled
      have := openCount_commit committed
      omega

/-- Propagation opens no cell. -/
theorem openCount_propagate {propagation : Propagation}
    (propagated : board.propagate = .ok (rest, propagation)) :
    rest.openCount ≤ board.openCount :=
  openCount_settle propagated

/-! ### All successes -/

/-- The full grids that a recursive search of a board succeeds with, in depth-first
order. -/
def successes (board : Board alphabet) : List (Grid alphabet) :=
  match _propagated : board.propagate with
  | .ok (rest, .fixpoint _) =>
      match rest.fewest? with
      | none => [rest.grid]
      | some cell =>
          (rest.candidatesAt cell).toList.flatMap fun value =>
            match _committed : rest.commit cell value with
            | .ok (next, _) => next.successes
            | .error _ => []
  | _ => []
termination_by board.openCount
decreasing_by
  have := openCount_propagate ‹board.propagate = _›
  have := openCount_commit ‹rest.commit _ _ = _›
  omega

/-- The successes after a value was committed to a cell. -/
def successesWith (board : Board alphabet) (cell value : Nat) : List (Grid alphabet) :=
  match board.commit cell value with
  | .ok (next, _) => next.successes
  | .error _ => []

/-- There are no successes past a contradiction. -/
theorem successes_of_contradiction {cell : Nat}
    (propagated : board.propagate = .ok (rest, .contradiction cell)) :
    board.successes = [] := by
  unfold successes
  split
  · next same =>
      rw [propagated] at same
      simp at same
  · rfl

/-- At rest, the only success is the working grid if no cell is open, and else the
successes are those with each candidate of the cell to branch on. -/
theorem successes_of_fixpoint {forced : Nat}
    (propagated : board.propagate = .ok (rest, .fixpoint forced)) :
    board.successes =
      match rest.fewest? with
      | none => [rest.grid]
      | some cell => (rest.candidatesAt cell).toList.flatMap (rest.successesWith cell) := by
  unfold successes
  split
  · next same =>
      rw [propagated, Except.ok.injEq, Prod.mk.injEq] at same
      rw [← same.1]
      split
      · rfl
      · congr 1
        funext value
        unfold successesWith
        split <;> simp_all
  · next different => exact absurd propagated (different _ _)

/-! ### Exploration -/

mutual

/-- Search a board recursively, below the given number of open choices, until the
wanted number of solutions is found. -/
def explore (wanted depth : Nat) (board : Board alphabet)
    (found : Exploration alphabet) : Except Error (Exploration alphabet) :=
  match _propagated : board.propagate with
  | .error error => .error error
  | .ok (_, .contradiction _) => .ok found
  | .ok (rest, .fixpoint _) =>
      match rest.fewest? with
      | none => .ok { found with solutions := rest.grid :: found.solutions }
      | some cell =>
          tryValues wanted (depth + 1) rest cell (rest.candidatesAt cell).toList
            { found with maxDepth := max found.maxDepth (depth + 1) }
termination_by (board.openCount, 1, 0)
decreasing_by
  have := openCount_propagate ‹board.propagate = _›
  simp only [Prod.lex_def]
  omega

/-- Try values for a cell in the given order, each on the same board, until the
wanted number of solutions is found or all values are exhausted. -/
def tryValues (wanted depth : Nat) (board : Board alphabet) (cell : Nat) :
    List Nat → Exploration alphabet → Except Error (Exploration alphabet)
  | [], found => .ok { found with backtracks := found.backtracks + 1 }
  | value :: values, found =>
      match _committed : board.commit cell value with
      | .error error => .error error
      | .ok (next, _) =>
          match explore wanted depth next { found with branches := found.branches + 1 } with
          | .error error => .error error
          | .ok found =>
              if wanted ≤ found.solutions.length then .ok found
              else tryValues wanted depth board cell values found
termination_by values => (board.openCount, 0, values.length)
decreasing_by
  · have := openCount_commit ‹board.commit _ _ = _›
    simp only [Prod.lex_def]
    omega
  · simp [Prod.lex_def]

end

variable {wanted depth : Nat} {found : Exploration alphabet}

/-- A recursive search fails at a contradiction. -/
theorem explore_of_contradiction {cell : Nat}
    (propagated : board.propagate = .ok (rest, .contradiction cell)) :
    explore wanted depth board found = .ok found := by
  unfold explore
  split <;> simp_all

/-- At rest, a recursive search succeeds if no cell is open, and else branches. -/
theorem explore_of_fixpoint {forced : Nat}
    (propagated : board.propagate = .ok (rest, .fixpoint forced)) :
    explore wanted depth board found =
      match rest.fewest? with
      | none => .ok { found with solutions := rest.grid :: found.solutions }
      | some cell =>
          tryValues wanted (depth + 1) rest cell (rest.candidatesAt cell).toList
            { found with maxDepth := max found.maxDepth (depth + 1) } := by
  unfold explore
  split <;> simp_all

/-- A cell is given up when its values are exhausted. -/
@[simp] theorem tryValues_nil {cell : Nat} :
    tryValues wanted depth board cell [] found =
      .ok { found with backtracks := found.backtracks + 1 } := by
  rw [tryValues]

/-- A value is tried by searching the board with it, and the next values if that
does not find enough. -/
theorem tryValues_cons {cell value : Nat} {values : List Nat} {signals : List Signal}
    {explored : Exploration alphabet}
    (committed : board.commit cell value = .ok (next, signals))
    (searched : explore wanted depth next { found with branches := found.branches + 1 } =
      .ok explored) :
    tryValues wanted depth board cell (value :: values) found =
      if wanted ≤ explored.solutions.length then .ok explored
      else tryValues wanted depth board cell values explored := by
  rw [tryValues]
  split
  · simp_all
  · next same =>
      rw [committed, Except.ok.injEq, Prod.mk.injEq] at same
      rw [← same.1, searched]

end Board
end Sudoku
