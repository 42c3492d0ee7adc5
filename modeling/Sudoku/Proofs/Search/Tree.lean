import Sudoku.Proofs.Board.Completion
import Sudoku.Proofs.Search.Recursion

/-!
# The search tree

A recursive search of a coherent board meets coherent boards only, and each of
them is dead, full, or branches. By induction on this tree, the successes of a
board are its completions, each listed once, and a search that stops when it has
enough finds as many of the first successes as are wanted.
-/

namespace Sudoku

variable {alphabet : Alphabet}

/-- One exploration goes on from another by the first of some successes, as many as
it takes to have the wanted number. -/
def Exploration.Adds (wanted : Nat) (found explored : Exploration alphabet)
    (successes : List (Grid alphabet)) : Prop :=
  explored.solutions =
    (successes.take (wanted - found.solutions.length)).reverse ++ found.solutions

namespace Exploration.Adds

variable {wanted : Nat} {found explored last : Exploration alphabet}
  {successes others : List (Grid alphabet)}

/-- What an exploration has after it went on. -/
theorem length_eq (adds : Adds wanted found explored successes) :
    explored.solutions.length =
      min (wanted - found.solutions.length) successes.length + found.solutions.length := by
  rw [adds, List.length_append, List.length_reverse, List.length_take]

/-- An exploration that has enough does not look at further successes. -/
theorem append_of_enough (adds : Adds wanted found explored successes)
    (lacking : found.solutions.length < wanted)
    (enough : wanted ≤ explored.solutions.length) :
    Adds wanted found explored (successes ++ others) := by
  have length := adds.length_eq
  unfold Adds
  rw [List.take_append_of_le_length (by omega)]
  exact adds

/-- An exploration that lacks solutions goes on to further successes. -/
theorem append (adds : Adds wanted found explored successes)
    (lacking : explored.solutions.length < wanted)
    (addsOthers : Adds wanted explored last others) :
    Adds wanted found last (successes ++ others) := by
  have length := adds.length_eq
  have allTaken : successes.take (wanted - found.solutions.length) = successes :=
    List.take_of_length_le (by omega)
  unfold Adds
  rw [List.take_append, List.reverse_append, List.append_assoc, ← adds]
  rw [addsOthers]
  congr 3
  omega

end Exploration.Adds

namespace Board

variable {layout : Layout} {given : Grid alphabet}
  {board next last : Board alphabet} {solution : Grid alphabet} {cell value : Nat}
  {signals : List Signal}

/-- The boards that a recursive search meets: propagation of a board ends at a dead
cell, or it comes to rest, where no cell is open or the search branches on the cell
with the fewest candidates. -/
inductive Tree (layout : Layout) (given : Grid alphabet) : Board alphabet → Prop
  | dead {board last : Board alphabet} {forced cell : Nat}
      (coherent : Coherent layout given board)
      (halts : Halts layout given board last forced cell) : Tree layout given board
  | leaf {board last : Board alphabet} {forced : Nat}
      (coherent : Coherent layout given board)
      (rests : Rests layout given board last forced)
      (full : last.fewest? = none) : Tree layout given board
  | branch {board last : Board alphabet} {forced cell : Nat}
      (coherent : Coherent layout given board)
      (rests : Rests layout given board last forced)
      (chosen : last.fewest? = some cell)
      (children : ∀ value next signals, last.commit cell value = .ok (next, signals) →
        Tree layout given next) : Tree layout given board

/-- Every coherent board has a search tree, since each branch closes an open cell. -/
theorem Coherent.tree (coherent : Coherent layout given board) :
    Tree layout given board := by
  generalize count : board.openCount = openCells
  induction openCells using Nat.strong_induction_on generalizing board with
  | _ openCells inductionHypothesis =>
      rcases coherent.rests_or_halts with ⟨last, forced, rests⟩ | ⟨last, forced, cell, halts⟩
      swap
      · exact .dead coherent halts
      cases chosen : last.fewest? with
      | none => exact .leaf coherent rests chosen
      | some cell =>
          apply Tree.branch coherent rests chosen
          intro value next signals committed
          have fewer := openCount_propagate rests.propagated
          have fewest := openCount_commit committed
          exact inductionHypothesis next.openCount (by omega)
            (rests.coherent.committed committed).coherent rfl

/-- A forced run from a coherent board keeps its completions. -/
theorem Rests.completes_iff {forced : Nat} (coherent : Coherent layout given board)
    (rests : Rests layout given board last forced) :
    Completes solution last ↔ Completes solution board :=
  rests.run.completes_iff coherent

/-- The cell to branch on lies on the board and is open. -/
theorem Rests.chosen_open {forced : Nat} (rests : Rests layout given board last forced)
    (chosen : last.fewest? = some cell) :
    cell < layout.cellCount ∧ last.assignedAt cell = none := by
  rw [← rests.coherent.layout_eq]
  exact mem_openCells_of_fewest? chosen

/-- Each candidate of the cell to branch on can be committed. -/
theorem Rests.exists_commit {forced : Nat} (rests : Rests layout given board last forced)
    (chosen : last.fewest? = some cell)
    (candidate : value ∈ (last.candidatesAt cell).toList) :
    ∃ next signals, last.commit cell value = .ok (next, signals) ∧
      Committed layout given last cell value next signals :=
  rests.coherent.exists_commit (rests.chosen_open chosen).1
    ((CandidateSet.mem_toList _ _).1 candidate)

/-- The successes with a committed value are those of the board it gives. -/
theorem successesWith_of_commit
    (committed : board.commit cell value = .ok (next, signals)) :
    board.successesWith cell value = next.successes := by
  unfold successesWith
  rw [committed]

/-! ### Successes are completions -/

/-- The successes of a board are its completions. -/
theorem Tree.mem_successes_iff (tree : Tree layout given board) :
    solution ∈ board.successes ↔ Completes solution board := by
  induction tree with
  | dead coherent halts =>
      rw [successes_of_contradiction halts.propagated,
        ← halts.run.completes_iff coherent]
      simp [halts.coherent.not_completes_of_dead halts.dead]
  | leaf coherent rests full =>
      rw [successes_of_fixpoint rests.propagated, full, List.mem_singleton,
        ← rests.completes_iff coherent]
      have closed := (fewest?_eq_none_iff _).1 full
      rw [rests.coherent.layout_eq] at closed
      exact (rests.coherent.completes_iff_of_full closed).symm
  | branch coherent rests chosen _ inductionHypothesis =>
      rw [successes_of_fixpoint rests.propagated, chosen, List.mem_flatMap,
        ← rests.completes_iff coherent]
      obtain ⟨inside, isOpen⟩ := rests.chosen_open chosen
      constructor
      · rintro ⟨value, candidate, success⟩
        obtain ⟨next, signals, success', committed⟩ := rests.exists_commit chosen candidate
        rw [successesWith_of_commit success',
          inductionHypothesis value next signals success',
          committed.completes_iff rests.coherent] at success
        exact success.1
      · intro completes
        obtain ⟨value, candidate, held⟩ :=
          rests.coherent.exists_candidate completes inside isOpen
        rw [← CandidateSet.mem_toList] at candidate
        obtain ⟨next, signals, success, committed⟩ := rests.exists_commit chosen candidate
        refine ⟨value, candidate, ?_⟩
        rw [successesWith_of_commit success, inductionHypothesis value next signals success,
          committed.completes_iff rests.coherent]
        exact ⟨completes, held⟩

/-- No success of a board is listed twice. -/
theorem Tree.nodup_successes (tree : Tree layout given board) : board.successes.Nodup := by
  induction tree with
  | dead coherent halts =>
      rw [successes_of_contradiction halts.propagated]
      exact List.nodup_nil
  | leaf coherent rests full =>
      rw [successes_of_fixpoint rests.propagated, full]
      exact List.nodup_singleton _
  | @branch board last forced cell coherent rests chosen children inductionHypothesis =>
      rw [successes_of_fixpoint rests.propagated, chosen]
      have held {value : Nat} (candidate : value ∈ (last.candidatesAt cell).toList)
          {solution : Grid alphabet} (member : solution ∈ last.successesWith cell value) :
          solution.valueAt cell = given.domain.value? value := by
        obtain ⟨next, signals, success, committed⟩ := rests.exists_commit chosen candidate
        rw [successesWith_of_commit success,
          (children value next signals success).mem_successes_iff,
          committed.completes_iff rests.coherent] at member
        exact member.2
      refine List.nodup_flatMap.2 ⟨?_, ?_⟩
      · intro value candidate
        obtain ⟨next, signals, success, _⟩ := rests.exists_commit chosen candidate
        rw [successesWith_of_commit success]
        exact inductionHypothesis value next signals success
      · -- The boards of different candidates share no success: it would hold both.
        apply (CandidateSet.nodup_toList _).imp_of_mem
        intro first second firstMember secondMember different solution inFirst inSecond
        apply different
        have firstHeld := held firstMember inFirst
        have secondHeld := held secondMember inSecond
        obtain ⟨inside, _⟩ := rests.chosen_open chosen
        obtain ⟨symbol, named⟩ := given.domain.exists_value?
          (rests.coherent.lt_size_of_candidate inside
            ((CandidateSet.mem_toList _ _).1 firstMember))
        rw [named] at firstHeld
        exact Domain.index_eq_of_value? named (secondHeld.symm.trans firstHeld)

/-! ### Exploration -/

/-- Trying values adds the successes with each of them, when a search of each board
that they give does so. -/
private theorem exists_tryValues {wanted depth : Nat} {values : List Nat}
    (explores : ∀ value ∈ values, ∃ next signals,
      board.commit cell value = .ok (next, signals) ∧
      ∀ found : Exploration alphabet, found.solutions.length < wanted →
        ∃ explored, explore wanted depth next found = .ok explored ∧
          Exploration.Adds wanted found explored next.successes)
    (found : Exploration alphabet) (lacking : found.solutions.length < wanted) :
    ∃ explored, tryValues wanted depth board cell values found = .ok explored ∧
      Exploration.Adds wanted found explored (values.flatMap (board.successesWith cell)) := by
  induction values generalizing found with
  | nil => exact ⟨_, tryValues_nil, by simp [Exploration.Adds]⟩
  | cons value rest inductionHypothesis =>
      obtain ⟨⟨next, signals, committed, searches⟩, restExplores⟩ :=
        List.forall_mem_cons.1 explores
      obtain ⟨explored, searched, adds⟩ :=
        searches { found with branches := found.branches + 1 } lacking
      rw [List.flatMap_cons, successesWith_of_commit committed,
        tryValues_cons committed searched]
      by_cases enough : wanted ≤ explored.solutions.length
      · exact ⟨explored, if_pos enough, adds.append_of_enough lacking enough⟩
      · have stillLacking := Nat.lt_of_not_le enough
        obtain ⟨last, tried, addsRest⟩ := inductionHypothesis restExplores _ stillLacking
        exact ⟨last, (if_neg enough).trans tried, adds.append stillLacking addsRest⟩

/-- A recursive search that stops when it has enough finds the first successes. -/
theorem Tree.exists_explore (tree : Tree layout given board) {wanted : Nat} (depth : Nat)
    (found : Exploration alphabet) (lacking : found.solutions.length < wanted) :
    ∃ explored, explore wanted depth board found = .ok explored ∧
      Exploration.Adds wanted found explored board.successes := by
  induction tree generalizing depth found with
  | dead coherent halts =>
      refine ⟨found, explore_of_contradiction halts.propagated, ?_⟩
      rw [successes_of_contradiction halts.propagated]
      simp [Exploration.Adds]
  | leaf coherent rests full =>
      rw [explore_of_fixpoint rests.propagated, successes_of_fixpoint rests.propagated, full]
      refine ⟨_, rfl, ?_⟩
      rw [Exploration.Adds, List.take_of_length_le (by rw [List.length_singleton]; omega)]
      rfl
  | branch coherent rests chosen _ inductionHypothesis =>
      rw [explore_of_fixpoint rests.propagated, successes_of_fixpoint rests.propagated, chosen]
      refine exists_tryValues (fun value candidate => ?_)
        { found with maxDepth := max found.maxDepth (depth + 1) } lacking
      obtain ⟨next, signals, success, _⟩ := rests.exists_commit chosen candidate
      exact ⟨next, signals, success, fun found lacking =>
        inductionHypothesis value next signals success (depth + 1) found lacking⟩

end Board
end Sudoku
