import Sudoku.Proofs.Search.Invariant
import Sudoku.Proofs.Search.Tree

/-!
# Refinement of the recursive search

A search with a stack of choice points goes through the tree of the recursive
search. From the moment when a board was propagated until the choice points above
it are given up again, or enough solutions are found, it finds and counts what
the recursion does, in no more steps than the bound allows.
-/

namespace Sudoku
namespace Search

variable {alphabet : Alphabet} {layout : Layout} {given : Grid alphabet}
  {base board next : Board alphabet} {search last : Search alphabet}
  {point : ChoicePoint} {outer : List ChoicePoint} {goal : Goal}
  {explored : Exploration alphabet} {cell bound : Nat}

open Board

/-! ### Steps -/

/-- A search takes so many steps under a token that is not cancelled, none of them
after its end. -/
inductive Steps (goal : Goal) : Nat → Search alphabet → Search alphabet → Prop
  | rest (search : Search alphabet) : Steps goal 0 search search
  | step {search next last : Search alphabet} {count : Nat}
      (active : search.phase.isFinal = false)
      (stepped : search.step goal false = .ok next)
      (steps : Steps goal count next last) : Steps goal (count + 1) search last

/-- Steps may follow steps. -/
theorem Steps.trans {next : Search alphabet} {first second : Nat}
    (before : Steps goal first search next) (after : Steps goal second next last) :
    Steps goal (first + second) search last := by
  induction before with
  | rest search =>
      rw [Nat.zero_add]
      exact after
  | step active stepped _ inductionHypothesis =>
      rw [Nat.succ_add_eq_add_succ]
      apply Steps.step active stepped
      exact inductionHypothesis after

/-- A search that is choosing takes a step by its choice. -/
theorem steps_of_choose {next : Search alphabet} (choosing : search.phase = .choosing)
    (chosen : search.choose goal = .ok next) : Steps goal 1 search next := by
  have active : search.phase.isFinal = false := by
    rw [choosing]
    rfl
  apply Steps.step active _ (.rest next)
  simp only [step, choosing, chosen]

/-- A search that is trying takes a step by its next try. -/
theorem steps_of_tryNext {next : Search alphabet} (trying : search.phase = .trying)
    (tried : search.tryNext = .ok next) : Steps goal 1 search next := by
  have active : search.phase.isFinal = false := by
    rw [trying]
    rfl
  apply Steps.step active _ (.rest next)
  simp only [step, trying, Bool.false_eq_true, if_false, tried]

/-! ### The bound -/

/-- A larger number of open cells allows no fewer steps. -/
theorem stepBound_le_of_le (domainSize : Nat) {fewer more : Nat} (le : fewer ≤ more) :
    stepBound domainSize fewer ≤ stepBound domainSize more := by
  induction more generalizing fewer with
  | zero => rw [Nat.le_zero.1 le]
  | succ more inductionHypothesis =>
      cases fewer with
      | zero =>
          unfold stepBound
          omega
      | succ fewer =>
          have smaller := inductionHypothesis (Nat.le_of_succ_le_succ le)
          have scaled := Nat.mul_le_mul_left domainSize (Nat.add_le_add_left smaller 1)
          unfold stepBound
          omega

/-- Every search is allowed a step. -/
theorem stepBound_pos (domainSize openCells : Nat) : 0 < stepBound domainSize openCells := by
  cases openCells <;> rw [stepBound] <;> omega

/-- The bound has room for choosing a cell, trying each of its candidates, and giving
it up again. -/
theorem one_add_le_stepBound {count domainSize : Nat} (few : count ≤ domainSize)
    (openCells : Nat) :
    1 + (count * (1 + stepBound domainSize openCells) + 1) ≤
      stepBound domainSize (openCells + 1) := by
  have scaled := Nat.mul_le_mul_right (1 + stepBound domainSize openCells) few
  rw [stepBound]
  omega

/-- A board with an open cell has a positive number of them. -/
theorem exists_openCount_eq (coherent : Coherent layout given board)
    (inside : cell < layout.cellCount) (isOpen : board.assignedAt cell = none) :
    ∃ openCells, board.openCount = openCells + 1 := by
  rw [← coherent.assigned_size] at inside
  have member := Array.mem_of_getElem? (getElem?_assigned_of_open inside isOpen)
  have positive : 0 < board.openCount := Array.count_pos_iff.2 member
  exact Nat.exists_eq_succ_of_ne_zero (Nat.ne_of_gt positive)

/-- A cell has no more candidates than the domain has values. -/
theorem length_candidates_le (coherent : Coherent layout given board)
    (inside : cell < layout.cellCount) :
    (board.candidatesAt cell).toList.length ≤ given.domain.size := by
  rw [← coherent.capacity cell inside, CandidateSet.toList_eq_filter]
  exact (List.length_filter_le _ _).trans_eq List.length_range

/-- Propagation opens no cell of the board of a search. -/
theorem openCount_propagate {next : Search alphabet}
    (propagated : search.propagate = .ok next) :
    next.board.openCount ≤ search.board.openCount := by
  unfold propagate at propagated
  obtain ⟨⟨board, propagation⟩, result, marked⟩ :=
    (Error.bind_eq_ok_iff _ _ _).1 propagated
  have fewer := Board.openCount_propagate result
  cases propagation with
  | fixpoint | contradiction =>
      rw [Except.ok.injEq] at marked
      rw [← marked]
      exact fewer

/-! ### Exploring -/

/-- What a search has found and counted. -/
def exploration (search : Search alphabet) : Exploration alphabet where
  solutions := search.solutions
  branches := search.statistics.branches
  backtracks := search.statistics.backtracks
  maxDepth := search.statistics.maxDepth

/-- Within a bound on its steps, a search comes to have what an exploration has. If
that is enough it is solved, and else it is back at its outer choice points, on a
board that descends from the one it explored. -/
def Explores (goal : Goal) (bound : Nat) (search : Search alphabet)
    (base : Board alphabet) (outer : List ChoicePoint) (explored : Exploration alphabet) :
    Prop :=
  ∃ count last, count ≤ bound ∧ Steps goal count search last ∧
    last.exploration = explored ∧
    if goal.wanted ≤ explored.solutions.length then last.phase = .solved
    else last.phase = .trying ∧ last.choices = outer ∧ Descends base last.board

/-- A search that is back at its outer choice points has explored. -/
theorem explores_of_trying (search : Search alphabet)
    (lacking : search.solutions.length < goal.wanted)
    (trying : search.phase = .trying) (descends : Descends base search.board) :
    Explores goal 0 search base search.choices search.exploration := by
  have notEnough : ¬goal.wanted ≤ search.exploration.solutions.length :=
    Nat.not_le_of_lt lacking
  refine ⟨0, search, Nat.le_refl 0, .rest search, rfl, ?_⟩
  rw [if_neg notEnough]
  exact ⟨trying, rfl, descends⟩

/-- Steps may come first. -/
theorem Explores.of_steps {next : Search alphabet} {count : Nat}
    (explores : Explores goal bound next base outer explored)
    (steps : Steps goal count search next) :
    Explores goal (count + bound) search base outer explored := by
  obtain ⟨further, last, within, finished, outcome⟩ := explores
  exact ⟨count + further, last, Nat.add_le_add_left within count, steps.trans finished,
    outcome⟩

/-- A search that has enough does not get back to any choice points. -/
theorem Explores.of_enough {other : Board alphabet} {choices : List ChoicePoint}
    (explores : Explores goal bound search board choices explored)
    (enough : goal.wanted ≤ explored.solutions.length) :
    Explores goal bound search other outer explored := by
  obtain ⟨count, last, within, steps, same, outcome⟩ := explores
  refine ⟨count, last, within, steps, same, ?_⟩
  rw [if_pos enough] at outcome ⊢
  exact outcome

/-- Commits may come first. -/
theorem Explores.of_descends (explores : Explores goal bound search board outer explored)
    (descends : Descends base board) :
    Explores goal bound search base outer explored := by
  obtain ⟨count, last, within, steps, same, outcome⟩ := explores
  refine ⟨count, last, within, steps, same, ?_⟩
  by_cases enough : goal.wanted ≤ explored.solutions.length
  · rw [if_pos enough] at outcome ⊢
    exact outcome
  · rw [if_neg enough] at outcome ⊢
    obtain ⟨trying, choices, further⟩ := outcome
    exact ⟨trying, choices, descends.trans further⟩

/-- There may be more steps than it takes. -/
theorem Explores.mono {more : Nat}
    (explores : Explores goal bound search base outer explored) (le : bound ≤ more) :
    Explores goal more search base outer explored := by
  obtain ⟨count, last, within, outcome⟩ := explores
  exact ⟨count, last, Nat.le_trans within le, outcome⟩

/-- A search of a board, from its propagation on, explores what the recursion does. -/
def Refines (goal : Goal) (given : Grid alphabet) (board : Board alphabet) : Prop :=
  ∀ search : Search alphabet, search.board = board →
    search.solutions.length < goal.wanted →
    ∃ next explored, search.propagate = .ok next ∧
      explore goal.wanted search.choices.length board search.exploration = .ok explored ∧
      Explores goal (stepBound given.domain.size next.board.openCount) next board
        search.choices explored

/-- After a commit, a search explores what the recursion does, although it skips the
propagation when the commit took the last candidate of a peer. -/
theorem Refines.advanced {signals : List Signal} {value : Nat}
    (refines : Refines goal given next) (search : Search alphabet)
    (coherent : Coherent layout given base)
    (committed : Committed layout given base cell value next signals)
    (onBoard : search.board = next) (trying : search.phase = .trying)
    (lacking : search.solutions.length < goal.wanted) :
    ∃ after explored,
      (if (signals.findSome? Signal.dead?).isSome then .ok search
        else search.propagate) = .ok after ∧
      explore goal.wanted search.choices.length next search.exploration = .ok explored ∧
      Explores goal (stepBound given.domain.size next.openCount) after next
        search.choices explored := by
  cases reported : signals.findSome? Signal.dead? with
  | some dead =>
      have isDead := committed.dead coherent reported
      have descends : Descends next search.board := by rw [onBoard]
      have explores := search.explores_of_trying lacking trying descends
      refine ⟨search, search.exploration, rfl, ?_, explores.mono (Nat.zero_le _)⟩
      rcases committed.coherent.rests_or_halts with ⟨_, _, rests⟩ | ⟨_, _, _, halts⟩
      · exact absurd isDead (rests.not_dead committed.coherent dead)
      · exact explore_of_contradiction halts.propagated
  | none =>
      obtain ⟨after, explored, propagated, recursion, explores⟩ :=
        refines search onBoard lacking
      refine ⟨after, explored, propagated, recursion, explores.mono ?_⟩
      apply stepBound_le_of_le
      rw [← onBoard]
      exact openCount_propagate propagated

/-- Trying the options of a choice point explores what the recursion does on its
board, when searching the board of each option does. -/
theorem explores_tryValues (coherent : Coherent layout given base) {openCells : Nat}
    (openCount : base.openCount = openCells + 1) {values : List Nat}
    (trying : search.phase = .trying) (choices : search.choices = point :: outer)
    (refines : ∀ value ∈ values, ∃ next signals,
      base.commit point.cell value = .ok (next, signals) ∧ Refines goal given next)
    (mark_eq : point.mark = base.mark) (listed : point.options.toList = values)
    (descends : Descends base search.board)
    (lacking : search.solutions.length < goal.wanted) :
    ∃ explored,
      tryValues goal.wanted (outer.length + 1) base point.cell values search.exploration =
        .ok explored ∧
      Explores goal (values.length * (1 + stepBound given.domain.size openCells) + 1)
        search base outer explored := by
  induction values generalizing search point with
  | nil =>
      have exhausted := tryNext_of_exhausted coherent descends mark_eq choices listed
      refine ⟨_, tryValues_nil, ?_⟩
      have back : Descends base (search.backtrack base outer).board := .refl
      have explores := (search.backtrack base outer).explores_of_trying lacking trying back
      exact (explores.of_steps (steps_of_tryNext trying exhausted)).mono (by omega)
  | cons value rest inductionHypothesis =>
      obtain ⟨⟨next, signals, success, nextRefines⟩, restRefines⟩ :=
        List.forall_mem_cons.1 refines
      obtain ⟨options, popped, restListed⟩ := CandidateSet.exists_popFirst? listed
      have committed := coherent.committed success
      obtain ⟨after, explored, moved, recursion, explores⟩ :=
        nextRefines.advanced (search.advanced next { point with options } outer)
          coherent committed rfl trying lacking
      have sameCount : next.openCount = openCells := by
        have closes := openCount_commit success
        omega
      rw [← tryNext_of_option coherent descends mark_eq choices popped success] at moved
      rw [sameCount] at explores
      have tried := explores.of_steps (steps_of_tryNext trying moved)
      rw [tryValues_cons success recursion, List.length_cons, Nat.succ_mul]
      by_cases enough : goal.wanted ≤ explored.solutions.length
      · exact ⟨explored, if_pos enough, (tried.of_enough enough).mono (by omega)⟩
      · -- The search is back at the choice point, on a board that descends from the one
        -- the option was committed to, and has the other options left.
        rw [if_neg enough]
        obtain ⟨count, last, within, steps, same, outcome⟩ := tried
        rw [if_neg enough] at outcome
        obtain ⟨lastTrying, lastChoices, lastDescends⟩ := outcome
        rw [← same] at enough ⊢
        have further : Descends base last.board :=
          .head ⟨point.cell, value, signals, success⟩ lastDescends
        obtain ⟨final, recursion, explores⟩ := inductionHypothesis lastTrying lastChoices
          restRefines mark_eq restListed further (Nat.lt_of_not_le enough)
        exact ⟨final, recursion, (explores.of_steps steps).mono (by omega)⟩

/-- A search that accepts a solution on a full board has explored it. -/
theorem explores_of_full (search : Search alphabet) (goal : Goal)
    (coherent : Coherent layout given search.board)
    (atRest : search.board.AtRest) (full : search.board.fewest? = none)
    (choosing : search.phase = .choosing) (descends : Descends base search.board) :
    Explores goal 1 search base search.choices { search.exploration with
      solutions := search.board.grid :: search.solutions } := by
  refine ⟨1, _, Nat.le_refl 1,
    steps_of_choose choosing (search.choose_of_full coherent atRest full goal), rfl, ?_⟩
  rw [List.length_cons]
  split
  · rfl
  · exact ⟨rfl, rfl, descends⟩

/-- A search that branches at rest explores what the recursion does, when searching the
board of each candidate does. -/
theorem refines_of_branch {forced : Nat} (rests : Rests layout given board next forced)
    (chosen : next.fewest? = some cell)
    (refines : ∀ value ∈ (next.candidatesAt cell).toList, ∃ after signals,
      next.commit cell value = .ok (after, signals) ∧ Refines goal given after) :
    Refines goal given board := by
  rintro search rfl lacking
  obtain ⟨inside, isOpen⟩ := rests.chosen_open chosen
  obtain ⟨openCells, openCount⟩ := exists_openCount_eq rests.coherent inside isOpen
  have few := length_candidates_le rests.coherent inside
  let rested := search.rested next forced
  let branched := rested.branchOn cell
  have choices : branched.choices =
      ⟨cell, next.candidatesAt cell, next.mark⟩ :: search.choices := rfl
  have stays : Descends next branched.board := .refl
  obtain ⟨explored, recursion, explores⟩ := explores_tryValues rests.coherent openCount
    rfl choices refines rfl rfl stays lacking
  refine ⟨rested, explored, search.propagate_of_rests rests, ?_, ?_⟩
  · rw [explore_of_fixpoint rests.propagated, chosen]
    exact recursion
  · have chooses : Steps goal 1 rested branched :=
      steps_of_choose rfl (rested.choose_of_chosen rests.atRest chosen goal)
    have within := one_add_le_stepBound few openCells
    rw [← openCount] at within
    exact ((explores.of_steps chooses).of_descends rests.run.descends).mono within

/-- Searching any coherent board explores what the recursion does. -/
theorem refines_of_tree (tree : Tree layout given board) (goal : Goal) :
    Refines goal given board := by
  induction tree with
  | @dead board last forced cell coherent halts =>
      rintro search rfl lacking
      refine ⟨_, search.exploration, search.propagate_of_halts halts,
        explore_of_contradiction halts.propagated, ?_⟩
      let next : Search alphabet := { search with board := last, phase := .trying }
      have explores := next.explores_of_trying lacking rfl halts.run.descends
      exact explores.mono (Nat.zero_le _)
  | @leaf board last forced coherent rests full =>
      rintro search rfl lacking
      have explores := (search.rested last forced).explores_of_full goal
        rests.coherent rests.atRest full rfl rests.run.descends
      refine ⟨_, _, search.propagate_of_rests rests, ?_, explores.mono (stepBound_pos _ _)⟩
      rw [explore_of_fixpoint rests.propagated, full]
      rfl
  | branch coherent rests chosen _ inductionHypothesis =>
      apply refines_of_branch rests chosen
      intro value candidate
      obtain ⟨next, signals, success, _⟩ := rests.exists_commit chosen candidate
      exact ⟨next, signals, success, inductionHypothesis value next signals success⟩

end Search
end Sudoku
