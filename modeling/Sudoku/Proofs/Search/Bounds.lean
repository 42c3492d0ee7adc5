import Mathlib.Algebra.BigOperators.Ring.Finset
import Mathlib.Algebra.Order.BigOperators.Group.Finset
import Sudoku.Proofs.Search.Cancellation

/-!
# Bounds of a search

The choice points of a search are for different cells, all of them open at first. The
search tries no more branches than a tree has that branches over the whole domain at each
of these cells, and its token can only make it end sooner. So every run of a search comes
to its end, within the number of steps that the size of the tree allows.
-/

namespace Sudoku

variable {alphabet : Alphabet} {layout : Layout} {given : Grid alphabet}
  {initial board next last : Board alphabet}

namespace Board

/-- The open cells are as many as the entries without an index. -/
theorem Coherent.length_openCells (coherent : Coherent layout given board) :
    board.openCells.length = board.openCount := by
  have listed : board.assigned.toList =
      (List.range board.layout.cellCount).map board.assignedAt := by
    rw [coherent.layout_eq, ← coherent.assigned_size]
    apply List.ext_getElem (by simp)
    intro cell inside _
    simp only [Array.length_toList] at inside
    simp [assignedAt, inside]
  rw [openCount, ← Array.count_toList, listed, List.count, List.countP_map, openCells,
    ← List.countP_eq_length_filter]
  apply List.countP_congr
  intro cell _
  simp

/-! ### Branches -/

/-- The number of branches of a tree that branches over the whole domain at each of so
many cells. -/
def branchBound (domainSize openCells : Nat) : Nat :=
  ∑ depth ∈ Finset.range openCells, domainSize ^ (depth + 1)

/-- Each value of one more cell is a branch, and has the branches of the other cells
below it. -/
theorem branchBound_succ (domainSize openCells : Nat) :
    branchBound domainSize (openCells + 1) =
      domainSize * (1 + branchBound domainSize openCells) := by
  unfold branchBound
  rw [Finset.sum_range_succ', Nat.mul_add, Finset.mul_sum]
  simp only [Nat.pow_succ', Nat.pow_zero]
  omega

/-- More open cells allow no fewer branches. -/
theorem branchBound_le_of_le (domainSize : Nat) {fewer more : Nat} (le : fewer ≤ more) :
    branchBound domainSize fewer ≤ branchBound domainSize more :=
  Finset.sum_le_sum_of_subset (Finset.range_subset_range.2 le)

section

variable {wanted depth : Nat} {found explored : Exploration alphabet}

/-- Trying values adds a branch for each of them, and the branches of the boards that they
give. -/
theorem branches_le_of_tryValues {cell openCells domainSize : Nat} {values : List Nat}
    (openCount : board.openCount = openCells + 1)
    (bounded : ∀ value next signals, board.commit cell value = .ok (next, signals) →
      ∀ depth (found explored : Exploration alphabet),
        explore wanted depth next found = .ok explored →
        explored.branches ≤ found.branches + branchBound domainSize next.openCount)
    (tried : tryValues wanted depth board cell values found = .ok explored) :
    explored.branches ≤
      found.branches + values.length * (1 + branchBound domainSize openCells) := by
  induction values generalizing found with
  | nil =>
      rw [tryValues_nil, Except.ok.injEq] at tried
      rw [← tried]
      exact Nat.le_add_right _ _
  | cons value rest inductionHypothesis =>
      rw [tryValues] at tried
      split at tried
      · simp at tried
      · next next signals committed =>
          split at tried
          · simp at tried
          · next middle searched =>
              have below : middle.branches ≤
                  found.branches + 1 + branchBound domainSize next.openCount :=
                bounded value next signals committed _ _ _ searched
              have closed := openCount_commit committed
              rw [show next.openCount = openCells by omega] at below
              rw [List.length_cons, Nat.succ_mul]
              split at tried
              · rw [← Except.ok.inj tried]
                omega
              · have further := inductionHypothesis tried
                omega

/-- A recursive search of a board adds no more branches than the bound for its open
cells. -/
theorem Tree.branches_le (tree : Tree layout given board)
    (searched : explore wanted depth board found = .ok explored) :
    explored.branches ≤ found.branches + branchBound given.domain.size board.openCount := by
  induction tree generalizing depth found explored with
  | dead coherent halts =>
      rw [explore_of_contradiction halts.propagated, Except.ok.injEq] at searched
      rw [← searched]
      exact Nat.le_add_right _ _
  | leaf coherent rests full =>
      rw [explore_of_fixpoint rests.propagated, full, Except.ok.injEq] at searched
      rw [← searched]
      exact Nat.le_add_right _ _
  | @branch board last forced cell coherent rests chosen _ inductionHypothesis =>
      obtain ⟨inside, isOpen⟩ := rests.chosen_open chosen
      obtain ⟨openCells, openCount⟩ :=
        Search.exists_openCount_eq rests.coherent inside isOpen
      have few := Search.length_candidates_le rests.coherent inside
      rw [explore_of_fixpoint rests.propagated, chosen] at searched
      have bounded := branches_le_of_tryValues openCount
        (fun value next signals committed _ _ _ =>
          inductionHypothesis value next signals committed) searched
      calc explored.branches
          ≤ found.branches + (last.candidatesAt cell).toList.length *
              (1 + branchBound given.domain.size openCells) := bounded
        _ ≤ found.branches +
              given.domain.size * (1 + branchBound given.domain.size openCells) :=
            Nat.add_le_add_left (Nat.mul_le_mul_right _ few) _
        _ = found.branches + branchBound given.domain.size last.openCount := by
            rw [openCount, branchBound_succ]
        _ ≤ found.branches + branchBound given.domain.size board.openCount :=
            Nat.add_le_add_left
              (branchBound_le_of_le _ (openCount_propagate rests.propagated)) _

end

end Board

namespace Search

open Board

variable {first search : Search alphabet} {goal : Goal} {isCancelled : Nat → Bool}
  {choices : List ChoicePoint}

/-! ### Choice points -/

namespace Stacked

/-- Every choice point is for a cell that was open at first. -/
theorem mem_openCells (stacked : Stacked initial choices board)
    (coherent : Coherent layout given initial) :
    ∀ point ∈ choices, point.cell ∈ initial.openCells := by
  induction stacked with
  | root => simp
  | @push base _ point _ _ below _ opened _ inductionHypothesis =>
      rw [List.forall_mem_cons]
      refine ⟨?_, inductionHypothesis⟩
      obtain ⟨inside, isOpen⟩ := mem_openCells_of_fewest? opened.chosen
      have descends := below.descends
      rw [(coherent.of_descends descends).layout_eq, ← coherent.layout_eq] at inside
      rw [mem_openCells_iff]
      refine ⟨inside, ?_⟩
      by_contra isAssigned
      obtain ⟨value, isAssigned⟩ := Option.ne_none_iff_exists'.1 isAssigned
      rw [coherent.assignedAt_of_descends descends isAssigned] at isOpen
      simp at isOpen

/-- No two choice points are for one cell. -/
theorem nodup_cells (stacked : Stacked initial choices board) :
    (choices.map ChoicePoint.cell).Nodup := by
  induction stacked with
  | root => exact List.nodup_nil
  | push _ _ taken opened _ inductionHypothesis =>
      rw [List.map_cons, List.nodup_cons]
      refine ⟨?_, inductionHypothesis⟩
      intro listed
      obtain ⟨earlier, member, same⟩ := List.mem_map.1 listed
      obtain ⟨value, isAssigned, _⟩ := taken earlier member
      rw [same, (mem_openCells_of_fewest? opened.chosen).2] at isAssigned
      simp at isAssigned

/-- There are no more choice points than cells that were open at first. -/
theorem length_le (stacked : Stacked initial choices board)
    (coherent : Coherent layout given initial) : choices.length ≤ initial.openCount := by
  have included : choices.map ChoicePoint.cell ⊆ initial.openCells := by
    intro cell listed
    obtain ⟨point, member, rfl⟩ := List.mem_map.1 listed
    exact stacked.mem_openCells coherent point member
  have fewer := (List.subperm_of_subset stacked.nodup_cells included).length_le
  rwa [List.length_map, coherent.length_openCells] at fewer

end Stacked

/-! ### Steps -/

/-- Propagation tries no branch. -/
theorem branches_propagate {next : Search alphabet}
    (propagated : search.propagate = .ok next) :
    next.statistics.branches = search.statistics.branches := by
  unfold propagate at propagated
  obtain ⟨⟨board, propagation⟩, _, marked⟩ := (Error.bind_eq_ok_iff _ _ _).1 propagated
  cases propagation with
  | fixpoint | contradiction => rw [← Except.ok.inj marked]

/-- Choosing a cell or accepting a solution tries no branch. -/
theorem branches_choose {next : Search alphabet} (chosen : search.choose goal = .ok next) :
    next.statistics.branches = search.statistics.branches := by
  unfold choose at chosen
  split at chosen
  · rw [← Except.ok.inj chosen, branchOn]
  · simp only [accept] at chosen
    split at chosen
    · obtain ⟨_, _, checked⟩ := (Error.bind_eq_ok_iff _ _ _).1 chosen
      obtain ⟨_, _, accepted⟩ := (Error.bind_eq_ok_iff _ _ _).1 checked
      rw [← Except.ok.inj accepted]
    · rw [← Except.ok.inj chosen]

/-- A try counts one branch at most. -/
theorem branches_le_of_tryNext {next : Search alphabet} (tried : search.tryNext = .ok next) :
    search.statistics.branches ≤ next.statistics.branches := by
  unfold tryNext at tried
  split at tried
  · rw [← Except.ok.inj tried, exhaust]
  · obtain ⟨board, _, tried⟩ := (Error.bind_eq_ok_iff _ _ _).1 tried
    split at tried
    · rw [← Except.ok.inj tried, backtrack]
    · unfold attempt at tried
      obtain ⟨⟨committed, signals⟩, _, tried⟩ := (Error.bind_eq_ok_iff _ _ _).1 tried
      simp only at tried
      split at tried
      · rw [← Except.ok.inj tried]
        exact Nat.le_succ _
      · rw [branches_propagate tried]
        exact Nat.le_succ _

/-- A step never takes a branch back. -/
theorem branches_le_of_step {next : Search alphabet} {cancelled : Bool}
    (stepped : search.step goal cancelled = .ok next) :
    search.statistics.branches ≤ next.statistics.branches := by
  unfold step at stepped
  split at stepped
  · exact Nat.le_of_eq (branches_choose stepped).symm
  · split at stepped
    · unfold abandon at stepped
      cases back : search.board.rollback 0 with
      | error error => simp [back, Except.map] at stepped
      | ok board =>
          rw [back] at stepped
          rw [← Except.ok.inj stepped]
    · exact branches_le_of_tryNext stepped
  · rw [Except.ok.inj stepped]

/-- Steps never take a branch back. -/
theorem Steps.branches_le {count : Nat} {last : Search alphabet}
    (steps : Steps goal count search last) :
    search.statistics.branches ≤ last.statistics.branches := by
  induction steps with
  | rest search => exact Nat.le_refl _
  | step _ stepped _ inductionHypothesis =>
      exact Nat.le_trans (branches_le_of_step stepped) inductionHypothesis

/-- The first board of a search has no more open cells than the board it starts on. -/
theorem openCount_start (started : start initial = .ok first) :
    first.board.openCount ≤ initial.openCount := by
  unfold start at started
  obtain ⟨propagated, success, ended⟩ := (Error.bind_eq_ok_iff _ _ _).1 started
  have fewer := openCount_propagate success
  split at ended
  · rw [← Except.ok.inj ended]
    exact fewer
  · rw [← Except.ok.inj ended]
    exact fewer

/-- The steps of a search lead to an end. That comes within the bound on steps, after no
more branches than the bound on them. -/
theorem exists_end_of_start (coherent : Coherent layout given initial)
    (started : start initial = .ok first) (goal : Goal) :
    ∃ total last, Steps { goal with wanted := max 1 goal.wanted } total first last ∧
      last.phase.isFinal = true ∧
      total ≤ stepBound first.board.domainSize first.board.openCount + 1 ∧
      last.statistics.branches ≤ branchBound given.domain.size initial.openCount := by
  obtain ⟨search, explored, startedToo, _, recursion, total, last, within, steps, ends⟩ :=
    exists_start { goal with wanted := max 1 goal.wanted } coherent (Nat.le_max_left 1 _)
  rw [started, Except.ok.injEq] at startedToo
  subst startedToo
  refine ⟨total, last, steps, ?_, within, ?_⟩
  · rw [ends.phase]
    exact isFinal_endOf explored
  · have branches : last.statistics.branches = explored.branches :=
      congrArg Exploration.branches ends.exploration
    have bounded := coherent.tree.branches_le recursion
    rw [Nat.zero_add] at bounded
    rw [branches]
    exact bounded

/-! ### Runs -/

/-- So many steps lead to a search from the first one, under a token that may be cancelled
at any of them. -/
inductive Reaches (goal : Goal) (isCancelled : Nat → Bool) (first : Search alphabet) :
    Nat → Search alphabet → Prop
  | start : Reaches goal isCancelled first 0 first
  | step {search next : Search alphabet} {count : Nat}
      (reaches : Reaches goal isCancelled first count search)
      (active : search.phase.isFinal = false)
      (stepped : search.step goal (isCancelled count) = .ok next) :
      Reaches goal isCancelled first (count + 1) next

namespace Reaches

variable {count : Nat}

/-- What is reached from a sound search is sound. -/
theorem sound (reaches : Reaches goal isCancelled first count search)
    (coherent : Coherent layout given initial) (fresh : initial.mark = 0)
    (sound : Sound initial first) : Sound initial search := by
  induction reaches with
  | start => exact sound
  | step _ _ stepped inductionHypothesis =>
      exact inductionHypothesis.of_step coherent fresh stepped

/-- A search is reached by the steps that it takes without its token, but for a last one
that abandons it. -/
theorem steps_or_withdrawn (reaches : Reaches goal isCancelled first count search)
    (coherent : Coherent layout given initial) (fresh : initial.mark = 0)
    (sound : Sound initial first) :
    Steps goal count first search ∨
      ∃ before earlier, count = before + 1 ∧ Steps goal before first earlier ∧
        earlier.phase = .trying ∧ search = earlier.withdrawn initial := by
  induction reaches with
  | start => exact .inl (.rest first)
  | @step search next count reaches active stepped inductionHypothesis =>
      rcases inductionHypothesis with steps | ⟨_, _, _, _, _, rfl⟩
      swap
      · simp [withdrawn, Phase.isFinal] at active
      have goesOn (moved : search.step goal false = .ok next) :
          Steps goal (count + 1) first next :=
        steps.trans (.step active moved (.rest next))
      by_cases trying : search.phase = .trying
      · cases raised : isCancelled count with
        | false =>
            rw [raised] at stepped
            exact .inl (goesOn stepped)
        | true =>
            have reached := reaches.sound coherent fresh sound
            rw [raised, reached.step_of_cancelled coherent fresh trying,
              Except.ok.injEq] at stepped
            exact .inr ⟨count, search, rfl, steps, trying, stepped.symm⟩
      · rw [step_of_not_trying trying] at stepped
        exact .inl (goesOn stepped)

/-- A search that is reached is no further than the bounds allow, and has not come to the
bound on steps unless it has ended. -/
theorem bounded (reaches : Reaches goal isCancelled first count search)
    (coherent : Coherent layout given initial) (fresh : initial.mark = 0)
    (sound : Sound initial first) (started : Search.start initial = .ok first) :
    count ≤ stepBound first.board.domainSize first.board.openCount + 1 ∧
      (search.phase.isFinal = false →
        count < stepBound first.board.domainSize first.board.openCount + 1) ∧
      search.statistics.branches ≤ branchBound given.domain.size initial.openCount := by
  obtain ⟨total, last, toEnd, final, within, branches⟩ :=
    exists_end_of_start coherent started goal
  rcases reaches.steps_or_withdrawn coherent fresh sound with
    steps | ⟨before, earlier, rfl, steps, trying, rfl⟩
  · obtain ⟨rest, length, further⟩ := steps.max_one.exists_rest toEnd final
    have more := further.branches_le
    refine ⟨by omega, fun active => ?_, by omega⟩
    have sooner := steps.max_one.lt_of_final active toEnd final
    omega
  · have active : earlier.phase.isFinal = false := by
      rw [trying]
      rfl
    obtain ⟨rest, length, further⟩ := steps.max_one.exists_rest toEnd final
    have sooner := steps.max_one.lt_of_final active toEnd final
    have more := further.branches_le
    exact ⟨by omega, fun going => by simp [withdrawn, Phase.isFinal] at going,
      Nat.le_trans more branches⟩

/-- A run that is allowed every step before the end of a search comes to that end. -/
theorem exists_run (reaches : Reaches goal isCancelled first count search)
    (coherent : Coherent layout given initial) (fresh : initial.mark = 0)
    (sound : Sound initial first) {limit : Nat}
    (bounded : ∀ count search, Reaches goal isCancelled first count search →
      search.phase.isFinal = false → count < limit)
    {budget : Nat} (enough : limit ≤ count + budget) :
    ∃ total last, run goal isCancelled budget count search = .ok last ∧
      Reaches goal isCancelled first total last ∧ last.phase.isFinal = true := by
  induction budget generalizing count search with
  | zero =>
      cases final : search.phase.isFinal with
      | true => exact ⟨count, search, run_of_final final _ _ _, reaches, final⟩
      | false =>
          have before := bounded count search reaches final
          omega
  | succ budget inductionHypothesis =>
      cases final : search.phase.isFinal with
      | true => exact ⟨count, search, run_of_final final _ _ _, reaches, final⟩
      | false =>
          obtain ⟨next, stepped, _⟩ := (reaches.sound coherent fresh sound).exists_step
            coherent fresh goal (isCancelled count)
          have unfolded : run goal isCancelled (budget + 1) count search =
              run goal isCancelled budget (count + 1) next := by
            rw [run, final, stepped]
            rfl
          rw [unfolded]
          exact inductionHypothesis (reaches.step final stepped) (by omega)

end Reaches

/-- A complete search is a run to the end, whatever its goal and its token. -/
theorem exists_complete_of_start (coherent : Coherent layout given initial)
    (fresh : initial.mark = 0) (sound : Sound initial first)
    (started : start initial = .ok first) (goal : Goal) (isCancelled : Nat → Bool) :
    ∃ total last, complete goal isCancelled initial = .ok last ∧
      Reaches goal isCancelled first total last ∧ last.phase.isFinal = true := by
  simp only [complete, started, bind, Except.bind]
  exact Reaches.start.exists_run coherent fresh sound
    (fun _ _ reaches active => (reaches.bounded coherent fresh sound started).2.1 active)
    (Nat.le_of_eq (Nat.zero_add _).symm)

end Search
end Sudoku
