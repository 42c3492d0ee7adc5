import Sudoku.Proofs.Search.Run

/-!
# Cancelled searches

A search looks at its token before each try. When the token is cancelled there, the
search takes back every value that was committed since it started, forced ones
included, and ends on the board it started from without any choice points. This is
so wherever a search has got to by its own steps, and whatever it has found by then.
-/

namespace Sudoku
namespace Search

variable {alphabet : Alphabet} {layout : Layout} {given : Grid alphabet}
  {initial board : Board alphabet} {first search last next : Search alphabet} {goal : Goal}
  {isCancelled : Nat → Bool}

open Board

/-- A search that has ended as cancelled on a board. What it found and counted stays. -/
def withdrawn (search : Search alphabet) (board : Board alphabet) : Search alphabet :=
  { search with board, choices := [], phase := .cancelled }

/-! ### Steps -/

/-- What steps lead to from a sound search is sound. -/
theorem Steps.sound {count : Nat} (steps : Steps goal count search last)
    (coherent : Coherent layout given initial) (fresh : initial.mark = 0)
    (sound : Sound initial search) : Sound initial last := by
  induction steps with
  | rest search => exact sound
  | step _ stepped _ inductionHypothesis =>
      exact inductionHypothesis (sound.of_step coherent fresh stepped)

/-- Steps on the way to an end are followed by the other steps to it. -/
theorem Steps.exists_rest {count total : Nat} (steps : Steps goal count first search)
    (toEnd : Steps goal total first last) (final : last.phase.isFinal = true) :
    ∃ rest, total = count + rest ∧ Steps goal rest search last := by
  induction steps generalizing total with
  | rest search => exact ⟨total, (Nat.zero_add total).symm, toEnd⟩
  | step before stepped _ inductionHypothesis =>
      cases toEnd with
      | rest =>
          rw [before] at final
          simp at final
      | step _ steppedToo toEnd =>
          rw [stepped, Except.ok.injEq] at steppedToo
          subst steppedToo
          obtain ⟨rest, length, further⟩ := inductionHypothesis toEnd
          exact ⟨rest, by omega, further⟩

/-- A search that goes on takes fewer steps than one that has come to its end. -/
theorem Steps.lt_of_final {count total : Nat} (steps : Steps goal count first search)
    (active : search.phase.isFinal = false) (toEnd : Steps goal total first last)
    (final : last.phase.isFinal = true) : count < total := by
  obtain ⟨rest, rfl, further⟩ := steps.exists_rest toEnd final
  cases further with
  | rest =>
      rw [active] at final
      simp at final
  | step => omega

/-- A sound search can be abandoned, and then is back on its first board. -/
theorem Sound.abandon_eq (sound : Sound initial search)
    (coherent : Coherent layout given initial) (fresh : initial.mark = 0) :
    search.abandon = .ok (search.withdrawn initial) :=
  abandon_of_descends coherent fresh sound.stacked.descends

/-- A cancelled token makes a try abandon the search. -/
theorem Sound.step_of_cancelled (sound : Sound initial search)
    (coherent : Coherent layout given initial) (fresh : initial.mark = 0)
    (trying : search.phase = .trying) :
    search.step goal true = .ok (search.withdrawn initial) := by
  unfold step
  rw [trying]
  exact sound.abandon_eq coherent fresh

/-! ### Runs -/

/-- A search comes to a try, and it is the first one at which its token counts as
cancelled. What the token is when no try is made does not matter. -/
structure Interrupted (goal : Goal) (isCancelled : Nat → Bool) (first : Search alphabet)
    (count : Nat) (search : Search alphabet) : Prop where
  steps : Steps goal count first search
  trying : search.phase = .trying
  quiet : ∀ step earlier, step < count → Steps goal step first earlier →
    earlier.phase = .trying → isCancelled step = false
  raised : isCancelled count = true

/-- A step is the same whether or not the token is cancelled, unless it is a try. -/
theorem step_of_not_trying (notTrying : search.phase ≠ .trying) (isCancelled : Bool) :
    search.step goal isCancelled = search.step goal false := by
  unfold step
  cases phase : search.phase with
  | trying => exact absurd phase notTrying
  | choosing | solved | unsatisfiable | cancelled => rfl

/-- A run with steps to a try that is interrupted ends there, on the first board. -/
private theorem run_of_interrupted_from (coherent : Coherent layout given initial)
    (fresh : initial.mark = 0) {count : Nat} (steps : Steps goal count search last)
    (trying : last.phase = .trying) (sound : Sound initial search) {taken : Nat}
    (quiet : ∀ step earlier, step < count → Steps goal step search earlier →
      earlier.phase = .trying → isCancelled (taken + step) = false)
    (raised : isCancelled (taken + count) = true) {budget : Nat} (enough : count < budget) :
    run goal isCancelled budget taken search = .ok (last.withdrawn initial) := by
  induction steps generalizing budget taken with
  | rest search =>
      obtain ⟨budget, rfl⟩ := Nat.exists_eq_add_of_le' enough
      have active : search.phase.isFinal = false := by
        rw [trying]
        rfl
      rw [Nat.add_zero] at raised
      rw [run, active, raised, sound.step_of_cancelled coherent fresh trying]
      exact run_of_final rfl isCancelled _ _
  | @step search next last count active stepped _ inductionHypothesis =>
      obtain ⟨budget, rfl⟩ := Nat.exists_eq_add_of_le' (Nat.zero_lt_of_lt enough)
      have moved : search.step goal (isCancelled taken) = .ok next := by
        by_cases tries : search.phase = .trying
        · have unraised := quiet 0 search (Nat.succ_pos _) (.rest search) tries
          rw [Nat.add_zero] at unraised
          rw [unraised, stepped]
        · rw [step_of_not_trying tries, stepped]
      have unfolded : run goal isCancelled (budget + 1) taken search =
          run goal isCancelled budget (taken + 1) next := by
        rw [run, active, moved]
        rfl
      rw [unfolded]
      apply inductionHypothesis trying (sound.of_step coherent fresh stepped)
      · intro step earlier before steps tries
        rw [Nat.add_right_comm, Nat.add_assoc]
        exact quiet (step + 1) earlier (Nat.succ_lt_succ before) (.step active stepped steps)
          tries
      · rw [Nat.add_right_comm, Nat.add_assoc]
        exact raised
      · exact Nat.lt_of_succ_lt_succ enough

/-- An interrupted run ends as cancelled on the first board. -/
theorem Interrupted.run_eq {count : Nat}
    (interrupted : Interrupted goal isCancelled first count search)
    (coherent : Coherent layout given initial) (fresh : initial.mark = 0)
    (sound : Sound initial first) {budget : Nat} (enough : count < budget) :
    run goal isCancelled budget 0 first = .ok (search.withdrawn initial) := by
  apply run_of_interrupted_from coherent fresh interrupted.steps interrupted.trying sound _ _
    enough
  · intro step earlier before steps tries
    rw [Nat.zero_add]
    exact interrupted.quiet step earlier before steps tries
  · rw [Nat.zero_add]
    exact interrupted.raised

/-- A search that is content without any solution only finds that out when it accepts the
first one, like a search for one. -/
theorem step_max_one (goal : Goal) (isCancelled : Bool) (search : Search alphabet) :
    search.step { goal with wanted := max 1 goal.wanted } isCancelled =
      search.step goal isCancelled := by
  have accepted : search.accept { goal with wanted := max 1 goal.wanted } =
      search.accept goal := by
    have enough : max 1 goal.wanted ≤ (search.board.grid :: search.solutions).length ↔
        goal.wanted ≤ (search.board.grid :: search.solutions).length := by
      rw [List.length_cons]
      omega
    unfold accept
    simp only [enough]
  unfold step choose
  rw [accepted]

/-- A search that is content without any solution takes the steps of a search for one. -/
theorem Steps.max_one {count : Nat} (steps : Steps goal count first last) :
    Steps { goal with wanted := max 1 goal.wanted } count first last := by
  induction steps with
  | rest search => exact .rest search
  | step active stepped _ inductionHypothesis =>
      exact .step active ((step_max_one goal false _).trans stepped) inductionHypothesis

/-- An interrupted search of a coherent board ends as cancelled on that board. -/
theorem Interrupted.complete_eq {count : Nat}
    (interrupted : Interrupted goal isCancelled first count search)
    (coherent : Coherent layout given initial) (fresh : initial.mark = 0)
    (started : start initial = .ok first) :
    complete goal isCancelled initial = .ok (search.withdrawn initial) := by
  obtain ⟨other, explored, startedToo, sound, _, total, last, within, steps, ends⟩ :=
    exists_start { goal with wanted := max 1 goal.wanted } coherent (Nat.le_max_left 1 _)
  rw [started, Except.ok.injEq] at startedToo
  subst startedToo
  have active : search.phase.isFinal = false := by
    rw [interrupted.trying]
    rfl
  have final : last.phase.isFinal = true := by
    rw [ends.phase]
    exact isFinal_endOf explored
  have before := interrupted.steps.max_one.lt_of_final active steps final
  simp only [complete, started, bind, Except.bind]
  exact interrupted.run_eq coherent fresh sound (Nat.lt_of_lt_of_le before within)

/-! ### Before the first try -/

/-- A search that came to rest after so many forced commits and has not chosen yet. -/
def untried (board : Board alphabet) (forced : Nat) : Search alphabet where
  phase := .choosing
  board
  statistics := { forcedMoves := forced }

/-- Propagation that comes to rest starts a search with the forced commits counted. -/
theorem start_of_rests {forced : Nat} (rests : Rests layout given initial board forced) :
    start initial = .ok (untried board forced) := by
  unfold start
  rw [propagate_of_rests _ rests]
  simp [rested, untried, bind, Except.bind]

/-- Propagation that ends at a dead cell starts a search that has ended. -/
theorem start_of_halts {forced cell : Nat}
    (halts : Halts layout given initial board forced cell) :
    start initial = .ok { phase := .unsatisfiable, board } := by
  unfold start
  rw [propagate_of_halts _ halts]
  rfl

/-- Propagation that ends at a dead cell leaves nothing to search, whatever the token. -/
theorem complete_of_halts {forced cell : Nat}
    (halts : Halts layout given initial board forced cell) (goal : Goal)
    (isCancelled : Nat → Bool) :
    complete goal isCancelled initial = .ok { phase := .unsatisfiable, board } := by
  simp only [complete, start_of_halts halts, bind, Except.bind]
  exact run_of_final rfl isCancelled _ _

/-- The working grid is full when there is no cell to branch on. -/
theorem isFull_iff_fewest? (coherent : Coherent layout given board) :
    board.grid.isFull = true ↔ board.fewest? = none := by
  rw [fewest?_eq_none_iff, coherent.layout_eq]
  constructor
  · intro full cell inside
    rw [← coherent.grid_cellCount] at inside
    have held := (Grid.isFull_iff _).1 full cell inside
    rw [Option.isSome_iff_ne_none, ne_eq, coherent.valueAt_eq_none_iff] at held
    exact held
  · exact coherent.isFull_of_full

/-- The first choice accepts what propagation filled. -/
theorem choose_untried_of_full {forced : Nat} (rests : Rests layout given initial board forced)
    (full : board.fewest? = none) (goal : Goal) :
    (untried board forced).choose goal = .ok {
      phase := if goal.wanted ≤ 1 then .solved else .trying
      board
      solutions := [board.grid]
      statistics := { forcedMoves := forced } } :=
  (untried board forced).choose_of_full rests.coherent rests.atRest full goal

/-- A search for one solution accepts what propagation filled, whatever the token. -/
theorem complete_of_full {forced : Nat} (rests : Rests layout given initial board forced)
    (full : board.fewest? = none) (enough : goal.wanted ≤ 1) (isCancelled : Nat → Bool) :
    complete goal isCancelled initial = .ok {
      phase := .solved
      board
      solutions := [board.grid]
      statistics := { forcedMoves := forced } } := by
  have chosen := choose_untried_of_full rests full goal
  rw [if_pos enough] at chosen
  have stepped : (untried board forced).step goal (isCancelled 0) = .ok _ :=
    (step_of_not_trying (by simp [untried]) (isCancelled 0)).trans chosen
  simp only [complete, start_of_rests rests, bind, Except.bind]
  rw [run, stepped]
  exact run_of_final rfl isCancelled _ _

/-- A search that turns from its first choice to a try is interrupted there if the token
is cancelled. -/
theorem interrupted_of_choose (choosing : first.phase = .choosing)
    (chosen : first.choose goal = .ok search) (trying : search.phase = .trying)
    (raised : isCancelled 1 = true) : Interrupted goal isCancelled first 1 search := by
  refine ⟨steps_of_choose choosing chosen, trying, ?_, raised⟩
  intro step earlier before steps tries
  rw [Nat.lt_one_iff.1 before] at steps
  cases steps with
  | rest =>
      rw [choosing] at tries
      simp at tries

/-- A search for several solutions is interrupted after it accepted what propagation
filled. -/
theorem complete_of_full_of_cancelled {forced : Nat} (coherent : Coherent layout given initial)
    (fresh : initial.mark = 0) (rests : Rests layout given initial board forced)
    (full : board.fewest? = none) (more : 1 < goal.wanted) (raised : isCancelled 1 = true) :
    complete goal isCancelled initial = .ok {
      phase := .cancelled
      board := initial
      solutions := [board.grid]
      statistics := { forcedMoves := forced } } := by
  have chosen := choose_untried_of_full rests full goal
  rw [if_neg (Nat.not_le_of_lt more)] at chosen
  exact (interrupted_of_choose rfl chosen rfl raised).complete_eq coherent fresh
    (start_of_rests rests)

/-- A search is interrupted after it chose the first cell to branch on. -/
theorem complete_of_chosen_of_cancelled {forced cell : Nat}
    (coherent : Coherent layout given initial) (fresh : initial.mark = 0)
    (rests : Rests layout given initial board forced) (chosen : board.fewest? = some cell)
    (raised : isCancelled 1 = true) :
    complete goal isCancelled initial = .ok {
      phase := .cancelled
      board := initial
      statistics := { forcedMoves := forced, maxDepth := 1 } } := by
  have branched := (untried board forced).choose_of_chosen rests.atRest chosen goal
  have interrupted := interrupted_of_choose rfl branched rfl raised
  rw [interrupted.complete_eq coherent fresh (start_of_rests rests)]
  simp [withdrawn, branchOn, untried]

end Search
end Sudoku
