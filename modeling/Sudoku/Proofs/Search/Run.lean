import Sudoku.Proofs.Search.Refinement

/-!
# Runs of a search

A search that is not cancelled ends within its bound with what the recursive
search of its board has. Cancelling it can only make it end as cancelled. A
search for any solutions at all therefore never fails.
-/

namespace Sudoku
namespace Search

variable {alphabet : Alphabet} {layout : Layout} {given : Grid alphabet}
  {initial : Board alphabet} {search last : Search alphabet} {goal : Goal}

open Board

/-- What a step leads to from a sound search is sound. -/
theorem Sound.of_step (sound : Sound initial search)
    (coherent : Coherent layout given initial) (fresh : initial.mark = 0)
    {isCancelled : Bool} {next : Search alphabet}
    (stepped : search.step goal isCancelled = .ok next) : Sound initial next := by
  obtain ⟨other, steppedOther, otherSound⟩ :=
    sound.exists_step coherent fresh goal isCancelled
  rw [stepped, Except.ok.injEq] at steppedOther
  rw [steppedOther]
  exact otherSound

/-- A run takes no step after the end of a search. -/
theorem run_of_final (final : search.phase.isFinal = true) (isCancelled : Nat → Bool)
    (budget taken : Nat) : run goal isCancelled budget taken search = .ok search := by
  cases budget <;> rw [run, if_pos final]

/-- A run with a token that may be cancelled ends as cancelled. -/
def Stops (goal : Goal) (isCancelled : Nat → Bool) (budget taken : Nat)
    (search : Search alphabet) : Prop :=
  (∃ step, isCancelled step = true) ∧
    ∃ stopped, run goal isCancelled budget taken search = .ok stopped ∧
      stopped.phase = .cancelled

/-- When a search comes to its end in so many steps, then so does every run that
allows as many, unless it is cancelled. -/
theorem run_of_steps (coherent : Coherent layout given initial) (fresh : initial.mark = 0)
    (isCancelled : Nat → Bool) {count : Nat} (steps : Steps goal count search last)
    (final : last.phase.isFinal = true) (sound : Sound initial search) {budget : Nat}
    (enough : count ≤ budget) (taken : Nat) :
    run goal isCancelled budget taken search = .ok last ∨
      Stops goal isCancelled budget taken search := by
  induction steps generalizing budget taken with
  | rest search => exact .inl (run_of_final final isCancelled budget taken)
  | @step search next last count active stepped _ inductionHypothesis =>
      obtain ⟨budget, rfl⟩ := Nat.exists_eq_add_of_le' (Nat.zero_lt_of_lt enough)
      have goesOn (moved : search.step goal (isCancelled taken) = .ok next) :
          run goal isCancelled (budget + 1) taken search = .ok last ∨
            Stops goal isCancelled (budget + 1) taken search := by
        have unfolded : run goal isCancelled (budget + 1) taken search =
            run goal isCancelled budget (taken + 1) next := by
          rw [run, active, moved]
          rfl
        unfold Stops
        rw [unfolded]
        exact inductionHypothesis final (sound.of_step coherent fresh stepped)
          (Nat.le_of_succ_le_succ enough) (taken + 1)
      cases raised : isCancelled taken with
      | false => exact goesOn (by rw [raised, stepped])
      | true =>
          cases phase : search.phase with
          | choosing =>
              refine goesOn ?_
              rw [← stepped, step, step, phase]
          | trying =>
              right
              have stops := abandon_of_descends coherent fresh sound.stacked.descends
              let stopped : Search alphabet :=
                { search with board := initial, choices := [], phase := .cancelled }
              refine ⟨⟨taken, raised⟩, stopped, ?_, rfl⟩
              unfold run
              rw [active, raised, step, phase, if_pos rfl, stops]
              exact run_of_final rfl isCancelled budget (taken + 1)
          | solved | unsatisfiable | cancelled => simp [phase, Phase.isFinal] at active

/-! ### Complete searches -/

/-- The phase in which a search ends that has what an exploration has. -/
def endOf (explored : Exploration alphabet) : Phase :=
  if explored.solutions.isEmpty then .unsatisfiable else .solved

/-- The end of an exploration is the end of a search. -/
theorem isFinal_endOf (explored : Exploration alphabet) :
    (endOf explored).isFinal = true := by
  unfold endOf
  split <;> rfl

/-- A search ends with what an exploration has. -/
structure EndsWith (last : Search alphabet) (explored : Exploration alphabet) : Prop where
  exploration : last.exploration = explored
  phase : last.phase = endOf explored

/-- A search that explores up to no choice points comes to an end with one more
step. -/
theorem Explores.exists_end {bound : Nat} {base : Board alphabet}
    {explored : Exploration alphabet}
    (explores : Explores goal bound search base [] explored) (wanted : 0 < goal.wanted) :
    ∃ count last, count ≤ bound + 1 ∧ Steps goal count search last ∧
      EndsWith last explored := by
  obtain ⟨count, last, within, steps, same, outcome⟩ := explores
  by_cases enough : goal.wanted ≤ explored.solutions.length
  · rw [if_pos enough] at outcome
    refine ⟨count, last, Nat.le_succ_of_le within, steps, same, ?_⟩
    have isEmpty : explored.solutions.isEmpty = false := by
      rw [List.isEmpty_eq_false_iff, ← List.length_pos_iff]
      omega
    rw [outcome, endOf, isEmpty]
    rfl
  · rw [if_neg enough] at outcome
    obtain ⟨trying, choices, _⟩ := outcome
    have exhausted : last.tryNext = .ok last.exhaust := by rw [tryNext, choices]
    refine ⟨count + 1, last.exhaust, Nat.succ_le_succ within,
      steps.trans (steps_of_tryNext trying exhausted), same, ?_⟩
    rw [← same]
    rfl

/-- A search starts sound, and has steps to an end with what the recursive search
has. -/
theorem exists_start (goal : Goal) (coherent : Coherent layout given initial)
    (wanted : 0 < goal.wanted) :
    ∃ search explored, start initial = .ok search ∧ Sound initial search ∧
      explore goal.wanted 0 initial {} = .ok explored ∧
      ∃ count last, count ≤ stepBound search.board.domainSize search.board.openCount + 1 ∧
        Steps goal count search last ∧ EndsWith last explored := by
  let first : Search alphabet := { phase := .choosing, board := initial }
  rcases coherent.rests_or_halts with ⟨rest, forced, rests⟩ | ⟨rest, forced, cell, halts⟩
  · obtain ⟨next, explored, propagated, recursion, explores⟩ :=
      refines_of_tree coherent.tree goal first rfl wanted
    have rested : first.propagate = .ok (first.rested rest forced) :=
      first.propagate_of_rests rests
    rw [rested, Except.ok.injEq] at propagated
    rw [← propagated] at explores
    have sound : Sound initial (first.rested rest forced) :=
      ⟨.root rests.run.descends, fun _ => rests.atRest, by simp [Search.rested, first]⟩
    refine ⟨first.rested rest forced, explored, ?_, sound, recursion, ?_⟩
    · simp only [start, first] at rested ⊢
      rw [rested]
      rfl
    · have domains : (first.rested rest forced).board.domainSize = given.domain.size :=
        congrArg Domain.size rests.coherent.domain_eq
      rw [domains]
      exact explores.exists_end wanted
  · have halted := first.propagate_of_halts halts
    let halt : Search alphabet := { first with board := rest, phase := .trying }
    have sound : Sound initial halt.exhaust :=
      ⟨.root halts.run.descends, by simp [exhaust, halt, first], by simp [exhaust, halt, first]⟩
    refine ⟨halt.exhaust, {}, ?_, sound, explore_of_contradiction halts.propagated,
      0, halt.exhaust, Nat.zero_le _, .rest _, rfl, rfl⟩
    simp only [start, first] at halted ⊢
    rw [halted]
    rfl

/-- What a search starts with is sound. -/
theorem Sound.of_start (coherent : Coherent layout given initial)
    (started : start initial = .ok search) : Sound initial search := by
  obtain ⟨first, _, startedToo, sound, _⟩ := exists_start ⟨1, true⟩ coherent Nat.one_pos
  rw [started, Except.ok.injEq] at startedToo
  rw [startedToo]
  exact sound

/-- A search of a coherent board ends with what the recursive search has, unless it
is cancelled. -/
theorem exists_complete (goal : Goal) (coherent : Coherent layout given initial)
    (fresh : initial.mark = 0) (wanted : 0 < goal.wanted) :
    ∃ explored last, explore goal.wanted 0 initial {} = .ok explored ∧
      EndsWith last explored ∧
      ∀ isCancelled, complete goal isCancelled initial = .ok last ∨
        (∃ step, isCancelled step = true) ∧
          ∃ stopped, complete goal isCancelled initial = .ok stopped ∧
            stopped.phase = .cancelled := by
  obtain ⟨search, explored, started, sound, recursion, count, last, within, steps, ends⟩ :=
    exists_start goal coherent wanted
  have final : last.phase.isFinal = true := by
    rw [ends.phase]
    exact isFinal_endOf explored
  refine ⟨explored, last, recursion, ends, ?_⟩
  intro isCancelled
  have ran := run_of_steps coherent fresh isCancelled steps final sound within 0
  simp only [complete, started, bind, Except.bind]
  exact ran

/-- A search does not depend on whether solutions are checked. -/
theorem complete_verify (coherent : Coherent layout given initial)
    (fresh : initial.mark = 0) {wanted : Nat} (positive : 0 < wanted) (verify : Bool)
    (isCancelled : Nat → Bool) :
    complete ⟨wanted, verify⟩ isCancelled initial =
      complete ⟨wanted, true⟩ isCancelled initial := by
  obtain ⟨search, _, started, sound, _⟩ :=
    exists_start ⟨wanted, true⟩ coherent positive
  simp only [complete, started, bind, Except.bind]
  exact sound.run_verify coherent fresh wanted verify isCancelled _ 0

end Search
end Sudoku
