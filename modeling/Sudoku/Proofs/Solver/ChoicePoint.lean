import Sudoku.Proofs.Search.ChoicePoint
import Sudoku.Proofs.Solver.Statistics

/-!
# The choice points of a solver

Whatever a solver has been through when it searches a valid grid, the choice points that it
has left are in order: it can go back to each of them, and go on from there with any of the
options that are left. So no commit of an option ever fails, nor does any other step.
-/

namespace Sudoku
namespace Solver

variable {alphabet : Alphabet} {grid : Grid alphabet}

/-- At any time of the search of a valid grid, whatever its token does, the choice points are
in order with the boards that they were opened on and the options that they have tried, and
the next step succeeds whether or not the token is cancelled. -/
theorem search_choices_orderly (built : grid.Built) (valid : grid.Valid) (solver : Solver)
    (watch : Watch) (wanted : Nat) :
    ∃ layout board, Layout.ofGrid grid = .ok layout ∧ Board.ofGrid layout grid = .ok board ∧
      (∃ total pasts last, solver.search watch wanted grid = .ok last ∧
        Search.Recalls ⟨wanted, solver.configuration.verifySolutions⟩
          (watch.cancels (solver.tokenAt watch.start)) board total pasts last ∧
        last.phase.isFinal = true) ∧
      ∀ count pasts search,
        Search.Recalls ⟨wanted, solver.configuration.verifySolutions⟩
          (watch.cancels (solver.tokenAt watch.start)) board count pasts search →
        search.Orderly pasts ∧
        ∀ isCancelled, ∃ next,
          search.step ⟨wanted, solver.configuration.verifySolutions⟩ isCancelled =
            .ok next := by
  obtain ⟨layout, first, total, last, loads, started, _, searched, reaches, final⟩ :=
    exists_search_reaches built valid solver watch wanted
  obtain ⟨pasts, recalls⟩ := reaches.exists_recalls started
  refine ⟨layout, .initial layout grid, loads.divided, loads.board,
    ⟨total, pasts, last, searched, recalls, final⟩, ?_⟩
  intro count pasts search recalls
  obtain ⟨sound, layered⟩ := recalls.sound_and_layered loads.coherent rfl
  refine ⟨layered.orderly loads.coherent sound, fun isCancelled => ?_⟩
  obtain ⟨next, stepped, _⟩ := sound.exists_step loads.coherent rfl _ isCancelled
  exact ⟨next, stepped⟩

/-- A box of three cells over three symbols, none of which is given. -/
def openRow : Grid .unsigned8 where
  height := 1
  width := 3
  cells := #[{}, {}, {}]
  box := ⟨3, 1⟩
  domain := {
    listed := [Grid.one, Grid.two, Grid.three]
    values := #[Grid.one, Grid.two, Grid.three]
    perm := .refl _
    ascending := by decide
    nonempty := by decide }
  explicitDomain := true

/-- The box is built from its row. -/
theorem built_openRow : openRow.Built := by
  have made : Grid.ofRowsOver openRow.domain [[{}, {}, {}]] ⟨3, 1⟩ = .ok openRow := by
    rfl
  exact .ofRowsOver made

/-- The search of the box for one solution ends with two choice points. The outer one has its
second and third option left, holds the first, and still leads back to where it was opened,
with any of these as its candidates. -/
theorem search_choices_orderly_openRow :
    ∃ (last : Search .unsigned8) (inner outer : ChoicePoint) (past : Search.Past .unsigned8),
      ({} : Solver).search (.still false 0) 1 openRow = .ok last ∧
      last.choices = [inner, outer] ∧ outer.options.toList = [1, 2] ∧
      outer.mark ≤ inner.mark ∧ inner.mark ≤ last.board.mark ∧
      last.board.rollback outer.mark = .ok past.base ∧
      (past.base.candidatesAt outer.cell).toList = past.tried ++ [1, 2] ∧
      ∃ value ∈ past.tried, last.board.assignedAt outer.cell = some value := by
  obtain ⟨_, _, _, _, ⟨_, pasts, last, searched, recalls, _⟩, orderly⟩ :=
    search_choices_orderly built_openRow (by decide +kernel) {} (.still false 0) 1
  obtain ⟨⟨marks, present, restorable, holds⟩, _⟩ := orderly _ _ _ recalls
  have options : (({} : Solver).search (.still false 0) 1 openRow).map
      (fun search => search.choices.map fun point => point.options.toList) =
        .ok [[2], [1, 2]] := by
    decide +kernel
  rw [searched, Except.map, Except.ok.injEq] at options
  obtain ⟨inner, outermost, choices, _, others⟩ := List.map_eq_cons_iff.1 options
  obtain ⟨outer, rest, rfl, left, nothing⟩ := List.map_eq_cons_iff.1 others
  obtain rfl := List.map_eq_nil_iff.1 nothing
  rw [choices] at marks present restorable holds
  obtain ⟨_, _, _, others, rfl⟩ := List.forall₂_cons_left_iff.1 restorable
  obtain ⟨past, _, point, _, rfl⟩ := List.forall₂_cons_left_iff.1 others
  have candidates := point.candidates
  rw [left] at candidates
  exact ⟨last, inner, outer, past, searched, choices, left,
    List.rel_of_pairwise_cons marks List.mem_cons_self, present inner List.mem_cons_self,
    point.restored, candidates, (List.forall₂_cons.1 holds).1⟩

end Solver
end Sudoku
