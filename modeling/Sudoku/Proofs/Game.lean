import Sudoku.Game
import Sudoku.Proofs.Error

/-!
# Going through a game

Work on the grids of a game in order stops at the first grid on which it fails, and
fails with the error of that grid under its number. When it fails on none, it has a
result for each grid.
-/

namespace Sudoku
namespace Game

variable {alphabet : Alphabet} {result : Type}

/-- The grid of the given number is the first of a game with a property. -/
def IsFirst (game : Game alphabet) (property : Grid alphabet → Prop) (number : Nat)
    (grid : Grid alphabet) : Prop :=
  property grid ∧ ∃ earlier later, game.grids = earlier ++ grid :: later ∧
    earlier.length = number ∧ ∀ other ∈ earlier, ¬property other

theorem IsFirst.mem {game : Game alphabet} {property : Grid alphabet → Prop} {number : Nat}
    {grid : Grid alphabet} (isFirst : game.IsFirst property number grid) :
    grid ∈ game.grids := by
  obtain ⟨_, earlier, later, grids, _, _⟩ := isFirst
  rw [grids]
  simp

/-- The first grid with a property is the one of its number. -/
theorem IsFirst.getElem? {game : Game alphabet} {property : Grid alphabet → Prop}
    {number : Nat} {grid : Grid alphabet} (isFirst : game.IsFirst property number grid) :
    game.grids[number]? = some grid := by
  obtain ⟨_, earlier, later, grids, rfl, _⟩ := isFirst
  rw [grids]
  simp

/-- No grid before the first with a property has it. -/
theorem IsFirst.not_of_lt {game : Game alphabet} {property : Grid alphabet → Prop}
    {number other : Nat} {grid otherGrid : Grid alphabet}
    (isFirst : game.IsFirst property number grid) (before : other < number)
    (found : game.grids[other]? = some otherGrid) : ¬property otherGrid := by
  obtain ⟨_, earlier, later, grids, rfl, none⟩ := isFirst
  rw [grids, List.getElem?_append_left before] at found
  exact none otherGrid (List.mem_of_getElem? found)

/-- A game with a grid that has a property has a first one. -/
theorem exists_isFirst {game : Game alphabet} {property : Grid alphabet → Prop}
    (found : ∃ grid ∈ game.grids, property grid) :
    ∃ number grid, game.IsFirst property number grid := by
  obtain ⟨grids⟩ := game
  induction grids with
  | nil => simp at found
  | cons head rest inductionHypothesis =>
      by_cases holds : property head
      · exact ⟨0, head, holds, [], rest, rfl, rfl, by simp⟩
      · have foundLater : ∃ grid ∈ rest, property grid := by simpa [holds] using found
        obtain ⟨_, grid, gridHolds, earlier, later, rfl, _, none⟩ :=
          inductionHypothesis foundLater
        refine ⟨earlier.length + 1, grid, gridHolds, head :: earlier, later, rfl, rfl, ?_⟩
        exact List.forall_mem_cons.2 ⟨holds, none⟩

/-- Only one grid is the first with a property. -/
theorem IsFirst.unique {game : Game alphabet} {property : Grid alphabet → Prop}
    {number other : Nat} {grid otherGrid : Grid alphabet}
    (isFirst : game.IsFirst property number grid)
    (otherFirst : game.IsFirst property other otherGrid) :
    number = other ∧ grid = otherGrid := by
  obtain ⟨holds, earlier, later, grids, rfl, none⟩ := isFirst
  obtain ⟨otherHolds, otherEarlier, otherLater, sameGrids, rfl, otherNone⟩ := otherFirst
  rw [grids] at sameGrids
  rcases List.append_eq_append_iff.1 sameGrids with
    ⟨between, rfl, rest⟩ | ⟨between, rfl, rest⟩ <;> cases between <;> simp_all

section

variable {work : Nat → Grid alphabet → Except Error result}

/-- Work on some grids and on those after them is work on them all. -/
theorem traverseFrom_append (number : Nat) (earlier later : List (Grid alphabet)) :
    traverseFrom work number (earlier ++ later) = (do
      let first ← traverseFrom work number earlier
      let others ← traverseFrom work (number + earlier.length) later
      .ok (first ++ others)) := by
  induction earlier generalizing number with
  | nil =>
      rw [List.nil_append, List.length_nil, Nat.add_zero]
      cases traverseFrom work number later <;> rfl
  | cons grid rest inductionHypothesis =>
      rw [List.cons_append, traverseFrom, traverseFrom, inductionHypothesis, List.length_cons,
        Nat.succ_add_eq_add_succ]
      cases (work number grid).mapError (·.inGrid number) with
      | error error => rfl
      | ok first =>
          cases traverseFrom work (number + 1) rest with
          | error error => rfl
          | ok others => cases traverseFrom work (number + (rest.length + 1)) later <;> rfl

/-- Work fails with the error of the first grid on which it fails. -/
theorem traverseFrom_eq_error_iff (number : Nat) (grids : List (Grid alphabet))
    (error : Error) :
    traverseFrom work number grids = .error error ↔
      ∃ earlier grid later results cause, grids = earlier ++ grid :: later ∧
        traverseFrom work number earlier = .ok results ∧
        work (number + earlier.length) grid = .error cause ∧
        cause.inGrid (number + earlier.length) = error := by
  constructor
  · intro failed
    -- The number of the first grid goes up along the grids, so the hypothesis is for
    -- every number.
    induction grids generalizing number with
    | nil => simp [traverseFrom] at failed
    | cons grid rest inductionHypothesis =>
        rw [traverseFrom, Error.bind_eq_error_iff, Error.mapError_eq_error_iff] at failed
        rcases failed with ⟨cause, failed, rfl⟩ | ⟨first, worked, failed⟩
        · exact ⟨[], grid, rest, [], cause, rfl, rfl, failed, rfl⟩
        · rw [Error.bind_eq_error_iff] at failed
          rcases failed with failed | ⟨_, _, failed⟩
          · obtain ⟨earlier, other, later, results, cause, rfl, traversed, fails, rfl⟩ :=
              inductionHypothesis (number + 1) failed
            refine ⟨grid :: earlier, other, later, first :: results, cause, rfl, ?_, ?_, ?_⟩
            · simp only [traverseFrom, worked, traversed, bind, Except.bind]
            · rwa [List.length_cons, ← Nat.succ_add_eq_add_succ]
            · rw [List.length_cons, ← Nat.succ_add_eq_add_succ]
          · simp at failed
  · rintro ⟨earlier, grid, later, results, cause, rfl, traversed, failed, rfl⟩
    rw [traverseFrom_append, traversed]
    simp only [traverseFrom, failed, Except.mapError, bind, Except.bind]

/-- Work that fails on no grid under its number has a result. -/
theorem exists_traverseFrom_of_getElem? {grids : List (Grid alphabet)} {number : Nat}
    (works : ∀ place grid, grids[place]? = some grid →
      ∃ made, work (number + place) grid = .ok made) :
    ∃ results, traverseFrom work number grids = .ok results := by
  cases outcome : traverseFrom work number grids with
  | ok results => exact ⟨results, rfl⟩
  | error error =>
      obtain ⟨earlier, grid, later, _, cause, rfl, _, failed, _⟩ :=
        (traverseFrom_eq_error_iff number grids error).1 outcome
      obtain ⟨made, worked⟩ := works earlier.length grid (by simp)
      rw [failed] at worked
      simp at worked

/-- Work that fails on no grid has a result. -/
theorem exists_traverseFrom {grids : List (Grid alphabet)}
    (works : ∀ number, ∀ grid ∈ grids, ∃ made, work number grid = .ok made) (number : Nat) :
    ∃ results, traverseFrom work number grids = .ok results :=
  exists_traverseFrom_of_getElem? fun _ grid found =>
    works _ grid (List.mem_of_getElem? found)

/-- Work that fails on some grid, and on none before it, fails with the error of that
grid. -/
theorem traverseFrom_eq_error_of_getElem? {grids : List (Grid alphabet)} {number : Nat}
    {grid : Grid alphabet} {cause : Error} (found : grids[number]? = some grid)
    (works : ∀ earlier < number, ∀ other, grids[earlier]? = some other →
      ∃ made, work earlier other = .ok made)
    (failed : work number grid = .error cause) :
    traverseFrom work 0 grids = .error (cause.inGrid number) := by
  obtain ⟨inside, here⟩ := List.getElem?_eq_some_iff.1 found
  have length : (grids.take number).length = number := List.length_take_of_le (Nat.le_of_lt inside)
  have split : grids = grids.take number ++ grid :: grids.drop (number + 1) := by
    rw [← here, List.getElem_cons_drop, List.take_append_drop]
  obtain ⟨results, traversed⟩ : ∃ results,
      traverseFrom work 0 (grids.take number) = .ok results := by
    apply exists_traverseFrom_of_getElem?
    intro place other otherFound
    rw [List.getElem?_take, Option.ite_none_right_eq_some] at otherFound
    rw [Nat.zero_add]
    exact works place otherFound.1 other otherFound.2
  rw [traverseFrom_eq_error_iff]
  refine ⟨_, grid, _, results, cause, split, traversed, ?_, ?_⟩
  · rwa [length, Nat.zero_add]
  · rw [length, Nat.zero_add]

/-- Work whose results are related to the grids has related results. -/
theorem forall₂_of_traverseFrom {relation : result → Grid alphabet → Prop}
    {grids : List (Grid alphabet)} {number : Nat} {results : List result}
    (relates : ∀ number, ∀ grid ∈ grids, ∀ made, work number grid = .ok made →
      relation made grid)
    (traversed : traverseFrom work number grids = .ok results) :
    List.Forall₂ relation results grids := by
  induction grids generalizing number results with
  | nil =>
      rw [traverseFrom, Except.ok.injEq] at traversed
      rw [← traversed]
      exact .nil
  | cons grid rest inductionHypothesis =>
      simp only [traverseFrom, Error.bind_eq_ok_iff, Error.mapError_eq_ok_iff] at traversed
      obtain ⟨first, worked, others, traversedRest, made⟩ := traversed
      rw [← Except.ok.inj made]
      refine .cons (relates number grid List.mem_cons_self first worked)
        (inductionHypothesis ?_ traversedRest)
      intro other grid member
      exact relates other grid (List.mem_cons_of_mem _ member)

/-- Work fails on the first grid that does not have what it takes. -/
theorem IsFirst.traverseFrom_eq_error {game : Game alphabet} {property : Grid alphabet → Prop}
    {number : Nat} {grid : Grid alphabet} {cause : Error}
    (isFirst : game.IsFirst property number grid)
    (works : ∀ number other, other ∈ game.grids → ¬property other →
      ∃ made, work number other = .ok made)
    (failed : work number grid = .error cause) :
    traverseFrom work 0 game.grids = .error (cause.inGrid number) := by
  refine traverseFrom_eq_error_of_getElem? isFirst.getElem? ?_ failed
  intro earlier before other found
  exact works earlier other (List.mem_of_getElem? found) (isFirst.not_of_lt before found)

end

end Game
end Sudoku
