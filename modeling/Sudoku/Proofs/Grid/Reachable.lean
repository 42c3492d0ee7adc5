import Sudoku.Proofs.Board.Calls
import Sudoku.Proofs.Grid.Building
import Sudoku.Proofs.InPlace
import Sudoku.Proofs.Message.Denotation
import Sudoku.Proofs.Solver.Exactness

/-!
# Reachable grids

Grids come from rows of cells, from codes, from messages, from solvers and from the boards
that solvers work on, and one cell after another may then be written or emptied. All grids
that come about so have a form, and those without a domain of their own are over the
numbers of their rows. An edit changes the value of one cell and nothing else, and it
fails, and changes nothing, when there is no such cell.
-/

namespace Sudoku

variable {alphabet : Alphabet} {grid next solution : Grid alphabet}

/-! ### Edits -/

/-- What can be done to a cell of a grid: a symbol is written into it, or it is emptied. -/
inductive Edit (alphabet : Alphabet)
  | commit (position : Position) (symbol : Symbol alphabet)
  | clear (position : Position)
  deriving DecidableEq

namespace Edit

/-- The position of the cell that an edit is for. -/
def position : Edit alphabet → Position
  | .commit position _ => position
  | .clear position => position

/-- The value that the cell has after an edit. -/
def value : Edit alphabet → Option (Symbol alphabet)
  | .commit _ symbol => some symbol
  | .clear _ => none

/-- Edit a grid in place: the position is checked before the value is written. -/
def work (edit : Edit alphabet) : InPlace (Grid alphabet) Unit := do
  let grid ← get
  if grid.contains edit.position then
    set (grid.setValueAt (edit.position.number grid.width) edit.value)
  else throw (.outOfBounds (.ofPosition edit.position))

end Edit

namespace Grid

/-- The grid that an edit makes of a grid, unless it fails. -/
def edit (grid : Grid alphabet) : Edit alphabet → Except Error (Grid alphabet)
  | .commit position symbol => grid.commit position symbol
  | .clear position => grid.clear position

/-- The grid that an edit leaves behind, whether it succeeds or fails. -/
def after (grid : Grid alphabet) (edit : Edit alphabet) : Grid alphabet :=
  edit.work.left grid

/-- A grid differs from an earlier one by an edit: all is as before, but for the value of
the cell that the edit is for. -/
structure Edited (grid : Grid alphabet) (edit : Edit alphabet) (next : Grid alphabet) :
    Prop where
  height : next.height = grid.height
  width : next.width = grid.width
  box : next.box = grid.box
  domain : next.domain = grid.domain
  explicitDomain : next.explicitDomain = grid.explicitDomain
  cell : ∀ position, next.cell position = (grid.cell position).map fun cell =>
    if position = edit.position then { cell with value := edit.value } else cell

theorem edit_eq_setValue (grid : Grid alphabet) (edit : Edit alphabet) :
    grid.edit edit = grid.setValue edit.position edit.value := by
  cases edit <;> rfl

/-- Positions inside a grid are told apart by their numbers. -/
theorem number_eq_number_iff {first second : Position} (firstInside : grid.contains first)
    (secondInside : grid.contains second) :
    first.number grid.width = second.number grid.width ↔ first = second := by
  simp only [contains, Bool.and_eq_true, decide_eq_true_eq] at firstInside secondInside
  constructor
  · intro same
    rw [← Position.ofNumber_number firstInside.2, same, Position.ofNumber_number secondInside.2]
  · rintro rfl
    rfl

/-- The number of a position inside a grid is that of a cell. -/
theorem number_lt_cellCount {position : Position} (inside : grid.contains position) :
    position.number grid.width < grid.cellCount := by
  simp only [contains, Bool.and_eq_true, decide_eq_true_eq] at inside
  have rowBelow := Nat.mul_le_mul_right grid.width inside.1
  rw [Nat.succ_mul] at rowBelow
  have columnBelow := inside.2
  unfold Position.number cellCount
  omega

/-- The cell at a position after a value was written. -/
theorem cell_setValueAt (sizes : grid.cells.size = grid.cellCount) (number : Nat)
    (value : Option (Symbol alphabet)) (position : Position) :
    (grid.setValueAt number value).cell position = (grid.cell position).map fun cell =>
      if number = position.number grid.width then { cell with value } else cell := by
  have contains : (grid.setValueAt number value).contains position =
      grid.contains position := rfl
  have width : (grid.setValueAt number value).width = grid.width := rfl
  unfold Grid.cell
  rw [contains, width]
  by_cases here : grid.contains position
  · rw [if_pos here, if_pos here, cellAt_setValueAt, sizes]
    simp only [number_lt_cellCount here, and_true]
    rfl
  · rw [if_neg here, if_neg here]
    rfl

/-- Writing a value inside a grid with all its cells is an edit. -/
theorem edited_setValueAt (sizes : grid.cells.size = grid.cellCount) {edit : Edit alphabet}
    (inside : grid.contains edit.position) :
    Edited grid edit
      (grid.setValueAt (edit.position.number grid.width) edit.value) where
  height := rfl
  width := rfl
  box := rfl
  domain := rfl
  explicitDomain := rfl
  cell position := by
    rw [cell_setValueAt sizes]
    by_cases here : grid.contains position
    · simp only [number_eq_number_iff inside here, eq_comm (a := edit.position)]
    · rw [cell, if_neg here]
      rfl

/-- Editing in place does what an edit does. -/
theorem after_of_ok {edit : Edit alphabet} (edited : grid.edit edit = .ok next) :
    grid.after edit = next := by
  rw [edit_eq_setValue] at edited
  apply InPlace.left_of_ok
  unfold Edit.work
  rw [InPlace.get_bind]
  unfold setValue at edited
  split at edited
  · next inside =>
      rw [Except.ok.injEq] at edited
      rw [if_pos inside, ← edited]
      rfl
  · cases edited

/-- Editing in place fails before anything was written. -/
theorem after_of_error {edit : Edit alphabet} {error : Error}
    (failed : grid.edit edit = .error error) : grid.after edit = grid := by
  rw [edit_eq_setValue] at failed
  unfold setValue at failed
  split at failed
  · cases failed
  · next outside =>
      apply InPlace.left_of_error
      rw [Edit.work, InPlace.get_bind, if_neg outside]
      rfl

/-- An edit of a cell of the grid succeeds, and what it leaves is the edited grid. -/
theorem exists_edited (sizes : grid.cells.size = grid.cellCount) {edit : Edit alphabet}
    (inside : grid.contains edit.position = true) :
    ∃ next, grid.edit edit = .ok next ∧ Edited grid edit next ∧ grid.after edit = next := by
  have edited : grid.edit edit =
      .ok (grid.setValueAt (edit.position.number grid.width) edit.value) := by
    rw [edit_eq_setValue, setValue, if_pos inside]
  exact ⟨_, edited, edited_setValueAt sizes inside, after_of_ok edited⟩

/-- An edit beyond the cells of the grid fails, and leaves the grid as it is. -/
theorem edit_eq_error {edit : Edit alphabet}
    (outside : grid.contains edit.position = false) :
    grid.edit edit = .error (.outOfBounds (.ofPosition edit.position)) ∧
      grid.after edit = grid := by
  have failed : grid.edit edit = .error (.outOfBounds (.ofPosition edit.position)) := by
    rw [edit_eq_setValue, setValue, outside]
    rfl
  exact ⟨failed, after_of_error failed⟩

/-- A built grid is still built after an edit. -/
theorem Built.after (built : grid.Built) (edit : Edit alphabet) : (grid.after edit).Built := by
  cases edited : grid.edit edit with
  | ok next =>
      rw [after_of_ok edited]
      rw [edit_eq_setValue] at edited
      exact built.setValue edited
  | error error =>
      rw [after_of_error edited]
      exact built

/-! ### Solutions -/

/-- A grid that a solver gets to search has a board. -/
theorem Built.exists_loads (built : grid.Built) {solver : Solver} {watch : Watch}
    {wanted : Nat} {search : Search alphabet}
    (searched : solver.search watch wanted grid = .ok search) :
    ∃ layout, grid.Loads layout := by
  rcases loads_or_rejects built.wellFormed with ⟨_, loads⟩ | ⟨_, error, rejects⟩
  · exact loads
  · rw [rejects.search_eq] at searched
    simp at searched

/-- What a solver finds is built. -/
theorem Built.of_solve (built : grid.Built) {solver : Solver} {watch : Watch}
    (solved : solver.solve watch grid = .ok (.solved solution)) : solution.Built := by
  cases searched : solver.search watch 1 grid with
  | error error =>
      simp [Solver.solve, Solver.solveWithStatistics, searched, Except.map] at solved
  | ok search =>
      obtain ⟨layout, loads⟩ := built.exists_loads searched
      rcases Solver.solve_cases loads solver watch with found | ⟨_, cancelled⟩
      swap
      · simp [cancelled] at solved
      rw [found] at solved
      have completes := (Solver.mem_successes_iff loads solution).1
      cases listed : (Board.initial layout grid).successes with
      | nil => simp [listed] at solved
      | cons success rest =>
          rw [listed] at solved completes
          obtain rfl : success = solution := by simpa using solved
          exact (completes List.mem_cons_self).built built

/-- What a solver finds to be the only solution is built. -/
theorem Built.of_checkUniqueness (built : grid.Built) {solver : Solver} {watch : Watch}
    (unique : solver.checkUniqueness watch grid = .ok (.unique solution)) :
    solution.Built := by
  cases searched : solver.search watch 2 grid with
  | error error => simp [Solver.checkUniqueness, searched, Except.map] at unique
  | ok search =>
      obtain ⟨layout, loads⟩ := built.exists_loads searched
      rcases Solver.checkUniqueness_cases loads solver watch with found | ⟨_, cancelled⟩
      swap
      · simp [cancelled] at unique
      rw [found] at unique
      have completes := (Solver.mem_successes_iff loads solution).1
      cases listed : (Board.initial layout grid).successes with
      | nil => simp [listed] at unique
      | cons success rest =>
          cases rest with
          | nil =>
              rw [listed] at unique completes
              obtain rfl : success = solution := by simpa using unique
              exact (completes List.mem_cons_self).built built
          | cons second others => simp [listed] at unique

/-! ### Reachability -/

/-- The grids that come about by building, reading, decoding and solving, and by edits. -/
inductive Reachable : Grid alphabet → Prop
  | ofRows {rows : List (List (Cell alphabet))} {box : BoxShape} {grid : Grid alphabet}
      (made : ofRows rows box = .ok grid) : Reachable grid
  | ofRowsOver {domain : Domain alphabet} {rows : List (List (Cell alphabet))}
      {box : BoxShape} {grid : Grid alphabet} (made : ofRowsOver domain rows box = .ok grid) :
      Reachable grid
  | blank {height width : Nat} {box : BoxShape} {grid : Grid alphabet}
      (made : blank height width box = .ok grid) : Reachable grid
  | ofCode {code : String} {grid : Grid alphabet} (read : ofCode code = .ok grid) :
      Reachable grid
  | decoded {message : GameMessage} {game : Game alphabet} {grid : Grid alphabet}
      (decoded : message.decode = .ok game) (member : grid ∈ game.grids) : Reachable grid
  | solved {grid solution : Grid alphabet} {solver : Solver} {watch : Watch}
      (reachable : Reachable grid)
      (solved : solver.solve watch grid = .ok (.solved solution)) : Reachable solution
  | unique {grid solution : Grid alphabet} {solver : Solver} {watch : Watch}
      (reachable : Reachable grid)
      (unique : solver.checkUniqueness watch grid = .ok (.unique solution)) :
      Reachable solution
  | working {shapes : Alphabet} {shaped : Grid shapes} {layout : Layout}
      {given : Grid alphabet} {first : Board alphabet} (calls : List Board.Call)
      (reachable : Reachable given) (divided : Layout.ofGrid shaped = .ok layout)
      (made : Board.ofGrid layout given = .ok first) :
      Reachable (first.follow calls).grid
  | after {grid : Grid alphabet} (edit : Edit alphabet) (reachable : Reachable grid) :
      Reachable (grid.after edit)

/-- Whatever way a grid was reached, it can be had by building and writing values. -/
theorem Reachable.built (reachable : grid.Reachable) : grid.Built := by
  induction reachable with
  | ofRows made => exact .ofRows made
  | ofRowsOver made => exact .ofRowsOver made
  | blank made => exact built_blank made
  | ofCode read => exact built_of_ofCode read
  | decoded decoded member =>
      exact (((GameMessage.decode_eq_ok_iff _ _).1 decoded).2 _ member).1
  | solved _ solved built => exact built.of_solve solved
  | unique _ unique built => exact built.of_checkUniqueness unique
  | working calls _ divided made built =>
      have tracked := (Board.tracked_follow divided built made calls).2
      exact built.of_frame_eq tracked.coherent.frame_eq
  | after edit _ built => exact built.after edit

/-- What holds of a grid throughout: it has as many cells as its dimensions say, its rows
have form, and without a domain of its own it is over the numbers of its rows. -/
structure Invariant (grid : Grid alphabet) : Prop where
  cells_size : grid.cells.size = grid.height * grid.width
  form : HasForm grid.rows grid.box
  numbered : grid.explicitDomain = false → alphabet.Numbers grid.height
  domain : grid.explicitDomain = false →
    grid.domain.listed.map Symbol.value = Symbol.numbersUpTo grid.height

/-- Built grids satisfy the invariant. -/
theorem Built.invariant (built : grid.Built) : grid.Invariant where
  cells_size := built.wellFormed.cells_size
  form := (flaw?_eq_none_iff_hasForm _ _).1 (flaw?_rows built.wellFormed)
  numbered unnamed := by
    have positive := built.wellFormed.height_pos
    rw [Alphabet.numbers_iff positive, ← Domain.exists_default_iff positive]
    exact ⟨_, built.default_domain unnamed⟩
  domain unnamed := (Domain.default_eq_ok_iff _ _).1 (built.default_domain unnamed)

/-- Building from rows, over the default domain or another one, and building without values
succeed on rows that have form and, without a domain, are numbered, and fail with the first
violation otherwise. All grids that are reached from there satisfy the same, and an edit of
one changes the value of the cell that it is for, or fails when there is no such cell. -/
theorem reachable_invariant :
    (∀ (rows : List (List (Cell alphabet))) box, Builds none rows box (ofRows rows box)) ∧
    (∀ (domain : Domain alphabet) rows box,
      Builds (some domain) rows box (ofRowsOver domain rows box)) ∧
    (∀ height width box,
      Builds none (List.replicate height (List.replicate width ({} : Cell alphabet))) box
        (blank height width box)) ∧
    ∀ grid : Grid alphabet, grid.Reachable →
      grid.Invariant ∧
      ∀ edit : Edit alphabet,
        (grid.contains edit.position = true →
          ∃ next, grid.edit edit = .ok next ∧ Edited grid edit next ∧
            grid.after edit = next) ∧
        (grid.contains edit.position = false →
          grid.edit edit = .error (.outOfBounds (.ofPosition edit.position)) ∧
            grid.after edit = grid) := by
  refine ⟨builds_ofRows, builds_ofRowsOver, builds_blank, ?_⟩
  intro grid reachable
  have built := reachable.built
  refine ⟨built.invariant, fun edit => ⟨?_, edit_eq_error⟩⟩
  exact exists_edited built.wellFormed.cells_size

/-- The band is reached. -/
theorem reachable_openBand : openBand.Reachable :=
  .ofRowsOver ofRowsOver_openBand

/-- The band keeps the invariant, is as it was after a symbol was committed beyond its rows, and
changes in its sixth cell only when one is committed there. -/
theorem reachable_invariant_openBand :
    openBand.Reachable ∧ openBand.Invariant ∧
      openBand.after (.commit ⟨2, 0⟩ one) = openBand ∧
      ∃ next, openBand.edit (.commit ⟨1, 1⟩ four) = .ok next ∧
        Edited openBand (.commit ⟨1, 1⟩ four) next ∧
        openBand.after (.commit ⟨1, 1⟩ four) = next :=
  have holds := reachable_invariant.2.2.2 openBand reachable_openBand
  ⟨reachable_openBand, holds.1, ((holds.2 (.commit ⟨2, 0⟩ one)).2 rfl).2,
    (holds.2 (.commit ⟨1, 1⟩ four)).1 rfl⟩

end Grid
end Sudoku
