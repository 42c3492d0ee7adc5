import Sudoku.Layout
import Sudoku.Proofs.Grid.WellFormed

/-!
# The frame of a grid

The frame of a grid is all of it but its values: the dimensions, the default box
shape, the overrides of every cell, and the domain in the order it was listed. A
grid is its frame together with the values of its cells.
-/

namespace Sudoku
namespace Grid

variable {alphabet : Alphabet}

/-- The grid without its values. -/
def frame (grid : Grid alphabet) : Grid alphabet :=
  { grid with cells := grid.cells.map fun cell => { cell with value := none } }

/-! ### What a frame keeps -/

section

variable {first second : Grid alphabet} (frames : first.frame = second.frame)

include frames

theorem height_eq_of_frame_eq : first.height = second.height :=
  congrArg (fun grid => grid.height) frames

theorem width_eq_of_frame_eq : first.width = second.width :=
  congrArg (fun grid => grid.width) frames

theorem domain_eq_of_frame_eq : first.domain = second.domain :=
  congrArg (fun grid => grid.domain) frames

theorem cellCount_eq_of_frame_eq : first.cellCount = second.cellCount := by
  unfold cellCount
  rw [height_eq_of_frame_eq frames, width_eq_of_frame_eq frames]

theorem cells_size_eq_of_frame_eq : first.cells.size = second.cells.size := by
  have sizes := congrArg (fun grid => grid.cells.size) frames
  simpa [frame] using sizes

/-- Grids of one frame have cells that differ in their values only. -/
theorem withoutValue_eq_of_frame_eq (number : Nat) :
    ({ first.cellAt number with value := none } : Cell alphabet) =
      { second.cellAt number with value := none } := by
  have cells := congrArg (fun grid => grid.cells[number]?) frames
  simp only [frame, Array.getElem?_map] at cells
  simp only [cellAt, Array.getD_eq_getD_getElem?]
  cases firstCell : first.cells[number]? <;>
    cases secondCell : second.cells[number]? <;>
    simp_all

/-- The shape of a cell belongs to the frame. -/
theorem shapeAt_eq_of_frame_eq (number : Nat) :
    first.shapeAt number = second.shapeAt number := by
  have boxes : first.box = second.box := congrArg (fun grid => grid.box) frames
  have cells := withoutValue_eq_of_frame_eq frames number
  simp only [Cell.mk.injEq, true_and] at cells
  unfold shapeAt shapeOf
  rw [boxes, cells.1, cells.2]

/-- Grids of one frame with the same values are equal. -/
theorem eq_of_frame_eq
    (values : ∀ number, first.valueAt number = second.valueAt number) :
    first = second := by
  have cells : first.cells = second.cells := by
    apply Array.ext (cells_size_eq_of_frame_eq frames)
    intro number inFirst inSecond
    have rest := withoutValue_eq_of_frame_eq frames number
    have value := values number
    simp only [valueAt, cellAt, Array.getD_eq_getD_getElem?, inFirst, inSecond,
      Array.getElem?_eq_getElem, Option.getD_some, Cell.mk.injEq, true_and] at rest value
    cases firstCell : first.cells[number]
    cases secondCell : second.cells[number]
    simp_all
  have boxes : first.box = second.box := congrArg (fun grid => grid.box) frames
  have flags : first.explicitDomain = second.explicitDomain :=
    congrArg (fun grid => grid.explicitDomain) frames
  have heights := height_eq_of_frame_eq frames
  have widths := width_eq_of_frame_eq frames
  have domains := domain_eq_of_frame_eq frames
  cases first
  cases second
  simp_all

end

/-! ### Writing values -/

/-- Writing a value keeps the frame. -/
@[simp] theorem frame_setValueAt (grid : Grid alphabet) (number : Nat)
    (value : Option (Symbol alphabet)) :
    (grid.setValueAt number value).frame = grid.frame := by
  have cells : (grid.setValueAt number value).frame.cells = grid.frame.cells := by
    apply Array.ext_getElem?
    intro other
    simp only [frame, setValueAt, Array.getElem?_map, Array.getElem?_modify]
    split
    · cases grid.cells[other]? <;> rfl
    · rfl
  simpa [frame, setValueAt] using cells

/-- The value of a cell after a value was written. -/
theorem valueAt_setValueAt (grid : Grid alphabet) (number other : Nat)
    (value : Option (Symbol alphabet)) :
    (grid.setValueAt number value).valueAt other =
      if number = other ∧ other < grid.cells.size then value else grid.valueAt other := by
  unfold valueAt
  rw [cellAt_setValueAt]
  split <;> rfl

/-- There are no values beyond the cells. -/
theorem valueAt_eq_none_of_le {grid : Grid alphabet} {number : Nat}
    (outside : grid.cells.size ≤ number) : grid.valueAt number = none := by
  simp [valueAt, cellAt, outside]

/-- Only cells of the grid hold values. -/
theorem lt_size_of_valueAt {grid : Grid alphabet} {number : Nat}
    {symbol : Symbol alphabet} (held : grid.valueAt number = some symbol) :
    number < grid.cells.size := by
  by_contra outside
  rw [valueAt_eq_none_of_le (Nat.le_of_not_lt outside)] at held
  simp at held

end Grid
end Sudoku
