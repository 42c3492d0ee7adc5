import Sudoku.Proofs.Grid.Frame

/-!
# Whole overrides

A cell may override one dimension of its box and take the other from the grid. Writing
the dimension that it takes into the cell makes the override whole, and changes neither
the value nor the box shape of any cell.
-/

namespace Sudoku

variable {alphabet : Alphabet}

/-- A cell overrides both dimensions of its box or neither. -/
def Cell.IsWhole (cell : Cell alphabet) : Prop :=
  cell.boxWidth.isSome = cell.boxHeight.isSome

namespace Grid

variable {grid : Grid alphabet}

/-- The cell with both dimensions of its box shape, if it overrides one of them. -/
def wholeCell (grid : Grid alphabet) (cell : Cell alphabet) : Cell alphabet :=
  if cell.hasOverride then cell.withBoxShape (grid.shapeOf cell) else cell

/-- The grid with every override made whole. -/
def whole (grid : Grid alphabet) : Grid alphabet :=
  { grid with cells := grid.cells.map grid.wholeCell }

/-- Every override of the grid is whole. -/
def IsWhole (grid : Grid alphabet) : Prop :=
  ∀ number < grid.cellCount, (grid.cellAt number).IsWhole

/-! ### Cells -/

@[simp] theorem value_wholeCell (grid : Grid alphabet) (cell : Cell alphabet) :
    (grid.wholeCell cell).value = cell.value := by
  unfold wholeCell
  split <;> rfl

@[simp] theorem hasOverride_wholeCell (grid : Grid alphabet) (cell : Cell alphabet) :
    (grid.wholeCell cell).hasOverride = cell.hasOverride := by
  unfold wholeCell
  split
  · next overrides =>
      rw [overrides]
      rfl
  · rfl

@[simp] theorem shapeOf_wholeCell (grid : Grid alphabet) (cell : Cell alphabet) :
    grid.shapeOf (grid.wholeCell cell) = grid.shapeOf cell := by
  unfold wholeCell
  split <;> rfl

/-- A cell whose override is whole is left as it is. -/
theorem wholeCell_eq_self {cell : Cell alphabet} (isWhole : cell.IsWhole) :
    grid.wholeCell cell = cell := by
  obtain ⟨value, width, height⟩ := cell
  cases width with
  | none =>
      cases height with
      | none => rfl
      | some height => simp [Cell.IsWhole] at isWhole
  | some width =>
      cases height with
      | none => simp [Cell.IsWhole] at isWhole
      | some height => rfl

/-! ### Grids -/

@[simp] theorem cellAt_whole (grid : Grid alphabet) (number : Nat) :
    grid.whole.cellAt number = grid.wholeCell (grid.cellAt number) := by
  simp only [whole, cellAt, Array.getD_eq_getD_getElem?, Array.getElem?_map]
  cases grid.cells[number]? <;> rfl

@[simp] theorem valueAt_whole (grid : Grid alphabet) (number : Nat) :
    grid.whole.valueAt number = grid.valueAt number := by
  simp [valueAt]

/-- Making overrides whole leaves every box shape as it is. -/
@[simp] theorem shapeAt_whole (grid : Grid alphabet) (number : Nat) :
    grid.whole.shapeAt number = grid.shapeAt number := by
  unfold shapeAt
  rw [cellAt_whole]
  exact grid.shapeOf_wholeCell _

/-- A grid stays well formed when its overrides are made whole. -/
theorem WellFormed.whole (wellFormed : grid.WellFormed) : grid.whole.WellFormed where
  width_pos := wellFormed.width_pos
  height_pos := wellFormed.height_pos
  cells_size := by
    unfold Grid.whole
    rw [Array.size_map]
    exact wellFormed.cells_size
  tiles number := by
    rw [shapeAt_whole]
    exact wellFormed.tiles number

/-- A grid whose overrides are whole is left as it is. -/
theorem whole_eq_self (wellFormed : grid.WellFormed) (isWhole : grid.IsWhole) :
    grid.whole = grid := by
  have cells : grid.cells.map grid.wholeCell = grid.cells := by
    apply Array.ext
    · rw [Array.size_map]
    · intro number _ inside
      rw [Array.getElem_map]
      apply wholeCell_eq_self
      have here := isWhole number (by rwa [← wellFormed.cells_size])
      simpa [cellAt, inside] using here
  unfold whole
  rw [cells]

end Grid
end Sudoku
