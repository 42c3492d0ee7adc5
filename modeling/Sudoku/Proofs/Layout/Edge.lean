import Sudoku.Grid.Picture
import Sudoku.Proofs.Layout.Exactness

/-!
# Where boxes end

A picture reads the right and the lower edge of a box off the shape of the cell before the
edge, by divisibility. In a grid with a layout the cells of a box agree on their shape, so
a box ends there exactly when the next cell belongs to another box.
-/

namespace Sudoku

variable {alphabet : Alphabet} {grid : Grid alphabet} {layout : Layout}

/-- A place falls into the same block as its successor unless it ends the block. -/
private theorem succ_div_eq_div_iff (span place : Nat) :
    (place + 1) / span = place / span ↔ (place + 1) % span ≠ 0 := by
  rw [Nat.succ_div, Ne, ← Nat.dvd_iff_mod_eq_zero]
  split <;> simp_all

namespace Layout

section

variable (wellFormed : grid.WellFormed) (found : ofGrid grid = .ok layout)

include wellFormed found

/-- Positions in the grid have boxes. They have the same one when the second falls into the
tile of the first, in the shape that the first has. -/
theorem exists_boxAt_eq_iff (first second : Position) {shape : BoxShape}
    (firstInside : grid.contains first = true) (secondInside : grid.contains second = true)
    (shaped : grid.shapeAt (first.number grid.width) = shape) :
    ∃ box other, layout.boxAt first = .ok box ∧ layout.boxAt second = .ok other ∧
      (box = other ↔ second.row / shape.height = first.row / shape.height ∧
        second.column / shape.width = first.column / shape.width) := by
  obtain ⟨cell, inside, rfl⟩ := (Grid.contains_iff first).1 firstInside
  obtain ⟨other, otherInside, rfl⟩ := (Grid.contains_iff second).1 secondInside
  rw [Position.number_ofNumber] at shaped
  refine ⟨_, _, boxAt_ofNumber found inside, boxAt_ofNumber found otherInside, ?_⟩
  rw [boxOf_eq_iff wellFormed found inside otherInside, Grid.mem_block_iff wellFormed inside,
    shaped, BoxShape.tile, BoxShape.tile, Position.mk.injEq]
  simp only [otherInside, true_and, Position.row_ofNumber, Position.column_ofNumber]

/-- A box ends with a column when the cell to the right belongs to another box. -/
theorem endsBoxRow_iff {row column : Nat} (rowInside : row < grid.height)
    (columnInside : column + 1 < grid.width) :
    ∃ left right, layout.boxAt ⟨row, column⟩ = .ok left ∧
      layout.boxAt ⟨row, column + 1⟩ = .ok right ∧
      (grid.endsBoxRow row column = true ↔ left ≠ right) := by
  obtain ⟨left, right, leftFound, rightFound, same⟩ :=
    exists_boxAt_eq_iff wellFormed found ⟨row, column⟩ ⟨row, column + 1⟩
      (by simp [Grid.contains, rowInside, Nat.lt_of_succ_lt columnInside])
      (by simp [Grid.contains, rowInside, columnInside]) rfl
  refine ⟨left, right, leftFound, rightFound, ?_⟩
  rw [Ne, same, succ_div_eq_div_iff, Grid.endsBoxRow, beq_iff_eq]
  simp

/-- A box ends with a row when the cell below belongs to another box. -/
theorem endsBoxColumn_iff {row column : Nat} (rowInside : row + 1 < grid.height)
    (columnInside : column < grid.width) :
    ∃ above below, layout.boxAt ⟨row, column⟩ = .ok above ∧
      layout.boxAt ⟨row + 1, column⟩ = .ok below ∧
      (grid.endsBoxColumn row column = true ↔ above ≠ below) := by
  obtain ⟨above, below, aboveFound, belowFound, same⟩ :=
    exists_boxAt_eq_iff wellFormed found ⟨row, column⟩ ⟨row + 1, column⟩
      (by simp [Grid.contains, Nat.lt_of_succ_lt rowInside, columnInside])
      (by simp [Grid.contains, rowInside, columnInside]) rfl
  refine ⟨above, below, aboveFound, belowFound, ?_⟩
  rw [Ne, same, succ_div_eq_div_iff, Grid.endsBoxColumn, beq_iff_eq]
  simp

end

end Layout
end Sudoku
