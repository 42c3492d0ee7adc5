import Mathlib.Data.List.Enum
import Sudoku.Grid.Basic

/-!
# Well-formed grids

A grid is well formed when it has cells, is rectangular, and the box shape of
every cell tiles it. Every grid that is built from rows is well formed, and
writing values keeps it so.
-/

namespace Sudoku

/-- Boxes of this shape tile a grid of the given dimensions. -/
structure BoxShape.Tiles (shape : BoxShape) (height width : Nat) : Prop where
  width_pos : 0 < shape.width
  height_pos : 0 < shape.height
  width_dvd : shape.width ∣ width
  height_dvd : shape.height ∣ height

namespace Grid

variable {alphabet : Alphabet}

/-- A grid with cells, whose box shapes all tile it. -/
structure WellFormed (grid : Grid alphabet) : Prop where
  width_pos : 0 < grid.width
  height_pos : 0 < grid.height
  cells_size : grid.cells.size = grid.cellCount
  tiles : ∀ number, (grid.shapeAt number).Tiles grid.height grid.width

/-- The grids that come from rows of cells, with values written or cleared
afterwards. -/
inductive Built : Grid alphabet → Prop
  | ofRows {rows : List (List (Cell alphabet))} {box : BoxShape} {grid : Grid alphabet} :
      ofRows rows box = .ok grid → Built grid
  | ofRowsOver {domain : Domain alphabet} {rows : List (List (Cell alphabet))}
      {box : BoxShape} {grid : Grid alphabet} :
      ofRowsOver domain rows box = .ok grid → Built grid
  | setValue {grid next : Grid alphabet} {position : Position}
      {value : Option (Symbol alphabet)} :
      Built grid → grid.setValue position value = .ok next → Built next

/-! ### Positions -/

/-- The cells of a grid have positions inside it. -/
theorem contains_ofNumber {grid : Grid alphabet} {number : Nat}
    (inside : number < grid.cellCount) :
    grid.contains (.ofNumber grid.width number) = true := by
  unfold cellCount at inside
  have positive : 0 < grid.width := by
    by_contra none
    simp [Nat.eq_zero_of_not_pos none] at inside
  simp only [contains, Bool.and_eq_true, decide_eq_true_eq]
  exact ⟨Nat.div_lt_of_lt_mul (by rwa [Nat.mul_comm]), Nat.mod_lt _ positive⟩

/-- The cell at the position of a number is the cell of that number. -/
theorem cell_ofNumber {grid : Grid alphabet} {number : Nat}
    (inside : number < grid.cellCount) :
    grid.cell (.ofNumber grid.width number) = .ok (grid.cellAt number) := by
  unfold cell
  rw [if_pos (contains_ofNumber inside), Position.number_ofNumber]

/-! ### Flaws of form -/

/-- A box width without a flaw is positive and divides the columns. -/
theorem widthFlaw?_eq_none_iff (columns width : Nat) :
    widthFlaw? columns width = none ↔ 0 < width ∧ width ∣ columns := by
  rw [Nat.dvd_iff_mod_eq_zero]
  simp only [widthFlaw?]
  split
  · next zero => simp [zero]
  · next nonzero =>
      split
      · next divides => exact ⟨fun _ => ⟨Nat.pos_of_ne_zero nonzero, divides⟩, fun _ => rfl⟩
      · next remains => simp [remains]

/-- A box height without a flaw is positive and divides the rows. -/
theorem heightFlaw?_eq_none_iff (rows height : Nat) :
    heightFlaw? rows height = none ↔ 0 < height ∧ height ∣ rows := by
  rw [Nat.dvd_iff_mod_eq_zero]
  simp only [heightFlaw?]
  split
  · next zero => simp [zero]
  · next nonzero =>
      split
      · next divides => exact ⟨fun _ => ⟨Nat.pos_of_ne_zero nonzero, divides⟩, fun _ => rfl⟩
      · next remains => simp [remains]

/-- Rows without a flaw of length all have the same length. -/
theorem lengthFlaw?_eq_none_iff (width : Nat) (rows : List (List (Cell alphabet))) :
    lengthFlaw? width rows = none ↔ ∀ row ∈ rows, row.length = width := by
  unfold lengthFlaw?
  rw [List.findSome?_eq_none_iff, List.forall_mem_zipIdx', List.forall_mem_iff_getElem]
  apply forall_congr'
  intro number
  apply forall_congr'
  intro inside
  simp

/-- Rows without a flawed override have none in any cell. -/
theorem overridesFlaw?_eq_none_iff (height width : Nat)
    (rows : List (List (Cell alphabet))) :
    overridesFlaw? height width rows = none ↔
      ∀ row ∈ rows, ∀ cell ∈ row, overrideFlaw? height width cell = none := by
  unfold overridesFlaw?
  rw [List.findSome?_eq_none_iff, List.forall_mem_zipIdx', List.forall_mem_iff_getElem]
  apply forall_congr'
  intro number
  apply forall_congr'
  intro inside
  rw [List.findSome?_eq_none_iff, List.forall_mem_zipIdx', List.forall_mem_iff_getElem]
  simp

/-- Rows without a flaw of form are the rows of a well-formed grid. -/
theorem flaw?_eq_none_iff (rows : List (List (Cell alphabet))) (box : BoxShape) :
    flaw? rows box = none ↔
      0 < (rows.headD []).length ∧
      (∀ row ∈ rows, row.length = (rows.headD []).length) ∧
      box.Tiles rows.length (rows.headD []).length ∧
      ∀ row ∈ rows, ∀ cell ∈ row,
        overrideFlaw? rows.length (rows.headD []).length cell = none := by
  simp only [flaw?]
  split
  · next empty =>
      rw [empty]
      simp
  · next nonempty =>
      simp only [Option.or_eq_none_iff, Option.map_eq_none_iff, lengthFlaw?_eq_none_iff,
        widthFlaw?_eq_none_iff, heightFlaw?_eq_none_iff, overridesFlaw?_eq_none_iff]
      constructor
      · rintro ⟨lengths, ⟨widthPositive, widthDivides⟩, ⟨heightPositive, heightDivides⟩,
          overrides⟩
        exact ⟨Nat.pos_of_ne_zero nonempty, lengths,
          ⟨widthPositive, heightPositive, widthDivides, heightDivides⟩, overrides⟩
      · rintro ⟨_, lengths, tiles, overrides⟩
        exact ⟨lengths, ⟨tiles.width_pos, tiles.width_dvd⟩,
          ⟨tiles.height_pos, tiles.height_dvd⟩, overrides⟩

/-! ### Built grids are well formed -/

/-- The shape of a cell without a flawed override tiles whatever the default
shape does. -/
theorem tiles_shapeOf {grid : Grid alphabet} {cell : Cell alphabet}
    (boxTiles : grid.box.Tiles grid.height grid.width)
    (sound : overrideFlaw? grid.height grid.width cell = none) :
    (grid.shapeOf cell).Tiles grid.height grid.width := by
  simp only [overrideFlaw?, Option.or_eq_none_iff, Option.bind_eq_none_iff] at sound
  obtain ⟨widthSound, heightSound⟩ := sound
  have widthTiles : 0 < (grid.shapeOf cell).width ∧
      (grid.shapeOf cell).width ∣ grid.width := by
    cases override : cell.boxWidth with
    | none =>
        simpa [shapeOf, override] using ⟨boxTiles.width_pos, boxTiles.width_dvd⟩
    | some width =>
        simpa [shapeOf, override] using
          (widthFlaw?_eq_none_iff _ _).1 (widthSound width override)
  have heightTiles : 0 < (grid.shapeOf cell).height ∧
      (grid.shapeOf cell).height ∣ grid.height := by
    cases override : cell.boxHeight with
    | none =>
        simpa [shapeOf, override] using ⟨boxTiles.height_pos, boxTiles.height_dvd⟩
    | some height =>
        simpa [shapeOf, override] using
          (heightFlaw?_eq_none_iff _ _).1 (heightSound height override)
  exact ⟨widthTiles.1, heightTiles.1, widthTiles.2, heightTiles.2⟩

/-- A grid built from rows is well formed. -/
theorem wellFormed_build {rows : List (List (Cell alphabet))} {box : BoxShape}
    {domain : Except Error (Domain alphabet)} {explicitDomain : Bool}
    {grid : Grid alphabet}
    (built : build rows box domain explicitDomain = .ok grid) :
    grid.WellFormed := by
  unfold build at built
  split at built
  · simp at built
  · next noFlaw =>
      obtain ⟨widthPositive, lengths, boxTiles, overrides⟩ :=
        (flaw?_eq_none_iff rows box).1 noFlaw
      cases domain with
      | error error => simp [Except.map] at built
      | ok domain =>
          simp only [Except.map, Except.ok.injEq] at built
          subst built
          refine ⟨widthPositive, ?_, ?_, ?_⟩
          · change 0 < rows.length
            rw [List.length_pos_iff]
            rintro rfl
            simp at widthPositive
          · change rows.flatten.toArray.size = rows.length * (rows.headD []).length
            rw [List.size_toArray, List.length_flatten,
              List.map_congr_left (g := fun _ => (rows.headD []).length) lengths]
            simp
          · intro number
            apply tiles_shapeOf boxTiles
            change overrideFlaw? _ _ (rows.flatten.toArray.getD number {}) = none
            rw [Array.getD_eq_getD_getElem?, List.getElem?_toArray]
            cases found : rows.flatten[number]? with
            | none => rfl
            | some cell =>
                obtain ⟨row, rowMember, cellMember⟩ :=
                  List.mem_flatten.1 (List.mem_of_getElem? found)
                exact overrides row rowMember cell cellMember

/-- The cell of a number after a value was written. -/
theorem cellAt_setValueAt (grid : Grid alphabet) (number other : Nat)
    (value : Option (Symbol alphabet)) :
    (grid.setValueAt number value).cellAt other =
      if number = other ∧ other < grid.cells.size then
        { grid.cellAt other with value }
      else grid.cellAt other := by
  simp only [cellAt, setValueAt, Array.getD_eq_getD_getElem?, Array.getElem?_modify]
  by_cases same : number = other
  · subst same
    by_cases inside : number < grid.cells.size <;> simp [inside]
  · simp [same]

/-- Writing a value leaves every box shape as it is. -/
@[simp] theorem shapeAt_setValueAt (grid : Grid alphabet) (number other : Nat)
    (value : Option (Symbol alphabet)) :
    (grid.setValueAt number value).shapeAt other = grid.shapeAt other := by
  unfold shapeAt
  rw [cellAt_setValueAt]
  split <;> rfl

/-- Writing a value keeps a grid well formed. -/
theorem WellFormed.setValueAt {grid : Grid alphabet} (wellFormed : grid.WellFormed)
    (number : Nat) (value : Option (Symbol alphabet)) :
    (grid.setValueAt number value).WellFormed where
  width_pos := wellFormed.width_pos
  height_pos := wellFormed.height_pos
  cells_size := by
    unfold Grid.setValueAt
    rw [Array.size_modify]
    exact wellFormed.cells_size
  tiles other := by
    rw [shapeAt_setValueAt]
    exact wellFormed.tiles other

/-- Every grid that was built is well formed. -/
theorem Built.wellFormed {grid : Grid alphabet} (built : grid.Built) :
    grid.WellFormed := by
  induction built with
  | ofRows fromRows => exact wellFormed_build fromRows
  | ofRowsOver fromRows => exact wellFormed_build fromRows
  | @setValue grid next position value _ written wellFormed =>
      unfold Grid.setValue at written
      split at written
      · simp only [Except.ok.injEq] at written
        rw [← written]
        exact wellFormed.setValueAt _ _
      · simp at written

end Grid
end Sudoku
