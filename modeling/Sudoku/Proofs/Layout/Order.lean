import Mathlib.Data.List.Sort
import Sudoku.Proofs.Error
import Sudoku.Proofs.Layout.Peers

/-!
# The order of boxes

A division goes through the cells in row-major order. A cell that has no box when its
turn comes need not be the corner of its block, but if it is not, then the corner has a
box already, so that the block is not of one shape, and the grid is not divided. The
boxes of a division are therefore the blocks of those cells that are the corners of
their own blocks, in ascending order.
-/

namespace Sudoku

namespace Grid

variable {alphabet : Alphabet} {grid : Grid alphabet}

/-- The cells before some cell that are the corners of their own blocks. -/
def corners (grid : Grid alphabet) (count : Nat) : List Nat :=
  (List.range count).filter fun cell => decide (grid.cornerOf cell = cell)

theorem mem_corners_iff (count cell : Nat) :
    cell ∈ grid.corners count ↔ cell < count ∧ grid.cornerOf cell = cell := by
  simp [corners]

/-- Corners come in ascending order. -/
theorem corners_lt_iff {count firstPlace secondPlace first second : Nat}
    (firstFound : (grid.corners count)[firstPlace]? = some first)
    (secondFound : (grid.corners count)[secondPlace]? = some second) :
    first < second ↔ firstPlace < secondPlace := by
  have ascending : (grid.corners count).Pairwise (· < ·) :=
    List.pairwise_lt_range.filter _
  obtain ⟨firstInside, rfl⟩ := List.getElem?_eq_some_iff.1 firstFound
  obtain ⟨secondInside, rfl⟩ := List.getElem?_eq_some_iff.1 secondFound
  exact @StrictMono.lt_iff_lt _ _ _ _ _ ascending.sortedLT.strictMono_get
    ⟨firstPlace, firstInside⟩ ⟨secondPlace, secondInside⟩

/-- One cell more is one corner more, or none. -/
theorem corners_succ (grid : Grid alphabet) (count : Nat) :
    grid.corners (count + 1) =
      grid.corners count ++ if grid.cornerOf count = count then [count] else [] := by
  unfold corners
  rw [List.range_succ, List.filter_append]
  congr 1
  by_cases corner : grid.cornerOf count = count <;> simp [corner]

/-- Cells with the same block have the same corner. -/
theorem cornerOf_eq_of_block_eq (wellFormed : grid.WellFormed) {first second : Nat}
    (blocks : grid.block first = grid.block second) :
    grid.cornerOf first = grid.cornerOf second := by
  rw [← Option.some.injEq, ← head?_block wellFormed, ← head?_block wellFormed, blocks]

end Grid

namespace Layout

variable {alphabet : Alphabet} {grid : Grid alphabet}

namespace Division

variable {division next : Division}

/-- A cell that has no box, although all cells before it have one, is the corner of its
block, if the block is uniform. -/
theorem Sound.cornerOf_eq_self (sound : Sound grid division) (wellFormed : grid.WellFormed)
    {cell : Nat} (inside : cell < grid.cellCount) (uniform : grid.UniformAt cell)
    (free : division.box? cell = none)
    (before : ∀ other < cell, (division.box? other).isSome = true) :
    grid.cornerOf cell = cell := by
  have belongs := Grid.cornerOf_mem_block wellFormed cell
  have cornerFree := sound.box?_eq_none_of_mem_block wellFormed inside free belongs
    (uniform _ belongs)
  refine Nat.le_antisymm (Grid.cornerOf_le wellFormed inside) (Nat.le_of_not_lt ?_)
  intro earlier
  have boxed := before _ earlier
  rw [cornerFree] at boxed
  simp at boxed

/-- If the boxes of a division are the blocks of the corners before a cell, then taking
in the cell adds its block exactly when it is a corner. -/
theorem Sound.boxes_extend (sound : Sound grid division) (wellFormed : grid.WellFormed)
    {cell : Nat} (inside : cell < grid.cellCount)
    (before : ∀ other < cell, (division.box? other).isSome = true)
    (boxes : division.boxes.toList = (grid.corners cell).map grid.block)
    (extended : Division.extend grid division cell = .ok next) :
    next.boxes.toList = (grid.corners (cell + 1)).map grid.block := by
  rw [Grid.corners_succ, List.map_append, ← boxes]
  rcases extend_eq_ok wellFormed inside extended with ⟨boxed, rfl⟩ | ⟨members, rfl⟩
  · -- The box of the cell is the block of an earlier corner, so the cell is none.
    obtain ⟨box, found⟩ := Option.isSome_iff_exists.1 boxed
    have blockFound := List.mem_of_getElem?
      ((Array.getElem?_toList ..).trans (sound.boxes_getElem? wellFormed found))
    rw [boxes] at blockFound
    obtain ⟨corner, cornerMember, blocks⟩ := List.mem_map.1 blockFound
    obtain ⟨earlier, cornerEq⟩ := (Grid.mem_corners_iff cell corner).1 cornerMember
    have sameCorner := Grid.cornerOf_eq_of_block_eq wellFormed blocks
    rw [if_neg (by omega), List.map_nil, List.append_nil]
  · have selfMember := Grid.mem_block_self wellFormed inside
    rw [if_pos (sound.cornerOf_eq_self wellFormed inside
      (fun member belongs => (members member belongs).1) (members cell selfMember).2 before)]
    simp [Division.addBox]

/-- The boxes of a division of the cells before some cell are the blocks of the corners
among them. -/
theorem boxes_eq_of_foldlM (wellFormed : grid.WellFormed) {count : Nat}
    (bound : count ≤ grid.cellCount)
    (divided : (List.range count).foldlM (extend grid) (start grid.cellCount) = .ok division) :
    division.boxes.toList = (grid.corners count).map grid.block := by
  induction count generalizing division with
  | zero =>
      rw [← Except.ok.inj divided]
      rfl
  | succ count inductionHypothesis =>
      rw [List.range_succ, List.foldlM_append, Error.bind_eq_ok_iff] at divided
      obtain ⟨middle, before, extended⟩ := divided
      rw [List.foldlM_cons, Error.bind_eq_ok_iff] at extended
      obtain ⟨next, extended, same⟩ := extended
      rw [← Except.ok.inj same]
      have inside : ∀ cell ∈ List.range count, cell < grid.cellCount := by
        intro cell member
        rw [List.mem_range] at member
        omega
      rcases (sound_start grid).foldlM_extend wellFormed inside with
        ⟨last, reached, sound, boxed, _⟩ | ⟨_, _, _, _, _, conflict⟩
      · rw [before, Except.ok.injEq] at reached
        subst reached
        exact sound.boxes_extend wellFormed bound (by simpa using boxed)
          (inductionHypothesis (by omega) before) extended
      · rw [before] at conflict
        simp at conflict

end Division

variable {layout : Layout}

/-! ### Boxes of a layout -/

section

variable (wellFormed : grid.WellFormed) (found : ofGrid grid = .ok layout)

include wellFormed found

/-- The boxes of a layout are the blocks of the corners of its grid, in ascending order. -/
theorem boxes_eq_of_ofGrid :
    layout.boxes.toList = (grid.corners grid.cellCount).map grid.block := by
  obtain ⟨division, divided, _, boxes, _⟩ := exists_division wellFormed found
  rw [boxes, Division.boxes_eq_of_foldlM wellFormed (Nat.le_refl _) divided]

/-- The cells of a box are the block of a corner. -/
theorem boxCells?_eq_some_iff (box : Nat) (cells : List Nat) :
    layout.boxCells? box = some cells ↔
      ∃ corner, (grid.corners grid.cellCount)[box]? = some corner ∧
        grid.block corner = cells := by
  unfold boxCells?
  rw [← Array.getElem?_toList, boxes_eq_of_ofGrid wellFormed found, List.getElem?_map,
    Option.map_eq_some_iff]

/-- The box of a cell consists of the block of the cell. -/
theorem boxCells?_boxOf {cell : Nat} (inside : cell < grid.cellCount) :
    layout.boxCells? (layout.boxOf.getD cell 0) = some (grid.block cell) := by
  obtain ⟨division, _, sound, boxes, boxAt⟩ := exists_division wellFormed found
  unfold boxCells?
  rw [boxes]
  exact sound.boxes_getElem? wellFormed (boxAt cell inside)

/-- A box consists of cells of the grid, and is the box of each of them. -/
theorem boxOf_eq_of_mem {box : Nat} {cells : List Nat}
    (boxFound : layout.boxCells? box = some cells) {cell : Nat} (belongs : cell ∈ cells) :
    cell < grid.cellCount ∧ layout.boxOf.getD cell 0 = box := by
  obtain ⟨division, _, sound, boxes, boxAt⟩ := exists_division wellFormed found
  unfold boxCells? at boxFound
  rw [boxes] at boxFound
  have boxed := sound.toBox box cells cell boxFound belongs
  obtain ⟨first, firstInside, _, _, firstBelongs⟩ := sound.ofBox cell box boxed
  have inside := Grid.lt_cellCount_of_mem_block wellFormed firstInside firstBelongs
  rw [boxAt cell inside, Option.some.injEq] at boxed
  exact ⟨inside, boxed⟩

/-- The box of a cell has the place of the corner of its block among the corners. -/
theorem corners_getElem?_boxOf {cell : Nat} (inside : cell < grid.cellCount) :
    (grid.corners grid.cellCount)[layout.boxOf.getD cell 0]? =
      some (grid.cornerOf cell) := by
  obtain ⟨corner, cornerFound, blocks⟩ :=
    (boxCells?_eq_some_iff wellFormed found _ _).1 (boxCells?_boxOf wellFormed found inside)
  have isCorner := (Grid.mem_corners_iff _ corner).1 (List.mem_of_getElem? cornerFound)
  rw [cornerFound, ← Grid.cornerOf_eq_of_block_eq wellFormed blocks, isCorner.2]

/-- A box number belongs to a box exactly when it is the box of some cell. -/
theorem exists_boxOf_eq_iff (box : Nat) :
    (∃ cell < grid.cellCount, layout.boxOf.getD cell 0 = box) ↔ box < layout.boxCount := by
  constructor
  · rintro ⟨cell, inside, rfl⟩
    exact (Array.getElem?_eq_some_iff.1 (boxCells?_boxOf wellFormed found inside)).1
  · intro bound
    obtain ⟨corner, cornerFound, _⟩ := (boxCells?_eq_some_iff wellFormed found box
      layout.boxes[box]).1 (Array.getElem?_eq_getElem bound)
    obtain ⟨inside, isCorner⟩ :=
      (Grid.mem_corners_iff _ corner).1 (List.mem_of_getElem? cornerFound)
    have ownFound := corners_getElem?_boxOf wellFormed found inside
    rw [isCorner] at ownFound
    have notBefore := Grid.corners_lt_iff ownFound cornerFound
    have notAfter := Grid.corners_lt_iff cornerFound ownFound
    exact ⟨corner, inside, by omega⟩

/-- Boxes are numbered by the order of their corners. -/
theorem boxOf_lt_iff {first second : Nat} (firstInside : first < grid.cellCount)
    (secondInside : second < grid.cellCount) :
    layout.boxOf.getD first 0 < layout.boxOf.getD second 0 ↔
      grid.cornerOf first < grid.cornerOf second :=
  (Grid.corners_lt_iff (corners_getElem?_boxOf wellFormed found firstInside)
    (corners_getElem?_boxOf wellFormed found secondInside)).symm

end

end Layout
end Sudoku
