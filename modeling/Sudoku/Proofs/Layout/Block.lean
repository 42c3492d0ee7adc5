import Sudoku.Proofs.Grid.Frame

/-!
# Blocks

Blocks of one shape cut a grid into tiles. A cell lies in the block of another
exactly when the two fall into the same tile of the shape of the other, so the
cells of one tile that agree on their shape have the same block. A block spans
some rows and columns from its corner on and lists their cells in ascending order.
-/

namespace Sudoku

namespace Position

/-- A position within the columns is found again from its number. -/
theorem ofNumber_number {width : Nat} {position : Position}
    (inside : position.column < width) :
    ofNumber width (position.number width) = position := by
  have row : (position.row * width + position.column) / width = position.row := by
    rw [Nat.mul_comm, Nat.mul_add_div (by omega), Nat.div_eq_of_lt inside, Nat.add_zero]
  have column :
      (position.row * width + position.column) % width = position.column := by
    rw [Nat.mul_comm, Nat.mul_add_mod, Nat.mod_eq_of_lt inside]
  unfold ofNumber number
  rw [row, column]

end Position

namespace BoxShape

/-- The row and column of the tile that a cell falls in, when a grid of the given
width is cut into blocks of the shape. -/
def tile (shape : BoxShape) (width number : Nat) : Position :=
  ⟨number / width / shape.height, number % width / shape.width⟩

/-- The top left position of the block that a position falls in, when a grid is cut
into blocks of the shape. -/
def corner (shape : BoxShape) (position : Position) : Position :=
  ⟨position.row - position.row % shape.height,
    position.column - position.column % shape.width⟩

/-- The block of the shape that one position falls in spans the row and the column
of another. -/
structure Spans (shape : BoxShape) (origin place : Position) : Prop where
  row_ge : (shape.corner origin).row ≤ place.row
  row_lt : place.row < (shape.corner origin).row + shape.height
  column_ge : (shape.corner origin).column ≤ place.column
  column_lt : place.column < (shape.corner origin).column + shape.width

/-- A block lists the positions that it spans. -/
theorem mem_block_iff (shape : BoxShape) (origin place : Position) :
    place ∈ shape.block origin ↔ shape.Spans origin place := by
  simp only [block, List.mem_flatMap, List.mem_map, List.mem_range]
  constructor
  · rintro ⟨row, rowInside, column, columnInside, rfl⟩
    exact ⟨Nat.le_add_right _ _, Nat.add_lt_add_left rowInside _,
      Nat.le_add_right _ _, Nat.add_lt_add_left columnInside _⟩
  · rintro ⟨rowAtLeast, rowBefore, columnAtLeast, columnBefore⟩
    exact ⟨place.row - (shape.corner origin).row, by omega,
      place.column - (shape.corner origin).column, by omega,
      congrArg₂ Position.mk (Nat.add_sub_of_le rowAtLeast) (Nat.add_sub_of_le columnAtLeast)⟩

end BoxShape

namespace Grid

variable {alphabet : Alphabet} {grid : Grid alphabet}

/-- The cells of the block that a cell falls in, by the shape of the cell. -/
def block (grid : Grid alphabet) (number : Nat) : List Nat :=
  ((grid.shapeAt number).block (.ofNumber grid.width number)).map (Position.number grid.width)

/-- The block of a cell belongs to the frame of the grid. -/
theorem block_eq_of_frame_eq {first second : Grid alphabet} (frames : first.frame = second.frame)
    (number : Nat) : first.block number = second.block number := by
  unfold block
  rw [shapeAt_eq_of_frame_eq frames, width_eq_of_frame_eq frames]

/-- The positions inside a grid are those of its cells. -/
theorem contains_iff (position : Position) :
    grid.contains position = true ↔
      ∃ number < grid.cellCount, position = .ofNumber grid.width number := by
  constructor
  · intro contained
    simp only [contains, Bool.and_eq_true, decide_eq_true_eq] at contained
    obtain ⟨row, column⟩ := contained
    refine ⟨position.number grid.width, ?_, (Position.ofNumber_number column).symm⟩
    have rows := Nat.mul_le_mul_right grid.width (Nat.succ_le_of_lt row)
    rw [Nat.succ_mul] at rows
    unfold cellCount Position.number
    omega
  · rintro ⟨number, inside, rfl⟩
    exact contains_ofNumber inside

/-- The shape at the position of a cell is that of the cell. -/
theorem boxShape_ofNumber {number : Nat} (inside : number < grid.cellCount) :
    grid.boxShape (.ofNumber grid.width number) = .ok (grid.shapeAt number) := by
  unfold boxShape
  rw [cell_ofNumber inside]
  rfl

/-- The row of a cell of the grid. -/
theorem div_width_lt {number : Nat} (inside : number < grid.cellCount) :
    number / grid.width < grid.height := by
  unfold cellCount at inside
  rw [Nat.mul_comm] at inside
  exact Nat.div_lt_of_lt_mul inside

/-- The column of a cell of the grid. -/
theorem mod_width_lt (wellFormed : grid.WellFormed) (number : Nat) :
    number % grid.width < grid.width :=
  Nat.mod_lt _ wellFormed.width_pos

/-- A block ends where the next one begins, so it stays within an extent that
blocks divide. -/
private theorem sub_mod_add_le {extent span place : Nat} (divides : span ∣ extent)
    (inside : place < extent) : place - place % span + span ≤ extent := by
  obtain ⟨count, rfl⟩ := divides
  have before : place / span < count := Nat.div_lt_of_lt_mul inside
  have bound : span * (place / span + 1) ≤ span * count := Nat.mul_le_mul_left _ before
  have split := Nat.div_add_mod place span
  rw [Nat.mul_add, Nat.mul_one] at bound
  omega

/-- The start of a block and a place within it add up to a place of that block. -/
private theorem sub_mod_add_div {span place offset : Nat} (within : offset < span) :
    (place - place % span + offset) / span = place / span := by
  have start : place - place % span = span * (place / span) := by
    have := Nat.div_add_mod place span
    omega
  rw [start, Nat.mul_add_div (by omega), Nat.div_eq_of_lt within, Nat.add_zero]

/-- Two places of one block see the same start of it. -/
private theorem sub_mod_eq {span place other : Nat} (same : other / span = place / span) :
    other - other % span = place - place % span := by
  have placeSplit := Nat.div_add_mod place span
  have otherSplit := Nat.div_add_mod other span
  rw [same] at otherSplit
  omega

/-- A block has the places from its start up to the start of the next block. -/
private theorem div_eq_iff_sub_mod {span place other : Nat} (positive : 0 < span) :
    other / span = place / span ↔
      place - place % span ≤ other ∧ other < place - place % span + span := by
  constructor
  · intro same
    rw [← sub_mod_eq same]
    have remainder := Nat.mod_lt other positive
    omega
  · rintro ⟨atLeast, before⟩
    have offset : place - place % span + (other - (place - place % span)) = other := by
      omega
    rw [← offset, sub_mod_add_div (by omega)]

/-- A position that a block spans has the corner of that block. -/
theorem corner_eq_of_spans {shape : BoxShape} {origin place : Position}
    (spans : shape.Spans origin place) : shape.corner place = shape.corner origin := by
  obtain ⟨rowAtLeast, rowBefore, columnAtLeast, columnBefore⟩ := spans
  unfold BoxShape.corner at *
  have sameRow : place.row / shape.height = origin.row / shape.height :=
    (div_eq_iff_sub_mod (by omega)).2 ⟨rowAtLeast, rowBefore⟩
  have sameColumn : place.column / shape.width = origin.column / shape.width :=
    (div_eq_iff_sub_mod (by omega)).2 ⟨columnAtLeast, columnBefore⟩
  rw [sub_mod_eq sameRow, sub_mod_eq sameColumn]

/-- A block spans positions of the grid only. -/
theorem contains_of_spans (wellFormed : grid.WellFormed) {number : Nat}
    (inside : number < grid.cellCount) {place : Position}
    (spans : (grid.shapeAt number).Spans (.ofNumber grid.width number) place) :
    grid.contains place = true := by
  have tiles := wellFormed.tiles number
  have rowEnd := sub_mod_add_le tiles.height_dvd (div_width_lt inside)
  have columnEnd := sub_mod_add_le tiles.width_dvd (mod_width_lt wellFormed number)
  obtain ⟨_, rowBefore, _, columnBefore⟩ := spans
  simp only [BoxShape.corner, Position.row_ofNumber] at rowBefore
  simp only [BoxShape.corner, Position.column_ofNumber] at columnBefore
  simp only [contains, Bool.and_eq_true, decide_eq_true_eq]
  omega

/-- The block of a cell has the cells of the grid whose positions it spans. -/
theorem mem_block_iff_spans (wellFormed : grid.WellFormed) {number : Nat}
    (inside : number < grid.cellCount) (member : Nat) :
    member ∈ grid.block number ↔
      member < grid.cellCount ∧
      (grid.shapeAt number).Spans (.ofNumber grid.width number)
        (.ofNumber grid.width member) := by
  simp only [block, List.mem_map, BoxShape.mem_block_iff]
  constructor
  · rintro ⟨place, spans, rfl⟩
    obtain ⟨other, otherInside, rfl⟩ :=
      (contains_iff place).1 (contains_of_spans wellFormed inside spans)
    rw [Position.number_ofNumber]
    exact ⟨otherInside, spans⟩
  · rintro ⟨_, spans⟩
    exact ⟨_, spans, Position.number_ofNumber grid.width member⟩

/-- The block of a cell has the cells of the grid that share its tile. -/
theorem mem_block_iff (wellFormed : grid.WellFormed) {number : Nat}
    (inside : number < grid.cellCount) (member : Nat) :
    member ∈ grid.block number ↔
      member < grid.cellCount ∧
      (grid.shapeAt number).tile grid.width member =
        (grid.shapeAt number).tile grid.width number := by
  have tiles := wellFormed.tiles number
  rw [mem_block_iff_spans wellFormed inside, BoxShape.tile, BoxShape.tile, Position.mk.injEq,
    div_eq_iff_sub_mod tiles.height_pos, div_eq_iff_sub_mod tiles.width_pos]
  refine and_congr_right fun _ => ⟨?_, ?_⟩
  · rintro ⟨rowAtLeast, rowBefore, columnAtLeast, columnBefore⟩
    exact ⟨⟨rowAtLeast, rowBefore⟩, columnAtLeast, columnBefore⟩
  · rintro ⟨⟨rowAtLeast, rowBefore⟩, columnAtLeast, columnBefore⟩
    exact ⟨rowAtLeast, rowBefore, columnAtLeast, columnBefore⟩

/-- The positions of a block are those of the cells of the block. -/
theorem map_ofNumber_block (wellFormed : grid.WellFormed) {number : Nat}
    (inside : number < grid.cellCount) :
    (grid.block number).map (.ofNumber grid.width) =
      (grid.shapeAt number).block (.ofNumber grid.width number) := by
  rw [block, List.map_map]
  refine (List.map_congr_left fun place listed => ?_).trans (List.map_id _)
  obtain ⟨member, _, rfl⟩ := (contains_iff place).1
    (contains_of_spans wellFormed inside ((BoxShape.mem_block_iff _ _ _).1 listed))
  rw [Function.comp_apply, Position.number_ofNumber, id_eq]

/-- A cell lies in its own block. -/
theorem mem_block_self (wellFormed : grid.WellFormed) {number : Nat}
    (inside : number < grid.cellCount) : number ∈ grid.block number :=
  (mem_block_iff wellFormed inside number).2 ⟨inside, rfl⟩

/-- A block stays within the grid. -/
theorem lt_cellCount_of_mem_block (wellFormed : grid.WellFormed) {number member : Nat}
    (inside : number < grid.cellCount) (belongs : member ∈ grid.block number) :
    member < grid.cellCount :=
  ((mem_block_iff wellFormed inside member).1 belongs).1

/-- The cells of a block that have its shape have that block for their own. -/
theorem block_congr (wellFormed : grid.WellFormed) {number member : Nat}
    (inside : number < grid.cellCount) (belongs : member ∈ grid.block number)
    (sameShape : grid.shapeAt member = grid.shapeAt number) :
    grid.block member = grid.block number := by
  obtain ⟨_, sameTile⟩ := (mem_block_iff wellFormed inside member).1 belongs
  simp only [BoxShape.tile, Position.mk.injEq] at sameTile
  unfold block BoxShape.block
  simp only [sameShape, Position.row_ofNumber, Position.column_ofNumber,
    sub_mod_eq sameTile.1, sub_mod_eq sameTile.2]

/-- The cells of a block that have its shape have the same cells in their block. -/
theorem mem_block_congr (wellFormed : grid.WellFormed) {number member : Nat}
    (inside : number < grid.cellCount) (belongs : member ∈ grid.block number)
    (sameShape : grid.shapeAt member = grid.shapeAt number) (other : Nat) :
    other ∈ grid.block member ↔ other ∈ grid.block number := by
  rw [block_congr wellFormed inside belongs sameShape]

/-! ### The order of a block -/

/-- The number of the cell at the corner of the block of a cell. -/
def cornerOf (grid : Grid alphabet) (number : Nat) : Nat :=
  ((grid.shapeAt number).corner (.ofNumber grid.width number)).number grid.width

/-- The corner of a block is the position of a cell. -/
theorem ofNumber_cornerOf (wellFormed : grid.WellFormed) (number : Nat) :
    Position.ofNumber grid.width (grid.cornerOf number) =
      (grid.shapeAt number).corner (.ofNumber grid.width number) :=
  Position.ofNumber_number
    (Nat.lt_of_le_of_lt (Nat.sub_le _ _) (mod_width_lt wellFormed number))

/-- A block lists its cells in ascending order. -/
theorem pairwise_block (wellFormed : grid.WellFormed) (number : Nat) :
    (grid.block number).Pairwise (· < ·) := by
  have tiles := wellFormed.tiles number
  have columnEnd := sub_mod_add_le tiles.width_dvd (mod_width_lt wellFormed number)
  unfold block BoxShape.block
  simp only [List.map_flatMap, List.map_map, Function.comp_def, Position.column_ofNumber,
    Position.number, List.pairwise_flatMap]
  refine ⟨fun row _ => List.pairwise_lt_range.map _ fun column next before => ?_,
    List.pairwise_lt_range.imp fun {row next} before first firstMember second
      secondMember => ?_⟩
  · omega
  · obtain ⟨firstColumn, firstInside, rfl⟩ := List.mem_map.1 firstMember
    obtain ⟨secondColumn, _, rfl⟩ := List.mem_map.1 secondMember
    rw [List.mem_range] at firstInside
    have rows := Nat.mul_le_mul_right grid.width
      (Nat.add_le_add_left (Nat.succ_le_of_lt before)
        (number / grid.width - number / grid.width % (grid.shapeAt number).height))
    simp only [Position.row_ofNumber]
    rw [Nat.add_succ, Nat.succ_mul] at rows
    omega

/-- A block starts with its corner. -/
theorem head?_block (wellFormed : grid.WellFormed) (number : Nat) :
    (grid.block number).head? = some (grid.cornerOf number) := by
  have tiles := wellFormed.tiles number
  obtain ⟨height, heightEq⟩ := Nat.exists_eq_succ_of_ne_zero (Nat.ne_of_gt tiles.height_pos)
  obtain ⟨width, widthEq⟩ := Nat.exists_eq_succ_of_ne_zero (Nat.ne_of_gt tiles.width_pos)
  simp [block, BoxShape.block, cornerOf, BoxShape.corner, heightEq, widthEq,
    List.range_succ_eq_map]

/-- The corner of the block of a cell lies in it. -/
theorem cornerOf_mem_block (wellFormed : grid.WellFormed) (number : Nat) :
    grid.cornerOf number ∈ grid.block number :=
  List.mem_of_head? (head?_block wellFormed number)

/-- The corner of a block is its first cell. -/
theorem cornerOf_le_of_mem (wellFormed : grid.WellFormed) {number member : Nat}
    (belongs : member ∈ grid.block number) : grid.cornerOf number ≤ member := by
  obtain ⟨rest, cells⟩ := List.head?_eq_some_iff.1 (head?_block wellFormed number)
  have ascending := pairwise_block wellFormed number
  rw [cells] at belongs ascending
  rcases List.mem_cons.1 belongs with here | later
  · exact Nat.le_of_eq here.symm
  · exact Nat.le_of_lt (List.rel_of_pairwise_cons ascending later)

/-- The corner of the block of a cell does not come after it. -/
theorem cornerOf_le (wellFormed : grid.WellFormed) {number : Nat}
    (inside : number < grid.cellCount) : grid.cornerOf number ≤ number :=
  cornerOf_le_of_mem wellFormed (mem_block_self wellFormed inside)

end Grid
end Sudoku
