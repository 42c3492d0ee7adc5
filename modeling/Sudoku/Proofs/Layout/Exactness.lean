import Sudoku.Proofs.Grid.Completion
import Sudoku.Proofs.Layout.Order

/-!
# What a layout is

A grid has a layout when every block has one shape throughout. The boxes of the layout
are then the blocks of the cells, and its peers are what the rules ask for. Otherwise
the error names a cell in a block of another shape. Either way nothing matters but the
dimensions of the grid and the shapes of its cells.
-/

namespace Sudoku

namespace Position

/-- Different cells have different positions. -/
theorem ofNumber_inj {width first second : Nat} :
    ofNumber width first = ofNumber width second ↔ first = second := by
  constructor
  · intro positions
    simpa using congrArg (number width) positions
  · rintro rfl
    rfl

/-- Positions are in reading order when their cells are in row-major order. -/
theorem compare_ofNumber_eq_lt_iff (width first second : Nat) :
    compare (ofNumber width first) (ofNumber width second) = .lt ↔ first < second := by
  have firstSplit := Nat.div_add_mod first width
  have secondSplit := Nat.div_add_mod second width
  change (compare (first / width) (second / width)).then
    (compare (first % width) (second % width)) = .lt ↔ first < second
  rw [Ordering.then_eq_lt, Nat.compare_eq_lt, Nat.compare_eq_eq, Nat.compare_eq_lt]
  constructor
  · rintro (rows | ⟨sameRow, columns⟩)
    · exact Nat.lt_of_div_lt_div rows
    · rw [sameRow] at firstSplit
      omega
  · intro before
    rcases Nat.lt_or_eq_of_le (Nat.div_le_div_right (Nat.le_of_lt before)) with
      rows | sameRow
    · exact .inl rows
    · rw [sameRow] at firstSplit
      exact .inr ⟨sameRow, by omega⟩

end Position

namespace Grid

variable {alphabet : Alphabet} {grid : Grid alphabet}

/-- There is a shape at the positions of the cells. -/
theorem boxShape_eq_ok_iff (position : Position) (shape : BoxShape) :
    grid.boxShape position = .ok shape ↔
      ∃ number < grid.cellCount, position = .ofNumber grid.width number ∧
        grid.shapeAt number = shape := by
  constructor
  · intro found
    have contained : grid.contains position = true := by
      by_contra outside
      simp [boxShape, cell, outside, Except.map] at found
    obtain ⟨number, inside, rfl⟩ := (contains_iff position).1 contained
    rw [boxShape_ofNumber inside, Except.ok.injEq] at found
    exact ⟨number, inside, rfl, found⟩
  · rintro ⟨number, inside, rfl, rfl⟩
    exact boxShape_ofNumber inside

/-- The block of a cell is uniform when there is the shape of the cell at every position
that the block spans. -/
theorem uniformAt_iff_spans (wellFormed : grid.WellFormed) {number : Nat}
    (inside : number < grid.cellCount) :
    grid.UniformAt number ↔
      ∀ place, (grid.shapeAt number).Spans (.ofNumber grid.width number) place →
        grid.boxShape place = .ok (grid.shapeAt number) := by
  constructor
  · intro uniform place spans
    obtain ⟨member, memberInside, rfl⟩ :=
      (contains_iff place).1 (contains_of_spans wellFormed inside spans)
    have belongs := (mem_block_iff_spans wellFormed inside member).2 ⟨memberInside, spans⟩
    rw [boxShape_ofNumber memberInside, uniform member belongs]
  · intro uniform member belongs
    obtain ⟨memberInside, spans⟩ := (mem_block_iff_spans wellFormed inside member).1 belongs
    have found := uniform _ spans
    rw [boxShape_ofNumber memberInside, Except.ok.injEq] at found
    exact found

end Grid

namespace Layout

variable {alphabet : Alphabet} {grid : Grid alphabet} {layout : Layout}

/-! ### Positions and numbers -/

section

variable (found : ofGrid grid = .ok layout)

include found

/-- A layout numbers the cells of its grid. -/
theorem numberOf_ofNumber {cell : Nat} (inside : cell < grid.cellCount) :
    layout.numberOf (.ofNumber grid.width cell) = .ok cell := by
  obtain ⟨_, _, heights, widths, _⟩ := ofGrid_eq_ok found
  have contained := Grid.contains_ofNumber inside
  simp only [Grid.contains, Bool.and_eq_true, decide_eq_true_eq] at contained
  unfold numberOf
  rw [heights, widths, if_pos contained, Position.number_ofNumber]

/-- A layout numbers no other positions. -/
theorem numberOf_eq_error {position : Position} (outside : ¬grid.contains position = true) :
    layout.numberOf position = .error (.outOfBounds (.ofPosition position)) := by
  obtain ⟨_, _, heights, widths, _⟩ := ofGrid_eq_ok found
  simp only [Grid.contains, Bool.and_eq_true, decide_eq_true_eq] at outside
  unfold numberOf
  rw [heights, widths, if_neg outside]

/-- The position of a cell in a layout is that in its grid. -/
theorem positionOf_eq (cell : Nat) : layout.positionOf cell = .ofNumber grid.width cell := by
  obtain ⟨_, _, _, widths, _⟩ := ofGrid_eq_ok found
  unfold positionOf
  rw [widths]

/-- The box at the position of a cell is that of the cell. -/
theorem boxAt_ofNumber {cell : Nat} (inside : cell < grid.cellCount) :
    layout.boxAt (.ofNumber grid.width cell) = .ok (layout.boxOf.getD cell 0) := by
  unfold boxAt
  rw [numberOf_ofNumber found inside]
  rfl

/-- The peers at the position of a cell are those of the cell. -/
theorem peersAt_ofNumber {cell : Nat} (inside : cell < grid.cellCount) :
    layout.peersAt (.ofNumber grid.width cell) =
      .ok ((layout.peersOf cell).map (.ofNumber grid.width)) := by
  unfold peersAt
  rw [numberOf_ofNumber found inside, ← funext (positionOf_eq found)]
  rfl

/-- There is a box at the positions of the cells. -/
theorem boxAt_eq_ok_iff (position : Position) (box : Nat) :
    layout.boxAt position = .ok box ↔
      ∃ cell < grid.cellCount, position = .ofNumber grid.width cell ∧
        layout.boxOf.getD cell 0 = box := by
  by_cases contained : grid.contains position = true
  · obtain ⟨cell, inside, rfl⟩ := (Grid.contains_iff position).1 contained
    rw [boxAt_ofNumber found inside, Except.ok.injEq]
    constructor
    · intro same
      exact ⟨cell, inside, rfl, same⟩
    · rintro ⟨other, _, positions, same⟩
      rw [Position.ofNumber_inj.1 positions, same]
  · unfold boxAt
    rw [numberOf_eq_error found contained]
    constructor
    · intro absent
      simp [Except.map] at absent
    · rintro ⟨cell, inside, rfl, _⟩
      exact absurd (Grid.contains_ofNumber inside) contained

end

/-! ### Boxes -/

/-- The boxes of a layout are the blocks of a grid. -/
structure HasBoxes (layout : Layout) (grid : Grid alphabet) : Prop where
  /-- The box at a position has the cells that the block of the cell there spans. -/
  boxAt_eq_ok : ∀ position shape, grid.boxShape position = .ok shape →
    ∃ box cells, layout.boxAt position = .ok box ∧ layout.boxCells? box = some cells ∧
      ∀ cell, cell ∈ cells ↔
        cell < grid.cellCount ∧ shape.Spans position (.ofNumber grid.width cell)
  /-- Boxes have cells of the grid only. -/
  lt_cellCount : ∀ box cells, layout.boxCells? box = some cells →
    ∀ cell ∈ cells, cell < grid.cellCount
  /-- No box is empty. -/
  nonempty : ∀ box cells, layout.boxCells? box = some cells → cells ≠ []
  /-- Every cell belongs to one box. -/
  existsUnique : ∀ cell < grid.cellCount,
    ∃! box, ∃ cells, layout.boxCells? box = some cells ∧ cell ∈ cells
  /-- The cells of a box are listed in ascending order. -/
  ascending : ∀ box cells, layout.boxCells? box = some cells → cells.Pairwise (· < ·)
  /-- The numbers of the boxes at the positions are those below their count. -/
  lt_boxCount_iff : ∀ box,
    box < layout.boxCount ↔ ∃ position, layout.boxAt position = .ok box
  /-- Boxes are numbered in the reading order of their corners. -/
  boxAt_lt_iff : ∀ first second firstShape secondShape firstBox secondBox,
    grid.boxShape first = .ok firstShape → grid.boxShape second = .ok secondShape →
    layout.boxAt first = .ok firstBox → layout.boxAt second = .ok secondBox →
    (firstBox < secondBox ↔
      compare (firstShape.corner first) (secondShape.corner second) = .lt)

section

variable (wellFormed : grid.WellFormed) (found : ofGrid grid = .ok layout)

include wellFormed found

/-- The layout of a well-formed grid has its blocks for boxes. -/
theorem hasBoxes_of_ofGrid : layout.HasBoxes grid := by
  have boxOf_eq {box : Nat} {cells : List Nat} (boxFound : layout.boxCells? box = some cells)
      {cell : Nat} (belongs : cell ∈ cells) :=
    boxOf_eq_of_mem wellFormed found boxFound belongs
  constructor
  case boxAt_eq_ok =>
    intro position shape shapeFound
    obtain ⟨cell, inside, rfl, rfl⟩ := (Grid.boxShape_eq_ok_iff _ _).1 shapeFound
    exact ⟨_, _, boxAt_ofNumber found inside, boxCells?_boxOf wellFormed found inside,
      Grid.mem_block_iff_spans wellFormed inside⟩
  case lt_cellCount =>
    intro box cells boxFound cell belongs
    exact (boxOf_eq boxFound belongs).1
  case nonempty =>
    intro box cells boxFound
    obtain ⟨corner, _, rfl⟩ := (boxCells?_eq_some_iff wellFormed found _ _).1 boxFound
    exact List.ne_nil_of_mem (Grid.cornerOf_mem_block wellFormed corner)
  case existsUnique =>
    intro cell inside
    refine ⟨layout.boxOf.getD cell 0, ⟨_, boxCells?_boxOf wellFormed found inside,
      Grid.mem_block_self wellFormed inside⟩, ?_⟩
    rintro box ⟨cells, boxFound, belongs⟩
    exact (boxOf_eq boxFound belongs).2.symm
  case ascending =>
    intro box cells boxFound
    obtain ⟨corner, _, rfl⟩ := (boxCells?_eq_some_iff wellFormed found _ _).1 boxFound
    exact Grid.pairwise_block wellFormed corner
  case lt_boxCount_iff =>
    intro box
    rw [← exists_boxOf_eq_iff wellFormed found]
    simp only [boxAt_eq_ok_iff found]
    constructor
    · rintro ⟨cell, inside, same⟩
      exact ⟨_, cell, inside, rfl, same⟩
    · rintro ⟨_, cell, inside, _, same⟩
      exact ⟨cell, inside, same⟩
  case boxAt_lt_iff =>
    intro first second firstShape secondShape firstBox secondBox firstShapeFound
      secondShapeFound firstBoxFound secondBoxFound
    obtain ⟨firstCell, firstInside, rfl, rfl⟩ :=
      (Grid.boxShape_eq_ok_iff _ _).1 firstShapeFound
    obtain ⟨secondCell, secondInside, rfl, rfl⟩ :=
      (Grid.boxShape_eq_ok_iff _ _).1 secondShapeFound
    rw [boxAt_ofNumber found firstInside, Except.ok.injEq] at firstBoxFound
    rw [boxAt_ofNumber found secondInside, Except.ok.injEq] at secondBoxFound
    rw [← firstBoxFound, ← secondBoxFound, ← Grid.ofNumber_cornerOf wellFormed,
      ← Grid.ofNumber_cornerOf wellFormed, Position.compare_ofNumber_eq_lt_iff]
    exact boxOf_lt_iff wellFormed found firstInside secondInside

end

/-! ### Peers -/

/-- Whether two positions share a row, a column or a box of the layout. -/
def SharesUnit (layout : Layout) (first second : Position) : Prop :=
  first.row = second.row ∨ first.column = second.column ∨
    layout.boxAt first = layout.boxAt second

/-- The peers in a layout are the cells of a grid that share a unit. -/
structure HasPeers (layout : Layout) (grid : Grid alphabet) : Prop where
  /-- To be peers is symmetric and irreflexive. -/
  sound : layout.Sound
  /-- The peers of a cell are the other cells that share a unit with it, in ascending
  order. -/
  peersOf?_eq_some : ∀ cell < grid.cellCount, ∃ peers,
    layout.peersOf? cell = some peers ∧ peers.Pairwise (· < ·) ∧
    ∀ peer, peer ∈ peers ↔ peer < grid.cellCount ∧ peer ≠ cell ∧
      layout.SharesUnit (layout.positionOf cell) (layout.positionOf peer)
  /-- The positions of the peers are listed in reading order. -/
  peersAt_eq_ok : ∀ position, grid.contains position = true → ∃ positions,
    layout.peersAt position = .ok positions ∧
    positions.Pairwise (fun first second => compare first second = .lt) ∧
    ∀ place, place ∈ positions ↔
      ∃ peer ∈ layout.peersOf (position.number grid.width), place = layout.positionOf peer
  /-- Positions hold peers when the second is listed as a peer of the first. -/
  arePeers_iff : ∀ first second, layout.arePeers first second = true ↔
    grid.contains first = true ∧ grid.contains second = true ∧
      ∃ peers, layout.peersAt first = .ok peers ∧ second ∈ peers

/-- Halving the peers of the first position finds the second when it is among them. -/
theorem arePeers_iff_mem (found : ofGrid grid = .ok layout) (first second : Position) :
    layout.arePeers first second = true ↔
      grid.contains first = true ∧ grid.contains second = true ∧
        ∃ peers, layout.peersAt first = .ok peers ∧ second ∈ peers := by
  unfold arePeers
  by_cases firstContained : grid.contains first = true
  · by_cases secondContained : grid.contains second = true
    · obtain ⟨cell, inside, rfl⟩ := (Grid.contains_iff first).1 firstContained
      obtain ⟨other, otherInside, rfl⟩ := (Grid.contains_iff second).1 secondContained
      rw [numberOf_ofNumber found inside, numberOf_ofNumber found otherInside,
        peersAt_ofNumber found inside]
      dsimp only
      rw [Ascending.isSome_bisect?_iff_mem (pairwise_peersOf found cell)]
      simp [firstContained, secondContained, Position.ofNumber_inj]
    · rw [numberOf_eq_error found secondContained]
      simp [secondContained]
  · rw [numberOf_eq_error found firstContained]
    simp [firstContained]

section

variable (wellFormed : grid.WellFormed) (found : ofGrid grid = .ok layout)

include wellFormed found

/-- The peers of a cell are the other cells that share a unit with it. -/
theorem mem_peersOf_iff_sharesUnit (cell peer : Nat) :
    peer ∈ layout.peersOf cell ↔
      cell < grid.cellCount ∧ peer < grid.cellCount ∧ peer ≠ cell ∧
        layout.SharesUnit (layout.positionOf cell) (layout.positionOf peer) := by
  rw [mem_peersOf_iff wellFormed found, Grid.Rivals]
  refine and_congr_right fun inside => and_congr_right fun peerInside =>
    and_congr ne_comm ?_
  rw [SharesUnit, positionOf_eq found, positionOf_eq found, boxAt_ofNumber found inside,
    boxAt_ofNumber found peerInside, Except.ok.injEq,
    boxOf_eq_iff wellFormed found inside peerInside]
  rfl

/-- The layout of a grid has for peers the cells that share a unit. -/
theorem hasPeers_of_ofGrid : layout.HasPeers grid := by
  have sound := sound_of_ofGrid found
  constructor
  case sound => exact sound
  case peersOf?_eq_some =>
    intro cell inside
    refine ⟨_, peersOf?_eq found inside, sound.ascending cell, fun peer => ?_⟩
    rw [mem_peersOf_iff_sharesUnit wellFormed found, and_iff_right inside]
  case peersAt_eq_ok =>
    intro position contained
    obtain ⟨cell, inside, rfl⟩ := (Grid.contains_iff position).1 contained
    refine ⟨_, peersAt_ofNumber found inside, ?_, fun place => ?_⟩
    · rw [List.pairwise_map]
      exact (sound.ascending cell).imp fun {first second} before =>
        (Position.compare_ofNumber_eq_lt_iff _ first second).2 before
    · simp only [List.mem_map, Position.number_ofNumber, positionOf_eq found, eq_comm]
  case arePeers_iff => exact arePeers_iff_mem found

end

/-! ### What a layout depends on -/

/-- Grids with the same dimensions, and with the same shapes throughout. -/
structure SameShapes {otherAlphabet : Alphabet} (other : Grid otherAlphabet)
    (grid : Grid alphabet) : Prop where
  height_eq : other.height = grid.height
  width_eq : other.width = grid.width
  shapeAt_eq : ∀ cell < grid.cellCount, other.shapeAt cell = grid.shapeAt cell

namespace SameShapes

variable {otherAlphabet : Alphabet} {other : Grid otherAlphabet}

theorem of_boxShape (heights : other.height = grid.height) (widths : other.width = grid.width)
    (shapes : ∀ position, other.boxShape position = grid.boxShape position) :
    SameShapes other grid := by
  refine ⟨heights, widths, fun cell inside => ?_⟩
  have otherInside : cell < other.cellCount := by
    unfold Grid.cellCount
    rw [heights, widths]
    exact inside
  have same := shapes (.ofNumber grid.width cell)
  rw [Grid.boxShape_ofNumber inside, ← widths, Grid.boxShape_ofNumber otherInside,
    Except.ok.injEq] at same
  exact same

theorem cellCount_eq (same : SameShapes other grid) : other.cellCount = grid.cellCount := by
  unfold Grid.cellCount
  rw [same.height_eq, same.width_eq]

/-- What is found at a position depends on the shapes only. -/
theorem boxShape_eq (same : SameShapes other grid) (position : Position) :
    other.boxShape position = grid.boxShape position := by
  have contains : other.contains position = grid.contains position := by
    unfold Grid.contains
    rw [same.height_eq, same.width_eq]
  by_cases contained : grid.contains position = true
  · obtain ⟨cell, inside, rfl⟩ := (Grid.contains_iff position).1 contained
    rw [Grid.boxShape_ofNumber inside, ← same.shapeAt_eq cell inside, ← same.width_eq,
      Grid.boxShape_ofNumber (by rwa [same.cellCount_eq])]
  · unfold Grid.boxShape Grid.cell
    rw [contains, if_neg contained, if_neg contained]
    rfl

/-- Taking a cell into a division depends on the shapes only. -/
theorem extend_eq (same : SameShapes other grid) :
    Division.extend other = Division.extend grid := by
  have join : Division.join other = Division.join grid := by
    funext expected division position
    unfold Division.join Division.checkShape
    rw [same.boxShape_eq, same.width_eq]
  funext division cell
  unfold Division.extend
  simp only [same.boxShape_eq, same.width_eq, join]

/-- The layout of a grid, or the error in its place, depends on the shapes only. -/
theorem ofGrid_eq (same : SameShapes other grid) : ofGrid other = ofGrid grid := by
  unfold ofGrid Division.ofGrid
  rw [same.extend_eq, same.cellCount_eq, same.height_eq, same.width_eq]

end SameShapes

/-- A grid has a layout exactly when there is the shape of a cell throughout its block. The
boxes of the layout are the blocks, and its peers the cells that share a unit. Without a
layout, the error names a position in a block of another shape. In any case, all grids with
the same dimensions and the same shapes have the same layout or the same error. -/
theorem ofGrid_exact (built : grid.Built) :
    ((∃ layout, ofGrid grid = .ok layout) ↔
      ∀ origin shape, grid.boxShape origin = .ok shape →
        ∀ place, shape.Spans origin place → grid.boxShape place = .ok shape) ∧
    (∀ layout, ofGrid grid = .ok layout → layout.HasBoxes grid ∧ layout.HasPeers grid) ∧
    (∀ error, ofGrid grid = .error error →
      ∃ origin expected place shape, grid.boxShape origin = .ok expected ∧
        expected.Spans origin place ∧ grid.boxShape place = .ok shape ∧ shape ≠ expected ∧
        error = .invalid (.ofPosition place) (.conflictingBoxShape place expected shape)) ∧
    ∀ (otherAlphabet : Alphabet) (other : Grid otherAlphabet),
      other.height = grid.height → other.width = grid.width →
      (∀ position, other.boxShape position = grid.boxShape position) →
      ofGrid other = ofGrid grid := by
  have wellFormed := built.wellFormed
  refine ⟨?_, ?_, ?_, ?_⟩
  · rw [exists_ofGrid_iff wellFormed]
    constructor
    · intro uniform origin shape shapeFound
      obtain ⟨cell, inside, rfl, rfl⟩ := (Grid.boxShape_eq_ok_iff _ _).1 shapeFound
      exact (Grid.uniformAt_iff_spans wellFormed inside).1 (uniform cell inside)
    · intro uniform cell inside
      exact (Grid.uniformAt_iff_spans wellFormed inside).2
        (uniform _ _ (Grid.boxShape_ofNumber inside))
  · intro layout found
    exact ⟨hasBoxes_of_ofGrid wellFormed found, hasPeers_of_ofGrid wellFormed found⟩
  · intro error failed
    rcases ofGrid_cases wellFormed with
      ⟨layout, found, _⟩ | ⟨cell, inside, member, belongs, different, conflict⟩
    · rw [failed] at found
      simp at found
    · obtain ⟨memberInside, spans⟩ :=
        (Grid.mem_block_iff_spans wellFormed inside member).1 belongs
      rw [failed, Except.error.injEq] at conflict
      exact ⟨_, _, _, _, Grid.boxShape_ofNumber inside, spans,
        Grid.boxShape_ofNumber memberInside, different, conflict⟩
  · intro otherAlphabet other heights widths shapes
    exact (SameShapes.of_boxShape heights widths shapes).ofGrid_eq

/-- A band whose right half overrides the height of its boxes. -/
def steppedBand : Grid .unsigned8 :=
  { Grid.openBand with
    cells := #[{}, {}, { boxHeight := some 1 }, { boxHeight := some 1 },
      {}, {}, { boxHeight := some 1 }, { boxHeight := some 1 }] }

/-- The stepped band is built from its rows. -/
theorem built_steppedBand : steppedBand.Built := by
  have made : Grid.ofRowsOver Grid.oneToFour
      [[{}, {}, { boxHeight := some 1 }, { boxHeight := some 1 }],
        [{}, {}, { boxHeight := some 1 }, { boxHeight := some 1 }]] ⟨2, 2⟩ =
        .ok steppedBand := by
    rfl
  exact .ofRowsOver made

/-- The left half of the stepped band is one box, and either row of its right half is another. -/
theorem ofGrid_steppedBand :
    ∃ layout, ofGrid steppedBand = .ok layout ∧
      layout.HasBoxes steppedBand ∧ layout.HasPeers steppedBand ∧
      layout.boxes = #[[0, 1, 4, 5], [2, 3], [6, 7]] := by
  have found : ofGrid steppedBand = .ok {
      height := 2
      width := 4
      boxOf := #[0, 0, 1, 1, 0, 0, 2, 2]
      boxes := #[[0, 1, 4, 5], [2, 3], [6, 7]]
      peers := #[[1, 2, 3, 4, 5], [0, 2, 3, 4, 5], [0, 1, 3, 6], [0, 1, 2, 7],
        [0, 1, 5, 6, 7], [0, 1, 4, 6, 7], [2, 4, 5, 7], [3, 4, 5, 6]] } := by
    decide +kernel
  obtain ⟨_, sound, _⟩ := ofGrid_exact built_steppedBand
  obtain ⟨boxes, peers⟩ := sound _ found
  exact ⟨_, found, boxes, peers, rfl⟩

end Layout
end Sudoku
