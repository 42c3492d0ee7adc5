import Sudoku.Proofs.Ascending
import Sudoku.Proofs.Layout.Division

/-!
# Peers

The peers of a cell are the other cells that share a row, a column or a block
with it. A layout gathers the row, the column and the box of a cell, sorts them and
drops what is there twice. Since a cell has the box that it is a cell of, the relation is
symmetric.
-/

namespace Sudoku

namespace Grid

variable {alphabet : Alphabet}

/-- Whether two different cells of a grid share a row, a column or a box. -/
def Rivals (grid : Grid alphabet) (first second : Nat) : Prop :=
  first < grid.cellCount ∧ second < grid.cellCount ∧ first ≠ second ∧
    (first / grid.width = second / grid.width ∨
      first % grid.width = second % grid.width ∨
      second ∈ grid.block first)

instance (grid : Grid alphabet) (first second : Nat) :
    Decidable (grid.Rivals first second) :=
  inferInstanceAs (Decidable (_ ∧ _))

end Grid

namespace Layout

variable {alphabet : Alphabet} {grid : Grid alphabet} {layout : Layout}

/-- A layout whose peers are cells of it, in ascending order, and form a symmetric
and irreflexive relation. -/
structure Sound (layout : Layout) : Prop where
  lt_cellCount : ∀ cell, ∀ peer ∈ layout.peersOf cell, peer < layout.cellCount
  comm : ∀ cell, ∀ peer ∈ layout.peersOf cell, cell ∈ layout.peersOf peer
  irrefl : ∀ cell, cell ∉ layout.peersOf cell
  ascending : ∀ cell, (layout.peersOf cell).Pairwise (· < ·)

namespace Sound

/-- No peer is listed twice. -/
theorem nodup (sound : layout.Sound) (cell : Nat) : (layout.peersOf cell).Nodup :=
  (sound.ascending cell).imp Nat.ne_of_lt

/-- Only cells of the layout have peers. -/
theorem lt_of_mem (sound : layout.Sound) {cell peer : Nat}
    (member : peer ∈ layout.peersOf cell) : cell < layout.cellCount :=
  sound.lt_cellCount peer cell (sound.comm cell peer member)

/-- The peer relation can be read from either side. -/
theorem mem_comm (sound : layout.Sound) (cell peer : Nat) :
    peer ∈ layout.peersOf cell ↔ cell ∈ layout.peersOf peer :=
  ⟨sound.comm cell peer, sound.comm peer cell⟩

/-- No cell is its own peer. -/
theorem ne_of_mem (sound : layout.Sound) {cell peer : Nat}
    (member : peer ∈ layout.peersOf cell) : peer ≠ cell := by
  rintro rfl
  exact sound.irrefl peer member

end Sound

/-! ### Gathering -/

/-- The cells of a row. -/
private theorem mem_row_iff {width : Nat} (positive : 0 < width) (cell other : Nat) :
    other ∈ (List.range width).map (fun column => Position.number width ⟨cell / width, column⟩) ↔
      cell / width = other / width := by
  simp only [List.mem_map, List.mem_range]
  constructor
  · rintro ⟨column, inside, rfl⟩
    have place : Position.ofNumber width (Position.number width ⟨cell / width, column⟩) = _ :=
      Position.ofNumber_number inside
    exact (congrArg Position.row place).symm
  · intro same
    refine ⟨other % width, Nat.mod_lt _ positive, ?_⟩
    rw [same]
    exact Position.number_ofNumber width other

/-- The cells of a column. -/
private theorem mem_column_iff {width : Nat} (positive : 0 < width) (height cell other : Nat) :
    other ∈ (List.range height).map (fun row => Position.number width ⟨row, cell % width⟩) ↔
      other / width < height ∧ cell % width = other % width := by
  simp only [List.mem_map, List.mem_range]
  constructor
  · rintro ⟨row, inside, rfl⟩
    have place : Position.ofNumber width (Position.number width ⟨row, cell % width⟩) = _ :=
      Position.ofNumber_number (Nat.mod_lt cell positive)
    exact ⟨Nat.lt_of_le_of_lt (Nat.le_of_eq (congrArg Position.row place)) inside,
      (congrArg Position.column place).symm⟩
  · rintro ⟨inside, same⟩
    refine ⟨other / width, inside, ?_⟩
    rw [same]
    exact Position.number_ofNumber width other

/-- What is gathered as peers of a cell are the other cells in its row, its column and its
box. -/
theorem mem_peersIn_iff {height width : Nat} {box : List Nat} {cell : Nat}
    (inside : cell < height * width) (within : ∀ other ∈ box, other < height * width)
    (peer : Nat) :
    peer ∈ peersIn height width box cell ↔
      peer < height * width ∧ cell ≠ peer ∧
        (cell / width = peer / width ∨ cell % width = peer % width ∨ peer ∈ box) := by
  have positive : 0 < width := Nat.pos_of_ne_zero fun none => by simp [none] at inside
  have isCell (other : Nat) : other / width < height ↔ other < height * width :=
    Nat.div_lt_iff_lt_mul positive
  simp only [peersIn, Ascending.mem_dropRepeats, Ascending.mem_sort, List.mem_filter,
    List.mem_append, Position.row_ofNumber, Position.column_ofNumber, bne_iff_ne,
    mem_row_iff positive, mem_column_iff positive, or_assoc]
  constructor
  · rintro ⟨sameRow | ⟨rowInside, sameColumn⟩ | belongs, different⟩
    · exact ⟨(isCell peer).1 (sameRow ▸ (isCell cell).2 inside), different.symm, .inl sameRow⟩
    · exact ⟨(isCell peer).1 rowInside, different.symm, .inr (.inl sameColumn)⟩
    · exact ⟨within peer belongs, different.symm, .inr (.inr belongs)⟩
  · rintro ⟨peerInside, different, sameRow | sameColumn | belongs⟩
    · exact ⟨.inl sameRow, different.symm⟩
    · exact ⟨.inr (.inl ⟨(isCell peer).2 peerInside, sameColumn⟩), different.symm⟩
    · exact ⟨.inr (.inr belongs), different.symm⟩

/-- Peers are gathered in ascending order, and each of them once. -/
theorem pairwise_peersIn (height width : Nat) (box : List Nat) (cell : Nat) :
    (peersIn height width box cell).Pairwise (· < ·) :=
  Ascending.pairwise_dropRepeats (Ascending.pairwise_sort _)

/-! ### Layouts of grids -/

/-- A layout divides its grid into boxes, and gathers the peers of a cell from its box. -/
theorem ofGrid_eq_ok (found : ofGrid grid = .ok layout) :
    ∃ division, Division.ofGrid grid = .ok division ∧
      layout.height = grid.height ∧ layout.width = grid.width ∧
      layout.boxOf = division.boxOf.map (fun box => box.getD 0) ∧
      layout.boxes = division.boxes ∧
      ∀ cell, layout.peersOf? cell =
        if cell < grid.cellCount then
          some (peersIn grid.height grid.width (division.boxAround cell) cell)
        else none := by
  unfold ofGrid at found
  cases divided : Division.ofGrid grid with
  | error error => simp [divided, Except.map] at found
  | ok division =>
      simp only [divided, Except.map, Except.ok.injEq] at found
      subst found
      refine ⟨division, rfl, rfl, rfl, rfl, rfl, ?_⟩
      intro cell
      simp only [peersOf?, List.getElem?_toArray, List.getElem?_map]
      by_cases inside : cell < grid.cellCount <;> simp [inside]

/-- A layout lists the peers of every cell of its grid. -/
theorem peersOf?_eq (found : ofGrid grid = .ok layout) {cell : Nat}
    (inside : cell < grid.cellCount) :
    layout.peersOf? cell = some (layout.peersOf cell) := by
  obtain ⟨_, _, _, _, _, _, listed⟩ := ofGrid_eq_ok found
  rw [peersOf, listed, if_pos inside]
  rfl

/-- A layout lists peers in ascending order. -/
theorem pairwise_peersOf (found : ofGrid grid = .ok layout) (cell : Nat) :
    (layout.peersOf cell).Pairwise (· < ·) := by
  obtain ⟨_, _, _, _, _, _, listed⟩ := ofGrid_eq_ok found
  rw [peersOf, listed]
  split
  · exact pairwise_peersIn ..
  · exact .nil

/-- The peers of a cell are the other cells in its row, its column and its box. -/
theorem mem_peersOf_iff_gathered (found : ofGrid grid = .ok layout) :
    ∃ division, Division.ofGrid grid = .ok division ∧ ∀ cell peer,
      peer ∈ layout.peersOf cell ↔
        cell < grid.cellCount ∧ peer < grid.cellCount ∧ cell ≠ peer ∧
          (cell / grid.width = peer / grid.width ∨ cell % grid.width = peer % grid.width ∨
            ∃ box, division.box? cell = some box ∧ division.box? peer = some box) := by
  obtain ⟨division, divided, _, _, _, _, listed⟩ := ofGrid_eq_ok found
  have consistent := Division.consistent_of_ofGrid divided
  refine ⟨division, divided, fun cell peer => ?_⟩
  rw [peersOf, listed]
  split
  · next inside =>
      rw [Option.getD_some, mem_peersIn_iff inside, consistent.mem_boxAround_iff,
        and_iff_right inside]
      · rfl
      · intro other member
        obtain ⟨_, _, boxed⟩ := (consistent.mem_boxAround_iff cell other).1 member
        exact consistent.lt_of_box? boxed
  · next outside => simp [outside]

/-- A layout has the dimensions of its grid. -/
theorem cellCount_of_ofGrid (found : ofGrid grid = .ok layout) :
    layout.cellCount = grid.cellCount := by
  obtain ⟨_, _, heights, widths, _⟩ := ofGrid_eq_ok found
  unfold cellCount Grid.cellCount
  rw [heights, widths]

/-- A layout fits its grid. -/
theorem fits_of_ofGrid (found : ofGrid grid = .ok layout) : layout.fits grid = true := by
  obtain ⟨_, _, heights, widths, _⟩ := ofGrid_eq_ok found
  simp [fits, heights, widths]

/-- The layout of a grid is sound. -/
theorem sound_of_ofGrid (found : ofGrid grid = .ok layout) : layout.Sound := by
  obtain ⟨division, _, gathered⟩ := mem_peersOf_iff_gathered found
  constructor
  · intro cell peer member
    rw [cellCount_of_ofGrid found]
    exact ((gathered cell peer).1 member).2.1
  · intro cell peer member
    obtain ⟨inside, peerInside, different, shared⟩ := (gathered cell peer).1 member
    exact (gathered peer cell).2 ⟨peerInside, inside, different.symm,
      shared.imp Eq.symm (Or.imp Eq.symm fun ⟨box, boxed, peerBoxed⟩ =>
        ⟨box, peerBoxed, boxed⟩)⟩
  · intro cell member
    exact ((gathered cell cell).1 member).2.2.1 rfl
  · exact pairwise_peersOf found

/-- A well-formed grid has a layout, unless a member of a block has another shape
than the cell whose block it is. -/
theorem ofGrid_cases (wellFormed : grid.WellFormed) :
    (∃ layout, ofGrid grid = .ok layout ∧
      ∀ cell < grid.cellCount, grid.UniformAt cell) ∨
    ∃ cell < grid.cellCount, ∃ member ∈ grid.block cell,
      grid.shapeAt member ≠ grid.shapeAt cell ∧
      ofGrid grid = .error (grid.shapeConflict cell member) := by
  rcases Division.ofGrid_cases wellFormed with
    ⟨division, divided, sound, boxed⟩ | ⟨cell, inside, member, belongs, different, conflict⟩
  · refine .inl ⟨_, by rw [ofGrid, divided]; rfl, ?_⟩
    intro cell inside
    exact sound.uniformAt wellFormed (boxed cell inside)
  · exact .inr ⟨cell, inside, member, belongs, different, by rw [ofGrid, conflict]; rfl⟩

/-- A grid has a layout exactly when every block is of one shape throughout. -/
theorem exists_ofGrid_iff (wellFormed : grid.WellFormed) :
    (∃ layout, ofGrid grid = .ok layout) ↔
      ∀ cell < grid.cellCount, grid.UniformAt cell := by
  rcases ofGrid_cases wellFormed with
    ⟨layout, found, uniform⟩ | ⟨cell, inside, member, belongs, different, conflict⟩
  · exact ⟨fun _ => uniform, fun _ => ⟨layout, found⟩⟩
  · constructor
    · rintro ⟨layout, found⟩
      rw [conflict] at found
      simp at found
    · intro uniform
      exact absurd (uniform cell inside member belongs) different

/-- The boxes of a layout are those of a sound division, in which every cell has the
box that the layout gives it. -/
theorem exists_division (wellFormed : grid.WellFormed) (found : ofGrid grid = .ok layout) :
    ∃ division, Division.ofGrid grid = .ok division ∧ Division.Sound grid division ∧
      layout.boxes = division.boxes ∧
      ∀ cell < grid.cellCount, division.box? cell = some (layout.boxOf.getD cell 0) := by
  obtain ⟨division, divided, _, _, boxOf, boxes, _⟩ := ofGrid_eq_ok found
  rcases Division.ofGrid_cases wellFormed with
    ⟨_, sameDivided, sound, boxed⟩ | ⟨_, _, _, _, _, conflict⟩
  · rw [divided, Except.ok.injEq] at sameDivided
    subst sameDivided
    refine ⟨division, divided, sound, boxes, fun cell inside => ?_⟩
    obtain ⟨box, boxFound⟩ := Option.isSome_iff_exists.1 (boxed cell inside)
    have entry : division.boxOf[cell]? = some (some box) := by
      unfold Division.box? at boxFound
      rw [Array.getD_eq_getD_getElem?] at boxFound
      cases entry : division.boxOf[cell]? <;> simp_all
    rw [boxFound, boxOf, Array.getD_eq_getD_getElem?, Array.getElem?_map, entry]
    rfl
  · rw [divided] at conflict
    simp at conflict

section

variable (wellFormed : grid.WellFormed) (found : ofGrid grid = .ok layout)

include wellFormed found

/-- Cells have the same box when one lies in the block of the other. -/
theorem boxOf_eq_iff {first second : Nat} (firstInside : first < grid.cellCount)
    (secondInside : second < grid.cellCount) :
    layout.boxOf.getD first 0 = layout.boxOf.getD second 0 ↔ second ∈ grid.block first := by
  obtain ⟨division, _, sound, _, boxAt⟩ := exists_division wellFormed found
  rw [← sound.box?_eq_iff wellFormed (by simp [boxAt first firstInside]),
    boxAt first firstInside, boxAt second secondInside, Option.some.injEq]

/-- The peers of a cell are its rivals. -/
theorem mem_peersOf_iff (cell peer : Nat) :
    peer ∈ layout.peersOf cell ↔ grid.Rivals cell peer := by
  obtain ⟨division, divided, _, _, boxAt⟩ := exists_division wellFormed found
  obtain ⟨other, otherDivided, gathered⟩ := mem_peersOf_iff_gathered found
  rw [divided, Except.ok.injEq] at otherDivided
  subst otherDivided
  rw [gathered, Grid.Rivals]
  refine and_congr_right fun inside => and_congr_right fun peerInside =>
    and_congr_right fun _ => or_congr_right (or_congr_right ?_)
  rw [← boxOf_eq_iff wellFormed found inside peerInside, boxAt cell inside,
    boxAt peer peerInside]
  simp [eq_comm]

end

end Layout
end Sudoku
