import Mathlib.Data.List.Flatten
import Mathlib.Data.List.Forall2
import Sudoku.Proofs.Grid.Frame

/-!
# The rows of a grid

A grid is built from rows of cells and can be read row by row again. A grid that was
built is what its own rows, box shape and domain are built into, whatever values were
written in between, since no check of a building looks at values.
-/

namespace Sudoku
namespace Grid

variable {alphabet : Alphabet} {grid : Grid alphabet}

/-! ### Reading rows -/

@[simp] theorem length_rows (grid : Grid alphabet) : grid.rows.length = grid.height := by
  simp [rows]

/-- Every row has as many cells as the grid is wide. -/
theorem length_of_mem_rows {row : List (Cell alphabet)} (member : row ∈ grid.rows) :
    row.length = grid.width := by
  obtain ⟨number, _, rfl⟩ := List.mem_map.1 member
  simp

/-- Grids of the same dimensions whose cells are related have related rows. -/
theorem forall₂_rows {first second : Grid alphabet}
    {relation : Cell alphabet → Cell alphabet → Prop}
    (heights : first.height = second.height) (widths : first.width = second.width)
    (related : ∀ number < first.cellCount,
      relation (first.cellAt number) (second.cellAt number)) :
    List.Forall₂ (List.Forall₂ relation) first.rows second.rows := by
  unfold rows
  rw [← heights, ← widths, List.forall₂_map_left_iff, List.forall₂_map_right_iff,
    List.forall₂_same]
  intro row rowMember
  rw [List.forall₂_map_left_iff, List.forall₂_map_right_iff, List.forall₂_same]
  intro column columnMember
  have rowInside := Nat.mul_le_mul_right first.width (List.mem_range.1 rowMember)
  have columnInside := List.mem_range.1 columnMember
  rw [Nat.succ_mul] at rowInside
  apply related
  change row * first.width + column < first.height * first.width
  omega

/-- Places counted row by row are places counted throughout. -/
private theorem flatten_map_range {entry : Type} (entries : Nat → entry) (height width : Nat) :
    ((List.range height).map fun row =>
      (List.range width).map fun column => entries (row * width + column)).flatten =
        (List.range (height * width)).map entries := by
  induction height with
  | zero => simp
  | succ height inductionHypothesis =>
      rw [List.range_succ, List.map_append, List.flatten_append, inductionHypothesis,
        Nat.succ_mul, List.range_add, List.map_append, List.map_map]
      simp

/-- The rows one after another are the cells. -/
theorem flatten_rows (sizes : grid.cells.size = grid.cellCount) :
    grid.rows.flatten = grid.cells.toList := by
  have cells := flatten_map_range grid.cellAt grid.height grid.width
  unfold rows
  unfold cellCount at sizes
  simp only [Position.number]
  rw [cells, ← sizes]
  apply List.ext_getElem?
  intro number
  by_cases inside : number < grid.cells.size <;> simp [cellAt, inside]

/-- The first row is as long as the grid is wide. -/
theorem length_headD_rows (wellFormed : grid.WellFormed) :
    (grid.rows.headD []).length = grid.width := by
  have nonempty : grid.rows ≠ [] := by
    rw [← List.length_pos_iff, length_rows]
    exact wellFormed.height_pos
  obtain ⟨row, rest, rows⟩ := List.exists_cons_of_ne_nil nonempty
  rw [rows, List.headD_cons]
  exact length_of_mem_rows (by rw [rows]; exact List.mem_cons_self)

/-! ### Building -/

/-- What a build from rows without a flaw gives. -/
theorem build_eq_ok_iff {rows : List (List (Cell alphabet))} {box : BoxShape}
    {domain : Except Error (Domain alphabet)} {explicitDomain : Bool} :
    build rows box domain explicitDomain = .ok grid ↔
      flaw? rows box = none ∧ grid.height = rows.length ∧
        grid.width = (rows.headD []).length ∧ grid.cells = rows.flatten.toArray ∧
        grid.box = box ∧ domain = .ok grid.domain ∧ grid.explicitDomain = explicitDomain := by
  unfold build
  split
  · next flawed => simp [flawed]
  · next sound =>
      rw [sound]
      cases grid
      cases domain with
      | error error => simp [Except.map]
      | ok domain =>
          simp only [Except.map, Except.ok.injEq, Grid.mk.injEq, true_and]
          constructor
          · rintro ⟨rfl, rfl, rfl, rfl, rfl, rfl⟩
            exact ⟨rfl, rfl, rfl, rfl, rfl, rfl⟩
          · rintro ⟨rfl, rfl, rfl, rfl, rfl, rfl⟩
            exact ⟨rfl, rfl, rfl, rfl, rfl, rfl⟩

/-- A grid that was built from rows has those rows. -/
theorem rows_of_build {rows : List (List (Cell alphabet))} {box : BoxShape}
    {domain : Except Error (Domain alphabet)} {explicitDomain : Bool}
    (built : build rows box domain explicitDomain = .ok grid) : grid.rows = rows := by
  obtain ⟨sound, height, width, cells, _⟩ := build_eq_ok_iff.1 built
  obtain ⟨_, lengths, _⟩ := (flaw?_eq_none_iff rows box).1 sound
  -- Rows are determined by their lengths and by the cells one after another.
  rw [List.eq_iff_flatten_eq]
  constructor
  · rw [flatten_rows (wellFormed_build built).cells_size, cells]
  · rw [List.eq_replicate_of_mem (a := grid.width) (l := grid.rows.map List.length) (by
        simp only [List.mem_map, forall_exists_index, and_imp, forall_apply_eq_imp_iff₂]
        exact fun row member => length_of_mem_rows member),
      List.eq_replicate_of_mem (a := grid.width) (l := rows.map List.length) (by
        simp only [List.mem_map, forall_exists_index, and_imp, forall_apply_eq_imp_iff₂]
        exact fun row member => (lengths row member).trans width.symm)]
    simp [height]

/-- The rows of a well-formed grid have no flaw of form. -/
theorem flaw?_rows (wellFormed : grid.WellFormed) : flaw? grid.rows grid.box = none := by
  have width := length_headD_rows wellFormed
  have boxTiles : grid.box.Tiles grid.height grid.width := by
    -- Beyond the last cell nothing is overridden, and the shape is the default one.
    have tiles := wellFormed.tiles grid.cells.size
    simpa [shapeAt, shapeOf, cellAt] using tiles
  rw [flaw?_eq_none_iff, width, length_rows]
  refine ⟨wellFormed.width_pos, fun row member => length_of_mem_rows member, boxTiles, ?_⟩
  intro row rowMember cell cellMember
  have isCell : cell ∈ grid.cells.toList := by
    rw [← flatten_rows wellFormed.cells_size]
    exact List.mem_flatten.2 ⟨row, rowMember, cellMember⟩
  obtain ⟨number, inside, rfl⟩ := List.getElem_of_mem isCell
  rw [Array.length_toList] at inside
  have tiles := wellFormed.tiles number
  simp only [shapeAt, shapeOf, cellAt, Array.getD_eq_getD_getElem?, inside,
    Array.getElem?_eq_getElem, Option.getD_some] at tiles
  simp only [Array.getElem_toList, overrideFlaw?, Option.or_eq_none_iff,
    Option.bind_eq_none_iff, widthFlaw?_eq_none_iff, heightFlaw?_eq_none_iff]
  constructor
  · intro override isOverride
    have positive := tiles.width_pos
    have divides := tiles.width_dvd
    rw [isOverride] at positive divides
    exact ⟨positive, divides⟩
  · intro override isOverride
    have positive := tiles.height_pos
    have divides := tiles.height_dvd
    rw [isOverride] at positive divides
    exact ⟨positive, divides⟩

/-- A well-formed grid is what its rows and box shape are built into. -/
theorem build_rows (wellFormed : grid.WellFormed) :
    build grid.rows grid.box (.ok grid.domain) grid.explicitDomain = .ok grid := by
  rw [build_eq_ok_iff]
  refine ⟨flaw?_rows wellFormed, (length_rows grid).symm, (length_headD_rows wellFormed).symm,
    ?_, rfl, rfl, rfl⟩
  rw [flatten_rows wellFormed.cells_size]

/-- The domain of a built grid that does not name one is the default domain for its
number of rows. -/
theorem Built.default_domain (built : grid.Built) (unnamed : grid.explicitDomain = false) :
    Domain.default grid.height = .ok grid.domain := by
  induction built with
  | ofRows made =>
      obtain ⟨_, height, _, _, _, domain, _⟩ := build_eq_ok_iff.1 made
      rw [height, domain]
  | ofRowsOver made =>
      obtain ⟨_, _, _, _, _, _, named⟩ := build_eq_ok_iff.1 made
      rw [unnamed] at named
      simp at named
  | setValue _ written inductionHypothesis =>
      unfold Grid.setValue at written
      split at written
      · rw [Except.ok.injEq] at written
        rw [← written] at unnamed ⊢
        exact inductionHypothesis unnamed
      · simp at written

/-- A built grid over the default domain is built from its rows. -/
theorem Built.ofRows_rows (built : grid.Built) (unnamed : grid.explicitDomain = false) :
    Grid.ofRows grid.rows grid.box = .ok grid := by
  have made := build_rows built.wellFormed
  unfold Grid.ofRows
  rwa [length_rows, built.default_domain unnamed, ← unnamed]

/-- A built grid over a domain of its own is built from its rows and that domain. -/
theorem Built.ofRowsOver_rows (built : grid.Built) (named : grid.explicitDomain = true) :
    Grid.ofRowsOver grid.domain grid.rows grid.box = .ok grid := by
  have made := build_rows built.wellFormed
  unfold Grid.ofRowsOver
  rwa [← named]

end Grid
end Sudoku
