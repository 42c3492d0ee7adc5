import Sudoku.Proofs.Domain
import Sudoku.Proofs.Error
import Sudoku.Proofs.Layout.Exactness

/-!
# Relabelled grids

A grid relabels another when both have the same shapes and their cells hold values of the
same index, each within its own domain. The symbols themselves may come from different
alphabets. What the rules say of a grid, and what becomes of it when the value of an index
is written, is the same for all grids that relabel one another.
-/

namespace Sudoku
namespace Grid

variable {alphabet otherAlphabet : Alphabet} {domain : Domain alphabet}
  {otherDomain : Domain otherAlphabet} {grid : Grid alphabet} {other : Grid otherAlphabet}

/-- At every cell both grids are empty, or hold values of the same index, each within its
own domain. -/
def SameIndices (other : Grid otherAlphabet) (grid : Grid alphabet) : Prop :=
  ∀ cell < grid.cellCount, Option.Rel (Domain.SameIndex other.domain grid.domain)
    (other.valueAt cell) (grid.valueAt cell)

/-- Two grids with the same shapes over two domains of one size, whose cells hold values
of the same index. -/
structure Relabels (otherDomain : Domain otherAlphabet) (domain : Domain alphabet)
    (other : Grid otherAlphabet) (grid : Grid alphabet) : Prop where
  shapes : Layout.SameShapes other grid
  cells_size_eq : other.cells.size = grid.cells.size
  domain_size_eq : otherDomain.size = domain.size
  other_domain_eq : other.domain = otherDomain
  domain_eq : grid.domain = domain
  rel_valueAt : ∀ cell, Option.Rel (Domain.SameIndex otherDomain domain)
    (other.valueAt cell) (grid.valueAt cell)

/-- A grid passes the check of its values when all of them lie in the domain. -/
theorem checkValues_eq_ok (inDomain : ∀ cell symbol, grid.valueAt cell = some symbol →
      grid.domain.contains symbol = true) : grid.checkValues = .ok () := by
  rw [checkValues, Error.guard_eq_ok_iff, valueFlaw?, List.findSome?_eq_none_iff]
  intro cell _
  rw [Option.bind_eq_none_iff]
  intro symbol held
  rw [if_pos (inDomain cell symbol held)]

/-- Built grids of the same shapes relabel one another when their values have the same
indices. -/
theorem SameIndices.relabels (indices : SameIndices other grid) (built : grid.Built)
    (otherBuilt : other.Built) (shapes : Layout.SameShapes other grid)
    (sizes : other.domain.size = grid.domain.size) :
    other.Relabels other.domain grid.domain grid where
  shapes := shapes
  cells_size_eq := by
    rw [built.wellFormed.cells_size, otherBuilt.wellFormed.cells_size, shapes.cellCount_eq]
  domain_size_eq := sizes
  other_domain_eq := rfl
  domain_eq := rfl
  rel_valueAt cell := by
    by_cases inside : cell < grid.cellCount
    · exact indices cell inside
    · have outside : grid.cells.size ≤ cell := by
        rw [built.wellFormed.cells_size]
        omega
      have otherOutside : other.cells.size ≤ cell := by
        rw [otherBuilt.wellFormed.cells_size, shapes.cellCount_eq]
        omega
      rw [valueAt_eq_none_of_le outside, valueAt_eq_none_of_le otherOutside]
      exact .none

namespace Relabels

variable (relabels : other.Relabels otherDomain domain grid)

include relabels

theorem sameIndices : SameIndices other grid := by
  intro cell _
  rw [relabels.other_domain_eq, relabels.domain_eq]
  exact relabels.rel_valueAt cell

/-! ### Reading -/

theorem size_domain_eq : other.domain.size = grid.domain.size := by
  rw [relabels.other_domain_eq, relabels.domain_eq, relabels.domain_size_eq]

theorem isFull_eq : other.isFull = grid.isFull := by
  unfold isFull
  rw [relabels.shapes.cellCount_eq]
  congr 1
  funext cell
  have related := relabels.rel_valueAt cell
  generalize other.valueAt cell = otherValue, grid.valueAt cell = value at related ⊢
  cases related <;> rfl

theorem fits_eq (layout : Layout) : layout.fits other = layout.fits grid := by
  unfold Layout.fits
  rw [relabels.shapes.height_eq, relabels.shapes.width_eq]

theorem contains_eq (position : Position) :
    other.contains position = grid.contains position := by
  unfold contains
  rw [relabels.shapes.height_eq, relabels.shapes.width_eq]

/-- Related values have the same index. -/
theorem bind_index?_eq (cell : Nat) :
    (other.valueAt cell).bind other.domain.index? =
      (grid.valueAt cell).bind grid.domain.index? := by
  rw [relabels.other_domain_eq, relabels.domain_eq]
  have related := relabels.rel_valueAt cell
  generalize other.valueAt cell = otherValue, grid.valueAt cell = value at related ⊢
  cases related with
  | none => rfl
  | some same => exact same.index?_eq

/-- The values of relabelled grids lie in their domains. -/
theorem inDomain (cell : Nat) :
    (∀ symbol, other.valueAt cell = some symbol → other.domain.contains symbol = true) ∧
      ∀ symbol, grid.valueAt cell = some symbol → grid.domain.contains symbol = true := by
  rw [relabels.other_domain_eq, relabels.domain_eq]
  have related := relabels.rel_valueAt cell
  generalize other.valueAt cell = otherValue, grid.valueAt cell = value at related ⊢
  cases related with
  | none => simp
  | some same =>
      obtain ⟨index, otherNamed, named⟩ := same
      simp only [Option.some.injEq, forall_eq', Domain.contains_iff]
      exact ⟨⟨index, otherNamed⟩, ⟨index, named⟩⟩

/-! ### Rules -/

/-- Cells hold equal values in one grid when they do in the other. -/
theorem rivalOf?_eq (layout : Layout) (cell : Nat) :
    layout.rivalOf? other cell = layout.rivalOf? grid cell := by
  unfold Layout.rivalOf?
  have related := relabels.rel_valueAt cell
  generalize other.valueAt cell = otherValue, grid.valueAt cell = value at related ⊢
  cases related with
  | none => rfl
  | some same =>
      rw [Option.bind_some, Option.bind_some]
      congr 1
      funext peer
      congr 1
      have peerRelated := relabels.rel_valueAt peer
      generalize other.valueAt peer = otherValue, grid.valueAt peer = value at peerRelated ⊢
      cases peerRelated with
      | none => rfl
      | some peerSame =>
          rw [Option.some_beq_some, Option.some_beq_some, Bool.eq_iff_iff, beq_iff_eq,
            beq_iff_eq]
          exact peerSame.eq_iff same

theorem findConflict_eq (layout : Layout) :
    layout.findConflict other = layout.findConflict grid := by
  unfold Layout.findConflict Layout.conflict?
  simp only [relabels.fits_eq, relabels.rivalOf?_eq]

/-- Relabelled grids break the rules in the same cells. -/
theorem checkUnique_agree (layout : Layout) :
    Error.Agree (· = ·) (layout.checkUnique other) (layout.checkUnique grid) := by
  unfold Layout.checkUnique
  rw [relabels.findConflict_eq]
  refine (Error.Agree.refl _).bind ?_
  rintro conflict _ rfl
  cases conflict with
  | none => exact .refl _
  | some positions =>
      have values : Error.Agree (fun _ _ => True) (other.value positions.1)
          (grid.value positions.1) := by
        unfold value cell
        rw [relabels.contains_eq]
        split
        · exact .ok trivial
        · exact .error rfl
      exact values.bind fun _ _ _ => .error rfl

/-! ### Writing -/

/-- Relabelled grids stay so when values of the same index are written. -/
theorem setValueAt (number : Nat) {value : Option (Symbol alphabet)}
    {otherValue : Option (Symbol otherAlphabet)}
    (same : Option.Rel (Domain.SameIndex otherDomain domain) otherValue value) :
    (other.setValueAt number otherValue).Relabels otherDomain domain
      (grid.setValueAt number value) where
  shapes := by
    refine ⟨relabels.shapes.height_eq, relabels.shapes.width_eq, ?_⟩
    intro cell inside
    rw [shapeAt_eq_of_frame_eq (frame_setValueAt other number _),
      shapeAt_eq_of_frame_eq (frame_setValueAt grid number _)]
    exact relabels.shapes.shapeAt_eq cell inside
  cells_size_eq := by
    simpa [Grid.setValueAt] using relabels.cells_size_eq
  domain_size_eq := relabels.domain_size_eq
  other_domain_eq := relabels.other_domain_eq
  domain_eq := relabels.domain_eq
  rel_valueAt cell := by
    rw [valueAt_setValueAt, valueAt_setValueAt, relabels.cells_size_eq]
    split
    · exact same
    · exact relabels.rel_valueAt cell

theorem setValue_agree (position : Position) {value : Option (Symbol alphabet)}
    {otherValue : Option (Symbol otherAlphabet)}
    (same : Option.Rel (Domain.SameIndex otherDomain domain) otherValue value) :
    Error.Agree (Relabels otherDomain domain) (other.setValue position otherValue)
      (grid.setValue position value) := by
  unfold setValue
  rw [relabels.contains_eq, relabels.shapes.width_eq]
  split
  · exact .ok (relabels.setValueAt _ same)
  · exact .error rfl

end Relabels
end Grid
end Sudoku
