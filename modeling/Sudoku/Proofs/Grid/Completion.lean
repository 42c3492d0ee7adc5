import Sudoku.Proofs.Grid.Origin
import Sudoku.Proofs.Layout.Conflict

/-!
# Completions

A completion of a grid has its frame, holds a value of the domain in every cell,
keeps the values that the grid has, and respects the rules: no two cells that
share a row, a column or a box hold equal values. A grid is valid when a solver
has nothing to object to it: its boxes agree on their shapes, its values lie in
the domain, and they respect the rules as far as they go.
-/

namespace Sudoku
namespace Grid

variable {alphabet : Alphabet}

/-- Every cell of a full grid holds a value. -/
theorem isFull_iff (grid : Grid alphabet) :
    grid.isFull = true ↔
      ∀ cell < grid.cellCount, (grid.valueAt cell).isSome = true := by
  simp [isFull]

/-- One grid fills another when it has the same frame, is full, takes its values
from the domain, keeps those of the other, and has different ones in rival cells. -/
structure Fills (rivals : Nat → Nat → Prop) (solution grid : Grid alphabet) : Prop where
  frame_eq : solution.frame = grid.frame
  full : solution.isFull = true
  inDomain : ∀ cell symbol, solution.valueAt cell = some symbol →
    grid.domain.contains symbol = true
  keeps : ∀ cell symbol, grid.valueAt cell = some symbol →
    solution.valueAt cell = some symbol
  distinct : ∀ first second, rivals first second →
    solution.valueAt first ≠ solution.valueAt second

/-- A completion fills a grid by the rules of the grid. -/
def IsCompletion (grid solution : Grid alphabet) : Prop :=
  Fills grid.Rivals solution grid

/-- Filling depends on which cells are rivals only. -/
theorem fills_congr {rivals others : Nat → Nat → Prop} {solution grid : Grid alphabet}
    (same : ∀ first second, rivals first second ↔ others first second) :
    Fills rivals solution grid ↔ Fills others solution grid := by
  have equal : rivals = others := by
    funext first second
    exact propext (same first second)
  rw [equal]

/-- A cell of a solution holds a value. -/
theorem Fills.exists_valueAt {rivals : Nat → Nat → Prop} {solution grid : Grid alphabet}
    (fills : Fills rivals solution grid) {cell : Nat} (inside : cell < grid.cellCount) :
    ∃ symbol, solution.valueAt cell = some symbol := by
  rw [← cellCount_eq_of_frame_eq fills.frame_eq] at inside
  exact Option.isSome_iff_exists.1 ((isFull_iff solution).1 fills.full cell inside)

/-- The completions of a built grid are built, and can be given to a solver again. -/
theorem IsCompletion.built {grid solution : Grid alphabet}
    (completes : grid.IsCompletion solution) (built : grid.Built) : solution.Built :=
  built.of_frame_eq completes.frame_eq

/-! ### Valid grids -/

/-- A grid that a solver accepts: every block is of one shape, every value lies in
the domain, and no two rivals hold equal values. -/
structure Valid (grid : Grid alphabet) : Prop where
  uniform : ∀ cell < grid.cellCount, grid.UniformAt cell
  inDomain : ∀ cell symbol, grid.valueAt cell = some symbol →
    grid.domain.contains symbol = true
  distinct : ∀ first second, grid.Rivals first second → ∀ symbol,
    grid.valueAt first = some symbol → grid.valueAt second ≠ some symbol

/-! ### Deciding -/

/-- A property of the values of a grid can be checked cell by cell. -/
theorem forall_valueAt_iff (grid : Grid alphabet)
    (property : Nat → Symbol alphabet → Prop) :
    (∀ cell symbol, grid.valueAt cell = some symbol → property cell symbol) ↔
      ∀ cell < grid.cells.size, ∀ symbol ∈ grid.valueAt cell, property cell symbol := by
  constructor
  · intro holds cell _ symbol held
    exact holds cell symbol held
  · intro holds cell symbol held
    exact holds cell (lt_size_of_valueAt held) symbol held

/-- A property of rivals can be checked on the cells of the grid. -/
theorem forall_rivals_iff (grid : Grid alphabet) (property : Nat → Nat → Prop) :
    (∀ first second, grid.Rivals first second → property first second) ↔
      ∀ first < grid.cellCount, ∀ second < grid.cellCount,
        grid.Rivals first second → property first second := by
  constructor
  · intro holds first _ second _
    exact holds first second
  · intro holds first second rivals
    exact holds first rivals.1 second rivals.2.1 rivals

instance (grid : Grid alphabet) : Decidable grid.Valid :=
  decidable_of_iff
    ((∀ cell < grid.cellCount, grid.UniformAt cell) ∧
      (∀ cell < grid.cells.size, ∀ symbol ∈ grid.valueAt cell,
        grid.domain.contains symbol = true) ∧
      ∀ first < grid.cellCount, ∀ second < grid.cellCount, grid.Rivals first second →
        ∀ symbol ∈ grid.valueAt first, grid.valueAt second ≠ some symbol)
    (by
      rw [← forall_valueAt_iff, ← forall_rivals_iff]
      exact ⟨fun ⟨uniform, inDomain, distinct⟩ => ⟨uniform, inDomain, distinct⟩,
        fun ⟨uniform, inDomain, distinct⟩ => ⟨uniform, inDomain, distinct⟩⟩)

instance (grid solution : Grid alphabet) : Decidable (grid.IsCompletion solution) :=
  decidable_of_iff
    (solution.frame = grid.frame ∧ solution.isFull = true ∧
      (∀ cell < solution.cells.size, ∀ symbol ∈ solution.valueAt cell,
        grid.domain.contains symbol = true) ∧
      (∀ cell < grid.cells.size, ∀ symbol ∈ grid.valueAt cell,
        solution.valueAt cell = some symbol) ∧
      ∀ first < grid.cellCount, ∀ second < grid.cellCount, grid.Rivals first second →
        solution.valueAt first ≠ solution.valueAt second)
    (by
      rw [← forall_valueAt_iff, ← forall_valueAt_iff, ← forall_rivals_iff]
      exact ⟨fun ⟨frame, full, inDomain, keeps, distinct⟩ =>
          ⟨frame, full, inDomain, keeps, distinct⟩,
        fun ⟨frame, full, inDomain, keeps, distinct⟩ =>
          ⟨frame, full, inDomain, keeps, distinct⟩⟩)

/-! ### A band of two boxes -/

/-- The first of the symbols of the band. -/
def one : Symbol .unsigned8 :=
  ⟨1, by decide, by decide⟩

/-- The second of the symbols of the band. -/
def two : Symbol .unsigned8 :=
  ⟨2, by decide, by decide⟩

/-- The third of the symbols of the band. -/
def three : Symbol .unsigned8 :=
  ⟨3, by decide, by decide⟩

/-- The last of the symbols of the band. -/
def four : Symbol .unsigned8 :=
  ⟨4, by decide, by decide⟩

/-- The symbols of the band. -/
def oneToFour : Domain .unsigned8 where
  listed := [one, two, three, four]
  values := #[one, two, three, four]
  perm := .refl _
  ascending := by decide
  nonempty := by decide

/-- Two boxes of two rows side by side, over four symbols. Two and three are given in either
box, so that the four cells that are named here can hold one or four only. Two of them share a
row each, and those that share a box share neither row nor column. -/
def band (first second third fourth : Option (Symbol .unsigned8)) : Grid .unsigned8 where
  height := 2
  width := 4
  cells := #[{ value := first }, { value := some two }, { value := some three },
    { value := second }, { value := some three }, { value := third }, { value := fourth },
    { value := some two }]
  box := ⟨2, 2⟩
  domain := oneToFour
  explicitDomain := true

/-- The band with four open cells. -/
def openBand : Grid .unsigned8 :=
  band none none none none

/-- The band is made from its rows. -/
theorem ofRowsOver_openBand :
    ofRowsOver oneToFour
      [[{}, { value := some two }, { value := some three }, {}],
        [{ value := some three }, {}, {}, { value := some two }]] ⟨2, 2⟩ = .ok openBand :=
  rfl

theorem built_openBand : openBand.Built :=
  .ofRowsOver ofRowsOver_openBand

/-- The band with equal symbols in the first and last of its four cells, and in the two
between. -/
def fullBand (outer inner : Symbol .unsigned8) : Grid .unsigned8 :=
  band (some outer) (some inner) (some inner) (some outer)

example : openBand.IsCompletion (fullBand one four) := by
  decide +kernel

end Grid
end Sudoku
