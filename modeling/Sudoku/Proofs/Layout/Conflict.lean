import Sudoku.Proofs.Layout.Peers

/-!
# Conflicts

The search for a conflict looks at each cell and its later peers only. Since the
peer relation is symmetric, it still finds a conflict whenever there is one.
-/

namespace Sudoku
namespace Layout

variable {alphabet : Alphabet} {layout : Layout} {grid : Grid alphabet}

/-- No two peers of the layout hold equal values in the grid. -/
def Respected (layout : Layout) (grid : Grid alphabet) : Prop :=
  ∀ cell, ∀ peer ∈ layout.peersOf cell, ∀ symbol,
    grid.valueAt cell = some symbol → grid.valueAt peer ≠ some symbol

/-- A rival is a later peer with the same value. -/
theorem rivalOf?_eq_some {cell rival : Nat}
    (found : layout.rivalOf? grid cell = some rival) :
    rival ∈ layout.peersOf cell ∧ cell < rival ∧
      ∃ symbol, grid.valueAt cell = some symbol ∧ grid.valueAt rival = some symbol := by
  obtain ⟨symbol, held, foundRival⟩ := Option.bind_eq_some_iff.1 found
  have later := List.find?_some foundRival
  simp only [Bool.and_eq_true, decide_eq_true_eq, beq_iff_eq] at later
  exact ⟨List.mem_of_find?_eq_some foundRival, later.1, symbol, held, later.2⟩

/-- A cell without a rival holds no value of a later peer. -/
theorem rivalOf?_eq_none {cell peer : Nat} {symbol : Symbol alphabet}
    (missing : layout.rivalOf? grid cell = none) (held : grid.valueAt cell = some symbol)
    (member : peer ∈ layout.peersOf cell) (later : cell < peer) :
    grid.valueAt peer ≠ some symbol := by
  have noPeer := Option.bind_eq_none_iff.1 missing symbol held
  have different := List.find?_eq_none.1 noPeer peer member
  simpa [later] using different

/-- A conflict is a pair of peers with the same value. -/
theorem conflict?_eq_some {first second : Nat}
    (found : layout.conflict? grid = some (first, second)) :
    second ∈ layout.peersOf first ∧ first < second ∧
      ∃ symbol, grid.valueAt first = some symbol ∧ grid.valueAt second = some symbol := by
  obtain ⟨cell, _, rival⟩ := List.exists_of_findSome?_eq_some found
  obtain ⟨peer, isRival, equality⟩ := Option.map_eq_some_iff.1 rival
  simp only [Prod.mk.injEq] at equality
  obtain ⟨rfl, rfl⟩ := equality
  exact rivalOf?_eq_some isRival

/-- There is no conflict exactly when no two peers hold equal values. -/
theorem conflict?_eq_none_iff (sound : layout.Sound) :
    layout.conflict? grid = none ↔ layout.Respected grid := by
  constructor
  · intro missing cell peer member symbol held peerHeld
    have noRival {place : Nat} (inside : place < layout.cellCount) :
        layout.rivalOf? grid place = none := by
      have none := List.findSome?_eq_none_iff.1 missing place (List.mem_range.2 inside)
      simpa using none
    rcases Nat.lt_or_ge cell peer with before | after
    · exact rivalOf?_eq_none (noRival (sound.lt_of_mem member)) held member before peerHeld
    · have different := sound.ne_of_mem member
      exact rivalOf?_eq_none (noRival (sound.lt_cellCount cell peer member)) peerHeld
        (sound.comm cell peer member) (by omega) held
  · intro respected
    by_contra conflicting
    obtain ⟨⟨first, second⟩, found⟩ := Option.ne_none_iff_exists'.1 conflicting
    obtain ⟨member, _, symbol, held, peerHeld⟩ := conflict?_eq_some found
    exact respected first second member symbol held peerHeld

/-- The peers of a grid hold different values when its rivals do. -/
theorem respected_iff (wellFormed : grid.WellFormed) (found : ofGrid grid = .ok layout)
    (values : Grid alphabet) :
    layout.Respected values ↔
      ∀ first second, grid.Rivals first second → ∀ symbol,
        values.valueAt first = some symbol → values.valueAt second ≠ some symbol := by
  simp only [Respected, mem_peersOf_iff wellFormed found]

/-! ### Checking a grid -/

/-- A position inside the grid has the value of its number. -/
theorem value_ofNumber {number : Nat} (inside : number < grid.cellCount) :
    grid.value (Position.ofNumber grid.width number) = .ok (grid.valueAt number) := by
  unfold Grid.value
  rw [Grid.cell_ofNumber inside]
  rfl

/-- A layout fits the grids of its dimensions. -/
theorem fits_iff (layout : Layout) (grid : Grid alphabet) :
    layout.fits grid = true ↔ grid.height = layout.height ∧ grid.width = layout.width := by
  simp only [Layout.fits, Bool.and_eq_true, beq_iff_eq]
  exact and_comm

/-- A grid of the dimensions of a layout has as many cells. -/
theorem cellCount_of_fits (fits : layout.fits grid = true) :
    layout.cellCount = grid.cellCount := by
  obtain ⟨heights, widths⟩ := (layout.fits_iff grid).1 fits
  unfold cellCount Grid.cellCount
  rw [heights, widths]

/-- The position of a cell has the value of the cell. -/
theorem value_positionOf (fits : layout.fits grid = true) {cell : Nat}
    (inside : cell < layout.cellCount) :
    grid.value (layout.positionOf cell) = .ok (grid.valueAt cell) := by
  rw [cellCount_of_fits fits] at inside
  unfold positionOf
  rw [← ((layout.fits_iff grid).1 fits).2, value_ofNumber inside]

/-- The check of a grid passes when no conflict is found. -/
theorem checkUnique_of_findConflict_eq_none (nothing : layout.findConflict grid = .ok none) :
    layout.checkUnique grid = .ok () := by
  unfold checkUnique
  rw [nothing]
  rfl

/-- The check of a grid names the conflict that is found and the value at the first of its
positions. -/
theorem checkUnique_of_findConflict_eq_some {first second : Position}
    {symbol : Symbol alphabet} (conflict : layout.findConflict grid = .ok (some (first, second)))
    (held : grid.value first = .ok (some symbol)) :
    layout.checkUnique grid = .error (.invalid (.ofPosition first)
      (.duplicateValue first second symbol.text)) := by
  simp only [checkUnique, conflict, held, bind, Except.bind, Option.elim]

/-- The check of a grid passes when there is no conflict. Otherwise it names the
cells of the conflict and their value. -/
theorem checkUnique_eq (sound : layout.Sound) (fits : layout.fits grid = true) :
    (layout.Respected grid ∧ layout.findConflict grid = .ok none ∧
      layout.checkUnique grid = .ok ()) ∨
    ∃ first second symbol, second ∈ layout.peersOf first ∧ first < second ∧
      grid.valueAt first = some symbol ∧ grid.valueAt second = some symbol ∧
      layout.findConflict grid =
        .ok (some (layout.positionOf first, layout.positionOf second)) ∧
      layout.checkUnique grid =
        .error (.invalid (.ofPosition (layout.positionOf first))
          (.duplicateValue (layout.positionOf first) (layout.positionOf second)
            symbol.text)) := by
  cases conflict : layout.conflict? grid with
  | none =>
      have found : layout.findConflict grid = .ok none := by
        simp [findConflict, fits, conflict]
      exact .inl ⟨(conflict?_eq_none_iff sound).1 conflict, found,
        checkUnique_of_findConflict_eq_none found⟩
  | some pair =>
      obtain ⟨first, second⟩ := pair
      obtain ⟨member, before, symbol, held, peerHeld⟩ := conflict?_eq_some conflict
      have found : layout.findConflict grid =
          .ok (some (layout.positionOf first, layout.positionOf second)) := by
        simp [findConflict, fits, conflict]
      have value : grid.value (layout.positionOf first) = .ok (some symbol) := by
        rw [value_positionOf fits (sound.lt_of_mem member), held]
      exact .inr ⟨first, second, symbol, member, before, held, peerHeld, found,
        checkUnique_of_findConflict_eq_some found value⟩

end Layout
end Sudoku
