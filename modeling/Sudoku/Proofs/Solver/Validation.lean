import Sudoku.Proofs.Board.Completion
import Sudoku.Solver

/-!
# What a solver objects to

A solver checks a grid before it searches: that the shapes of its boxes agree,
that its values lie in the domain, and that no two peers hold equal values. It
reports the first of these checks that fails. A grid that passes them all has a
coherent board, whose completions are those of the grid.
-/

namespace Sudoku

variable {alphabet : Alphabet} {grid solution : Grid alphabet} {layout : Layout}

/-- What a solver reports for a grid: that its layout cannot be built, else that a
value is not in its domain, else that two peers hold equal values, as the first pair
of them does. -/
inductive Grid.Rejects (grid : Grid alphabet) : Error → Prop
  | shapes {position : Position} {expected found : BoxShape}
      (conflicting : Layout.ofGrid grid = .error
        (.invalid (.ofPosition position) (.conflictingBoxShape position expected found))) :
      Rejects grid
        (.invalid (.ofPosition position) (.conflictingBoxShape position expected found))
  | values {layout : Layout} {position : Position} {text : String}
      (divided : Layout.ofGrid grid = .ok layout)
      (outside : grid.checkValues = .error
        (.malformed (.ofPosition position) (.valueOutOfDomain text))) :
      Rejects grid (.malformed (.ofPosition position) (.valueOutOfDomain text))
  | rivals {layout : Layout} {first second : Position} {symbol : Symbol alphabet}
      (divided : Layout.ofGrid grid = .ok layout) (checked : grid.checkValues = .ok ())
      (conflicting : layout.findConflict grid = .ok (some (first, second)))
      (held : grid.value first = .ok (some symbol))
      (heldToo : grid.value second = .ok (some symbol)) :
      Rejects grid
        (.invalid (.ofPosition first) (.duplicateValue first second symbol.text))

/-- A failed check of the values names a cell and its value. -/
theorem Grid.checkValues_cases (grid : Grid alphabet) :
    grid.checkValues = .ok () ∨
      ∃ number symbol, number < grid.cellCount ∧ grid.valueAt number = some symbol ∧
        grid.domain.contains symbol = false ∧
        grid.checkValues = .error (.malformed
          (.ofPosition (.ofNumber grid.width number)) (.valueOutOfDomain symbol.text)) := by
  cases flaw : grid.valueFlaw? with
  | none => exact .inl (by rw [checkValues, flaw, Error.guard])
  | some error =>
      right
      obtain ⟨number, member, found⟩ := List.exists_of_findSome?_eq_some flaw
      obtain ⟨symbol, held, outside⟩ := Option.bind_eq_some_iff.1 found
      split at outside
      · simp at outside
      · next missing =>
          rw [Option.some.injEq] at outside
          refine ⟨number, symbol, List.mem_range.1 member, held,
            Bool.eq_false_iff.2 missing, ?_⟩
          unfold checkValues
          rw [flaw, Error.guard, outside]

namespace Grid

/-- A solver reports what it rejects a grid for, whatever it was asked. -/
theorem Rejects.search_eq {error : Error} (rejects : grid.Rejects error)
    (solver : Solver) (watch : Watch) (wanted : Nat) :
    solver.search watch wanted grid = .error error := by
  cases rejects with
  | shapes conflicting =>
      unfold Solver.search
      rw [conflicting]
      rfl
  | values divided outside =>
      simp only [Solver.search, divided, Board.ofGrid, Layout.fits_of_ofGrid divided, outside,
        bind, Except.bind, if_true]
  | @rivals layout first second symbol divided checked conflicting held _ =>
      have failed := Layout.checkUnique_of_findConflict_eq_some conflicting held
      simp only [Solver.search, divided, Board.ofGrid, Layout.fits_of_ofGrid divided, checked,
        failed, bind, Except.bind, if_true]

/-- A solver can search a grid: it has a layout and a coherent board. -/
structure Loads (grid : Grid alphabet) (layout : Layout) : Prop where
  divided : Layout.ofGrid grid = .ok layout
  board : Board.ofGrid layout grid = .ok (.initial layout grid)
  coherent : Board.Coherent layout grid (.initial layout grid)

/-- A well-formed grid is valid and can be searched, or it is invalid and rejected. -/
theorem loads_or_rejects (wellFormed : grid.WellFormed) :
    (grid.Valid ∧ ∃ layout, grid.Loads layout) ∨
      (¬grid.Valid ∧ ∃ error, grid.Rejects error) := by
  rcases Layout.ofGrid_cases wellFormed with
    ⟨layout, divided, uniform⟩ | ⟨cell, inside, member, belongs, different, conflict⟩
  swap
  · have invalid : ¬grid.Valid := by
      intro valid
      exact different (valid.uniform cell inside member belongs)
    exact .inr ⟨invalid, _, .shapes conflict⟩
  have sound := Layout.sound_of_ofGrid divided
  have fits := Layout.fits_of_ofGrid divided
  rcases grid.checkValues_cases with checked | ⟨number, symbol, _, held, missing, outside⟩
  swap
  · have invalid : ¬grid.Valid := by
      intro valid
      have contained := valid.inDomain number symbol held
      rw [missing] at contained
      simp at contained
    exact .inr ⟨invalid, _, .values divided outside⟩
  rcases Layout.checkUnique_eq sound fits with
    ⟨respected, _, unique⟩ | ⟨first, second, symbol, member, _, held, heldToo, conflict, _⟩
  · exact .inl ⟨⟨uniform, (Board.checkValues_eq_ok_iff grid wellFormed).1 checked,
      (Layout.respected_iff wellFormed divided grid).1 respected⟩, layout, divided,
      Board.ofGrid_eq_ok_iff.2 ⟨fits, checked, unique, rfl⟩,
      Board.coherent_initial sound wellFormed fits checked respected⟩
  · have value : grid.value (layout.positionOf first) = .ok (some symbol) := by
      rw [Layout.value_positionOf fits (sound.lt_of_mem member), held]
    have otherValue : grid.value (layout.positionOf second) = .ok (some symbol) := by
      rw [Layout.value_positionOf fits (sound.lt_cellCount first second member), heldToo]
    have invalid : ¬grid.Valid := by
      intro valid
      have rivals := (Layout.mem_peersOf_iff wellFormed divided first second).1 member
      exact valid.distinct first second rivals symbol held heldToo
    exact .inr ⟨invalid, _, .rivals divided checked conflict value otherValue⟩

/-- The completions of the board of a grid are those of the grid. -/
theorem Loads.completes_iff (loads : grid.Loads layout) :
    Board.Completes solution (.initial layout grid) ↔ grid.IsCompletion solution :=
  fills_congr (Layout.mem_peersOf_iff loads.coherent.wellFormed loads.divided)

end Grid
end Sudoku
