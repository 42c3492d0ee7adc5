import Sudoku.Grid.Code
import Sudoku.Message.Decoding
import Sudoku.Proofs.Grid.Frame

/-!
# Where grids come from

Grids without values, grids read from a code and grids decoded from a message are
built from rows. Which values a built grid holds is open: every grid that has its
frame can be had from it by writing values.
-/

namespace Sudoku

variable {alphabet : Alphabet}

namespace Grid

variable {grid next other : Grid alphabet}

/-! ### Reading -/

/-- A grid without values is built. -/
theorem built_blank {height width : Nat} {box : BoxShape}
    (made : blank height width box = .ok grid) : grid.Built :=
  .ofRows made

/-- A grid that was read from a code is built. -/
theorem built_of_ofCode {code : String} (read : ofCode code = .ok grid) : grid.Built := by
  unfold ofCode readCode at read
  split at read
  · next shape entries _ =>
      cases shapes : BoxShape.ofCode? (Text.trim shape) with
      | none => simp [shapes] at read
      | some box =>
          cases sides : side? (Text.pieces ',' entries).length with
          | none => simp [shapes, sides] at read
          | some size =>
              simp only [shapes, sides, Error.bind_eq_ok_iff] at read
              obtain ⟨cells, _, checked, made, _, _, same⟩ := read
              rw [← Except.ok.inj same]
              exact .ofRows made
  · simp at read

/-! ### Writing -/

/-- A grid is still built after a symbol was written. -/
theorem Built.commit (built : grid.Built) {position : Position} {symbol : Symbol alphabet}
    (written : grid.commit position symbol = .ok next) : next.Built :=
  built.setValue written

/-- A grid is still built after a cell was emptied. -/
theorem Built.clear (built : grid.Built) {position : Position}
    (written : grid.clear position = .ok next) : next.Built :=
  built.setValue written

/-- A built grid is still built with the value of a cell replaced. -/
theorem Built.setValueAt (built : grid.Built) {number : Nat}
    (inside : number < grid.cellCount) (value : Option (Symbol alphabet)) :
    (grid.setValueAt number value).Built := by
  have written : grid.setValue (.ofNumber grid.width number) value =
      .ok (grid.setValueAt number value) := by
    unfold Grid.setValue
    rw [if_pos (contains_ofNumber inside), Position.number_ofNumber]
  exact built.setValue written

/-- Of a built grid, any values can be written into the first cells. -/
private theorem Built.exists_written (built : grid.Built)
    (values : Nat → Option (Symbol alphabet)) {count : Nat} (bound : count ≤ grid.cellCount) :
    ∃ written : Grid alphabet, written.Built ∧ written.frame = grid.frame ∧
      ∀ number < count, written.valueAt number = values number := by
  induction count with
  | zero => exact ⟨grid, built, rfl, by simp⟩
  | succ count inductionHypothesis =>
      obtain ⟨written, writtenBuilt, frames, same⟩ := inductionHypothesis (by omega)
      have inside : count < written.cellCount := by
        rw [cellCount_eq_of_frame_eq frames]
        exact bound
      refine ⟨written.setValueAt count (values count), writtenBuilt.setValueAt inside _, ?_, ?_⟩
      · rw [frame_setValueAt, frames]
      · intro number before
        rw [valueAt_setValueAt, writtenBuilt.wellFormed.cells_size]
        split
        · next here => rw [here.1]
        · next elsewhere =>
            apply same
            omega

/-- Every grid that has the frame of a built grid is built. -/
theorem Built.of_frame_eq (built : grid.Built) (frames : other.frame = grid.frame) :
    other.Built := by
  obtain ⟨written, writtenBuilt, writtenFrames, same⟩ :=
    built.exists_written other.valueAt (Nat.le_refl _)
  have equal : written = other := by
    apply eq_of_frame_eq (writtenFrames.trans frames.symm)
    intro number
    by_cases inside : number < grid.cellCount
    · exact same number inside
    · have outside : written.cells.size ≤ number := by
        rw [writtenBuilt.wellFormed.cells_size, cellCount_eq_of_frame_eq writtenFrames]
        exact Nat.le_of_not_lt inside
      have outsideToo : other.cells.size ≤ number := by
        rwa [← cells_size_eq_of_frame_eq (writtenFrames.trans frames.symm)]
      rw [valueAt_eq_none_of_le outside, valueAt_eq_none_of_le outsideToo]
  rw [← equal]
  exact writtenBuilt

end Grid

/-! ### Decoding -/

/-- A grid that was decoded from a message is built. -/
theorem GridMessage.built_of_decode {message : GridMessage} {grid : Grid alphabet}
    (decoded : message.decode = .ok grid) : grid.Built := by
  unfold decode at decoded
  simp only [Error.bind_eq_ok_iff] at decoded
  obtain ⟨_, _, _, _, _, _, rows, _, building⟩ := decoded
  split at building
  · simp only [Error.bind_eq_ok_iff] at building
    obtain ⟨made, fromRows, _, _, same⟩ := building
    rw [← Except.ok.inj same]
    exact .ofRows fromRows
  · simp only [Error.bind_eq_ok_iff] at building
    obtain ⟨domain, _, made, fromRows, _, _, same⟩ := building
    rw [← Except.ok.inj same]
    exact .ofRowsOver fromRows

end Sudoku
