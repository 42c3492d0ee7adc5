import Sudoku.Proofs.Board.Coherence
import Sudoku.Proofs.Domain.Existence
import Sudoku.Proofs.Grid.Completion
import Sudoku.Proofs.Grid.Override
import Sudoku.Proofs.Grid.Rows
import Sudoku.Proofs.Text.Decimal
import Sudoku.Proofs.Text.Pieces

/-!
# Reading grid codes back

A code tells a box shape and, cell by cell, a value and a whole box shape. It does not
tell the dimensions of a grid that is not square, a domain that was named, or which one
of the two dimensions of a box a cell overrides. Everything else about a grid is read
back from its code, and every grid that is read from some text is of this kind.
-/

namespace Sudoku

variable {alphabet : Alphabet}

/-! ### Box shapes -/

namespace BoxShape

/-- A box shape is written in digits with one letter between them. -/
theorem isDigit_of_mem_code {shape : BoxShape} {character : Char}
    (member : character ∈ shape.code) : character.isDigit = true ∨ character = 'x' := by
  rcases List.mem_append.1 member with inWidth | behind
  · exact .inl (Text.Decimal.isDigit_of_mem_ofNat inWidth)
  · rcases List.mem_cons.1 behind with letter | inHeight
    · exact .inr letter
    · exact .inl (Text.Decimal.isDigit_of_mem_ofNat inHeight)

/-- There is nothing to trim around a written box shape. -/
@[simp] theorem trim_code (shape : BoxShape) : Text.trim shape.code = shape.code := by
  apply Text.trim_eq_self
  intro character member
  rcases isDigit_of_mem_code member with digit | rfl
  · exact Text.isBlank_of_isDigit digit
  · decide

/-- A box shape that tiles a grid whose dimensions can be read is read back from its
text. -/
theorem Tiles.ofCode?_code {shape : BoxShape} {height width : Nat}
    (tiles : shape.Tiles height width) (heightPositive : 0 < height)
    (widthPositive : 0 < width) (heightBound : height ≤ Text.Decimal.greatestNat)
    (widthBound : width ≤ Text.Decimal.greatestNat) : ofCode? shape.code = some shape := by
  have trimmed (value : Nat) : Text.trim (Text.Decimal.ofNat value) = Text.Decimal.ofNat value :=
    Text.trim_eq_self fun _ member =>
      Text.isBlank_of_isDigit (Text.Decimal.isDigit_of_mem_ofNat member)
  have free (value : Nat) : 'x' ∉ Text.Decimal.ofNat value := fun member =>
    absurd (Text.Decimal.isDigit_of_mem_ofNat member) (by decide)
  have width : Text.Decimal.readNat (Text.Decimal.ofNat shape.width) = .ok shape.width :=
    Text.Decimal.readNat_ofNat
      (Nat.le_trans (Nat.le_of_dvd widthPositive tiles.width_dvd) widthBound)
  have height : Text.Decimal.readNat (Text.Decimal.ofNat shape.height) = .ok shape.height :=
    Text.Decimal.readNat_ofNat
      (Nat.le_trans (Nat.le_of_dvd heightPositive tiles.height_dvd) heightBound)
  unfold ofCode? code
  rw [Text.pieces_append (free shape.width), Text.pieces_of_not_mem (free shape.height)]
  simp only [trimmed, width, height]

end BoxShape

namespace Grid

variable {grid : Grid alphabet}

/-! ### Entries -/

/-- An entry is written in digits, minus signs and the marks of a box shape. -/
theorem isDigit_of_mem_entryCode {cell : Cell alphabet} {character : Char}
    (member : character ∈ grid.entryCode cell) :
    character.isDigit = true ∨ character ∈ ['-', '@', 'x'] := by
  unfold entryCode at member
  rcases List.mem_append.1 member with inValue | inShape
  · cases held : cell.value with
    | none => simp [held] at inValue
    | some symbol =>
        rw [held] at inValue
        exact (Text.Decimal.isDigit_of_mem_ofInt inValue).imp_right (by rintro rfl; decide)
  · split at inShape
    · rcases List.mem_cons.1 inShape with rfl | inShape
      · exact .inr (by decide)
      · exact (BoxShape.isDigit_of_mem_code inShape).imp_right (by rintro rfl; decide)
    · simp at inShape

/-- The value of a cell is read back from its text. -/
theorem readValue_code (location : Location) (value : Option (Symbol alphabet)) :
    readValue location (value.elim [] fun symbol => Text.Decimal.ofInt symbol.value) =
      .ok value := by
  cases value with
  | none => rfl
  | some symbol =>
      have least := Int.le_trans alphabet.le_least symbol.least_le
      have greatest := Int.lt_of_le_of_lt symbol.le_greatest alphabet.greatest_lt
      have read : Text.Decimal.readInt (Text.Decimal.ofInt symbol.value) = .ok symbol.value :=
        Text.Decimal.readInt_ofInt least (by unfold Text.Decimal.greatestInt; omega)
      have written : Text.Decimal.ofInt symbol.value ≠ [] :=
        Text.Decimal.ofInt_ne_nil symbol.value
      unfold readValue
      simp only [Option.elim_some, List.isEmpty_iff, if_neg written, read, Symbol.ofInt?_value]

/-- The cell is read back from its entry, with its override made whole. -/
theorem readEntry_entryCode (location : Location) {cell : Cell alphabet}
    (readable : BoxShape.ofCode? (grid.shapeOf cell).code = some (grid.shapeOf cell)) :
    readEntry location (grid.entryCode cell) = .ok (grid.wholeCell cell) := by
  have signs : ∀ character ∈ cell.value.elim [] fun symbol => Text.Decimal.ofInt symbol.value,
      character.isDigit = true ∨ character = '-' := by
    cases cell.value with
    | none => simp
    | some symbol => exact fun _ member => Text.Decimal.isDigit_of_mem_ofInt member
  have value := readValue_code location cell.value
  have trimmed := Text.trim_eq_self fun character member => by
    rcases signs character member with digit | rfl
    · exact Text.isBlank_of_isDigit digit
    · decide
  have free : ∀ character ∈ cell.value.elim [] fun symbol => Text.Decimal.ofInt symbol.value,
      (character != '@') = true := by
    intro character member
    rcases signs character member with digit | rfl
    · rw [bne_iff_ne]
      rintro rfl
      exact absurd digit (by decide)
    · decide
  unfold readEntry entryCode wholeCell
  rw [List.takeWhile_append_of_pos free, List.dropWhile_append_of_pos free]
  split
  · next overrides =>
      simp [trimmed, value, readable, bind, Except.bind, Cell.withBoxShape,
        Cell.withBoxWidth, Cell.withBoxHeight]
  · next plain =>
      simp only [Cell.hasOverride, Bool.or_eq_true, not_or, Bool.not_eq_true,
        Option.isSome_eq_false_iff, Option.isNone_iff_eq_none] at plain
      obtain ⟨held, width, height⟩ := cell
      obtain ⟨rfl, rfl⟩ := plain
      simp [trimmed, value, bind, Except.bind]

/-- The cells are read back from their entries. -/
theorem readEntries_map_entryCode (size number : Nat) {cells : List (Cell alphabet)}
    (readable : ∀ cell ∈ cells,
      BoxShape.ofCode? (grid.shapeOf cell).code = some (grid.shapeOf cell)) :
    readEntries size number (cells.map grid.entryCode) = .ok (cells.map grid.wholeCell) := by
  induction cells generalizing number with
  | nil => rfl
  | cons cell rest inductionHypothesis =>
      have restRead := inductionHypothesis (number + 1) fun other member =>
        readable other (List.mem_cons_of_mem cell member)
      rw [List.map_cons, readEntries, readEntry_entryCode _ (readable cell List.mem_cons_self),
        restRead]
      rfl

/-- Entries that are read give one whole cell each. -/
theorem length_eq_and_isWhole_of_readEntries {size number : Nat} {entries : List (List Char)}
    {cells : List (Cell alphabet)} (read : readEntries size number entries = .ok cells) :
    cells.length = entries.length ∧ ∀ cell ∈ cells, cell.IsWhole := by
  induction entries generalizing number cells with
  | nil =>
      rw [← Except.ok.inj read]
      simp
  | cons entry rest inductionHypothesis =>
      simp only [readEntries, Error.bind_eq_ok_iff, Except.ok.injEq] at read
      obtain ⟨cell, cellRead, others, othersRead, rfl⟩ := read
      obtain ⟨lengths, othersWhole⟩ := inductionHypothesis othersRead
      refine ⟨by simp [lengths], List.forall_mem_cons.2 ⟨?_, othersWhole⟩⟩
      simp only [readEntry, Error.bind_eq_ok_iff] at cellRead
      obtain ⟨value, _, made⟩ := cellRead
      split at made
      · rw [← Except.ok.inj made]
        rfl
      · split at made
        · rw [← Except.ok.inj made]
          rfl
        · simp at made

/-! ### Squares -/

/-- A square of that many cells has the given side. -/
theorem side?_eq_some_iff (count side : Nat) : side? count = some side ↔ side * side = count := by
  unfold side?
  rw [List.find?_range_eq_some, beq_iff_eq, List.mem_range]
  constructor
  · exact fun found => found.1
  · rintro rfl
    refine ⟨rfl, Nat.lt_succ_of_le (Nat.le_mul_self side), ?_⟩
    intro shorter before
    have smaller := Nat.mul_self_lt_mul_self before
    simpa using Nat.ne_of_lt smaller

/-- The cells of a square grid are cut into its rows. -/
theorem squareRows_cells (grid : Grid alphabet) (square : grid.height = grid.width)
    (sizes : grid.cells.size = grid.cellCount) :
    squareRows grid.height grid.cells.toList = grid.rows := by
  unfold squareRows rows
  apply List.map_congr_left
  intro row member
  have inside := Nat.mul_le_mul_right grid.height (List.mem_range.1 member)
  unfold cellCount at sizes
  rw [← square] at sizes ⊢
  rw [Nat.succ_mul] at inside
  apply List.ext_getElem
  · simp
    omega
  · intro column columnInside _
    simp only [List.length_take, List.length_drop, Array.length_toList] at columnInside
    have here : row * grid.height + column < grid.cells.size := by omega
    simp [cellAt, Position.number, here]

/-- The first row of a square is as long as the square is high. -/
theorem length_headD_squareRows {size : Nat} {cells : List (Cell alphabet)}
    (count : cells.length = size * size) :
    ((squareRows size cells).headD []).length = size := by
  cases size with
  | zero => rfl
  | succ others =>
      have enough : others + 1 ≤ cells.length := by
        rw [count]
        exact Nat.le_mul_self _
      simp [squareRows, List.range_succ_eq_map, Nat.min_eq_left enough]

/-- Every cell of the rows of a square comes from its cells. -/
theorem mem_of_mem_squareRows {size : Nat} {cells row : List (Cell alphabet)}
    {cell : Cell alphabet} (rowMember : row ∈ squareRows size cells) (member : cell ∈ row) :
    cell ∈ cells := by
  obtain ⟨number, _, rfl⟩ := List.mem_map.1 rowMember
  exact List.mem_of_mem_drop (List.mem_of_mem_take member)

/-! ### Grids -/

/-- A grid whose dimensions and domain its code tells: a square over the default domain
that holds no value from elsewhere. -/
structure IsCodable (grid : Grid alphabet) : Prop where
  square : grid.height = grid.width
  unnamed : grid.explicitDomain = false
  inDomain : ∀ cell symbol, grid.valueAt cell = some symbol →
    grid.domain.contains symbol = true

/-- The code of a grid has one separator between the box shape and the entries, and one
between any two entries. -/
theorem pieces_code (wellFormed : grid.WellFormed) :
    Text.pieces ';' grid.code.toList = [grid.box.code, Text.join ',' grid.entryCodes] ∧
      Text.pieces ',' (Text.join ',' grid.entryCodes) = grid.entryCodes := by
  have marks {entry : List Char} {character : Char} (isEntry : entry ∈ grid.entryCodes)
      (member : character ∈ entry) :
      character.isDigit = true ∨ character ∈ ['-', '@', 'x'] := by
    obtain ⟨number, _, rfl⟩ := List.mem_map.1 isEntry
    exact isDigit_of_mem_entryCode member
  have shapeFree : ';' ∉ grid.box.code := fun member => by
    rcases BoxShape.isDigit_of_mem_code member with digit | letter
    · exact absurd digit (by decide)
    · exact absurd letter (by decide)
  have entriesFree : ';' ∉ Text.join ',' grid.entryCodes := fun member => by
    rcases Text.mem_join member with comma | ⟨entry, isEntry, member⟩
    · exact absurd comma (by decide)
    · exact absurd (marks isEntry member) (by decide)
  have nonempty : grid.entryCodes ≠ [] := by
    have cells := Nat.mul_pos wellFormed.height_pos wellFormed.width_pos
    rw [← List.length_pos_iff]
    simpa [entryCodes, cellCount] using cells
  constructor
  · rw [code, String.toList_ofList, Text.pieces_append shapeFree,
      Text.pieces_of_not_mem entriesFree]
  · exact Text.pieces_join nonempty fun entry isEntry member =>
      absurd (marks isEntry member) (by decide)

/-- The entries of a grid are those of its cells. -/
theorem entryCodes_eq_map (sizes : grid.cells.size = grid.cellCount) :
    grid.entryCodes = grid.cells.toList.map grid.entryCode := by
  unfold entryCodes
  rw [← sizes]
  apply List.ext_getElem <;> simp +contextual [cellAt]

/-- Making overrides whole leaves the code as it is. -/
theorem code_whole (grid : Grid alphabet) : grid.whole.code = grid.code := by
  have entry (number : Nat) : grid.whole.entryCode (grid.whole.cellAt number) =
      grid.entryCode (grid.cellAt number) := by
    have shape := grid.shapeAt_whole number
    unfold shapeAt at shape
    unfold entryCode
    rw [shape, cellAt_whole, value_wholeCell, hasOverride_wholeCell]
  unfold code entryCodes
  simp only [entry]
  rfl

/-- A grid over the default domain is so low that its height can be read. -/
theorem Built.height_le_greatestNat (built : grid.Built)
    (unnamed : grid.explicitDomain = false) : grid.height ≤ Text.Decimal.greatestNat := by
  obtain ⟨_, bound⟩ := (Domain.exists_default_iff built.wellFormed.height_pos).1
    ⟨_, built.default_domain unnamed⟩
  have greatest := alphabet.greatest_lt
  unfold Text.Decimal.greatestNat
  omega

/-- A grid whose dimensions and domain its code tells is read back from it, with every
override made whole. -/
theorem IsCodable.ofCode_code (codable : grid.IsCodable) (built : grid.Built) :
    ofCode grid.code = .ok grid.whole := by
  have wellFormed := built.wellFormed
  have bound := built.height_le_greatestNat codable.unnamed
  have shapeRead (number : Nat) :
      BoxShape.ofCode? (grid.shapeAt number).code = some (grid.shapeAt number) :=
    (wellFormed.tiles number).ofCode?_code wellFormed.height_pos wellFormed.width_pos bound
      (by rwa [← codable.square])
  have boxRead : BoxShape.ofCode? grid.box.code = some grid.box := by
    -- Beyond the last cell nothing is overridden, and the shape is the default one.
    have read := shapeRead grid.cells.size
    simpa [shapeAt, shapeOf, cellAt] using read
  have cellsRead : readEntries grid.height 0 grid.entryCodes =
      .ok (grid.whole.cells.toList : List (Cell alphabet)) := by
    rw [entryCodes_eq_map wellFormed.cells_size, readEntries_map_entryCode, whole,
      Array.toList_map]
    intro cell member
    obtain ⟨number, inside, rfl⟩ := List.getElem_of_mem member
    have read := shapeRead number
    rw [Array.length_toList] at inside
    simpa [shapeAt, cellAt, inside] using read
  have side : side? grid.entryCodes.length = some grid.height := by
    rw [side?_eq_some_iff]
    simp [entryCodes, cellCount, codable.square]
  have rowsBuilt : ofRows (squareRows grid.height grid.whole.cells.toList) grid.box =
      .ok grid.whole := by
    have rows : squareRows grid.height grid.whole.cells.toList = grid.whole.rows :=
      squareRows_cells grid.whole codable.square wellFormed.whole.cells_size
    have domain : Domain.default grid.whole.height = .ok grid.whole.domain :=
      built.default_domain codable.unnamed
    have unnamed : grid.whole.explicitDomain = false := codable.unnamed
    have made := build_rows wellFormed.whole
    rw [unnamed, ← domain] at made
    unfold ofRows
    rwa [rows, length_rows]
  have checked : grid.whole.checkValues = .ok () := by
    rw [Board.checkValues_eq_ok_iff _ wellFormed.whole]
    intro cell symbol held
    rw [valueAt_whole] at held
    exact codable.inDomain cell symbol held
  obtain ⟨halves, entries⟩ := pieces_code wellFormed
  unfold ofCode readCode
  rw [halves]
  simp only [BoxShape.trim_code, boxRead, entries, side]
  rw [cellsRead]
  simp only [bind, Except.bind, rowsBuilt, checked]

/-- Every grid that is read from a text is one whose code tells everything about it. -/
theorem isCodable_and_isWhole_of_ofCode {text : String} (read : ofCode text = .ok grid) :
    grid.IsCodable ∧ grid.IsWhole := by
  have wellFormed := (built_of_ofCode read).wellFormed
  unfold ofCode readCode at read
  split at read
  · next shape entries _ =>
      cases shapes : BoxShape.ofCode? (Text.trim shape) with
      | none => simp [shapes] at read
      | some box =>
          cases sides : side? (Text.pieces ',' entries).length with
          | none => simp [shapes, sides] at read
          | some size =>
              simp only [shapes, sides, Error.bind_eq_ok_iff, Except.ok.injEq] at read
              obtain ⟨cells, cellsRead, made, rowsBuilt, _, checked, rfl⟩ := read
              obtain ⟨lengths, cellsWhole⟩ := length_eq_and_isWhole_of_readEntries cellsRead
              obtain ⟨_, heights, widths, cellsOf, _, _, unnamed⟩ := build_eq_ok_iff.1 rowsBuilt
              have square := (side?_eq_some_iff _ _).1 sides
              have square : made.height = made.width := by
                rw [heights, widths, length_headD_squareRows (lengths.trans square.symm)]
                simp [squareRows]
              refine ⟨⟨square, unnamed, (Board.checkValues_eq_ok_iff made wellFormed).1 checked⟩,
                ?_⟩
              intro number inside
              rw [← wellFormed.cells_size] at inside
              have isCell : made.cellAt number ∈ made.cells.toList := by
                simp [cellAt, inside]
              rw [cellsOf] at isCell
              obtain ⟨row, rowMember, member⟩ := List.mem_flatten.1 isCell
              exact cellsWhole _ (mem_of_mem_squareRows rowMember member)
  · simp at read

/-! ### Round trips -/

/-- A built grid is read back from its code exactly when it is a square over the default
domain with values of that domain and whole overrides. When overrides alone are missing
a part, the grid is read with them made whole and has the same code. Every grid that is
read from some text is read back from its code. -/
theorem code_roundTrip :
    (∀ grid : Grid alphabet, grid.Built →
      (ofCode grid.code = .ok grid ↔ grid.IsCodable ∧ grid.IsWhole) ∧
      (grid.IsCodable → ofCode grid.code = .ok grid.whole ∧ grid.whole.code = grid.code)) ∧
    ∀ (text : String) (grid : Grid alphabet), ofCode text = .ok grid →
      grid.IsCodable ∧ grid.IsWhole ∧ ofCode grid.code = .ok grid := by
  have readBack {grid : Grid alphabet} (built : grid.Built) (codable : grid.IsCodable)
      (isWhole : grid.IsWhole) : ofCode grid.code = .ok grid := by
    have read := codable.ofCode_code built
    rwa [whole_eq_self built.wellFormed isWhole] at read
  refine ⟨fun grid built => ⟨⟨?_, ?_⟩, fun codable => ?_⟩, fun text grid read => ?_⟩
  · exact isCodable_and_isWhole_of_ofCode
  · rintro ⟨codable, isWhole⟩
    exact readBack built codable isWhole
  · exact ⟨codable.ofCode_code built, grid.code_whole⟩
  · obtain ⟨codable, isWhole⟩ := isCodable_and_isWhole_of_ofCode read
    exact ⟨codable, isWhole, readBack (built_of_ofCode read) codable isWhole⟩

/-- Four square boxes over the default domain, with a value in the first cell, which overrides
the width of its box alone. -/
def partialSquare : Grid .unsigned8 where
  height := 4
  width := 4
  cells := ({ value := some one, boxWidth := some 1 } :: List.replicate 15 {}).toArray
  box := ⟨2, 2⟩
  domain := oneToFour
  explicitDomain := false

/-- The default domain of four rows has four symbols. -/
theorem default_domain_partialSquare : Domain.default 4 = .ok partialSquare.domain := by
  have numbered : Symbol.upTo? 4 = some [one, two, three, four] := by decide
  unfold Domain.default
  rw [numbered]
  exact (Domain.ofList_eq_ok_iff _ _).2 rfl

/-- The square is not read back from its code, but the one with the whole override is. -/
theorem code_roundTrip_partialSquare :
    partialSquare.Built ∧ partialSquare.IsCodable ∧ ¬ partialSquare.IsWhole ∧
      partialSquare.code = "2x2;1@1x2,,,,,,,,,,,,,,," ∧
      ofCode partialSquare.code ≠ .ok partialSquare ∧
      ofCode partialSquare.code = .ok partialSquare.whole ∧
      partialSquare.whole.code = partialSquare.code ∧
      ofCode partialSquare.whole.code = .ok partialSquare.whole := by
  have built : partialSquare.Built := .ofRows (build_eq_ok_iff.2
    (⟨by decide +kernel, rfl, rfl, rfl, rfl, default_domain_partialSquare, rfl⟩ :
      flaw? partialSquare.rows partialSquare.box = none ∧ _))
  have codable : partialSquare.IsCodable := {
    square := rfl
    unnamed := rfl
    inDomain := (forall_valueAt_iff partialSquare fun _ symbol =>
      partialSquare.domain.contains symbol = true).2 (by decide +kernel) }
  have notWhole : ¬ partialSquare.IsWhole := fun isWhole => by
    have first : true = false := isWhole 0 (by decide)
    exact absurd first (by decide)
  obtain ⟨reads, readsWhole⟩ := code_roundTrip.1 partialSquare built
  obtain ⟨read, sameCode⟩ := readsWhole codable
  obtain ⟨_, _, readAgain⟩ := code_roundTrip.2 _ partialSquare.whole read
  exact ⟨built, codable, notWhole, by decide +kernel, fun same => notWhole (reads.1 same).2,
    read, sameCode, readAgain⟩

end Grid
end Sudoku
