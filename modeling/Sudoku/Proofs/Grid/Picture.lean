import Mathlib.Order.Bounds.Basic
import Sudoku.Proofs.Board.Coherence
import Sudoku.Proofs.Domain.Existence
import Sudoku.Proofs.Layout.Edge
import Sudoku.Proofs.Text.Decimal
import Sudoku.Proofs.Text.Frame
import Sudoku.Proofs.Text.Pieces

/-!
# What a picture shows

A line of a picture is a frame of the segments of its columns, and a picture is a frame of
the contents of its rows. All segments are equally long, because no value of the grid is
longer than the longest of its domain, so that every separator and every segment is found at
a multiple of one length. Thick separators stand between cells of different boxes, because
that is where boxes end.
-/

namespace Sudoku
namespace Grid

variable {alphabet : Alphabet} {grid : Grid alphabet} {layout : Layout}

/-! ### Widths -/

/-- The width of values is the length of the longest symbol of the domain. -/
theorem isGreatest_valueWidth (grid : Grid alphabet) :
    IsGreatest {length | ∃ symbol, grid.domain.contains symbol = true ∧
      symbol.text.length = length} grid.valueWidth := by
  have lengths {length : Nat} :
      length ∈ grid.domain.values.toList.map (fun symbol => symbol.text.length) ↔
        ∃ symbol, grid.domain.contains symbol = true ∧ symbol.text.length = length := by
    simp only [List.mem_map, Domain.contains_iff_mem_listed, grid.domain.perm.mem_iff]
  have folded : grid.valueWidth =
      (grid.domain.values.toList.map fun symbol => symbol.text.length).max?.getD 0 := by
    rw [valueWidth, ← Array.foldl_toList, ← List.foldl_map (g := max), List.foldl_max,
      Nat.zero_max]
  rw [folded]
  cases greatest : (grid.domain.values.toList.map fun symbol => symbol.text.length).max? with
  | none =>
      rw [List.max?_eq_none_iff, List.map_eq_nil_iff] at greatest
      have listed := grid.domain.perm
      rw [greatest] at listed
      exact absurd listed.nil_eq.symm grid.domain.nonempty
  | some length =>
      obtain ⟨attained, bound⟩ := List.max?_eq_some_iff.1 greatest
      exact ⟨lengths.1 attained, fun other isLength => bound other (lengths.2 isLength)⟩

/-- A horizontal line is as wide as a cell. -/
theorem length_bar (grid : Grid alphabet) (character : Char) :
    (grid.bar character).length = grid.valueWidth + 2 :=
  List.length_replicate

section

variable (inDomain : ∀ number symbol, grid.valueAt number = some symbol →
  grid.domain.contains symbol = true)

include inDomain

/-- The text of a cell is no wider than the values of the domain, and set flush right
between two blanks. -/
theorem exists_valueSegment_eq (number : Nat) :
    ∃ padding, padding + ((grid.valueAt number).elim "" Symbol.text).length = grid.valueWidth ∧
      grid.valueSegment number =
        ' ' :: List.replicate padding ' ' ++
          ((grid.valueAt number).elim "" Symbol.text).toList ++ [' '] := by
  have texts : ((grid.valueAt number).elim [] fun symbol => symbol.text.toList) =
      ((grid.valueAt number).elim "" Symbol.text).toList := by
    cases grid.valueAt number <;> rfl
  have narrow : ((grid.valueAt number).elim "" Symbol.text).length ≤ grid.valueWidth := by
    cases held : grid.valueAt number with
    | none => exact Nat.zero_le _
    | some symbol =>
        exact (isGreatest_valueWidth grid).2 ⟨symbol, inDomain number symbol held, rfl⟩
  refine ⟨_, Nat.sub_add_cancel narrow, ?_⟩
  simp only [valueSegment, flushRight, texts, String.length_toList, List.cons_append,
    List.append_assoc]

/-- The text of a cell between its blanks is as wide as a horizontal line over the cell. -/
theorem length_valueSegment (number : Nat) :
    (grid.valueSegment number).length = grid.valueWidth + 2 := by
  obtain ⟨padding, width, segment⟩ := exists_valueSegment_eq inDomain number
  rw [segment]
  simp only [List.cons_append, List.length_cons, List.length_append, List.length_replicate,
    List.length_nil, String.length_toList]
  omega

end

/-! ### Lines -/

/-- A picture is a frame of the contents of the rows. -/
theorem pictureLines_eq_framed (grid : Grid alphabet) :
    grid.pictureLines = Text.framed grid.height grid.topLine grid.bottomLine
      grid.separatorLine fun row => [grid.contentLine row] :=
  rfl

/-- What holds of the lines of each kind holds of all lines of a picture. -/
theorem forall_mem_pictureLines {holds : List Char → Prop} (top : holds grid.topLine)
    (bottom : holds grid.bottomLine) (separators : ∀ row, holds (grid.separatorLine row))
    (contents : ∀ row, holds (grid.contentLine row)) :
    ∀ line ∈ grid.pictureLines, holds line := by
  intro line member
  rcases Text.mem_framed member with rfl | rfl | ⟨row, rfl⟩ | ⟨row, inRow⟩
  · exact top
  · exact bottom
  · exact separators row
  · rw [List.mem_singleton.1 inRow]
    exact contents row

/-- All lines of a picture are equally long. -/
theorem length_of_mem_pictureLines (positive : 0 < grid.width)
    (inDomain : ∀ number symbol, grid.valueAt number = some symbol →
      grid.domain.contains symbol = true) :
    ∀ line ∈ grid.pictureLines,
      line.length = grid.width * (grid.valueWidth + 3) + 1 := by
  have framed {first last : Char} {separator : Nat → Char} {segment : Nat → List Char}
      (sizes : ∀ column, (segment column).length = grid.valueWidth + 2) :
      (grid.line first last separator segment).length =
        grid.width * (grid.valueWidth + 3) + 1 :=
    Text.length_framed _ _ _ positive sizes
  refine forall_mem_pictureLines ?_ ?_ ?_ ?_
  · exact framed fun _ => grid.length_bar _
  · exact framed fun _ => grid.length_bar _
  · exact fun _ => framed fun _ => grid.length_bar _
  · exact fun _ => framed fun _ => length_valueSegment inDomain _

/-! ### The text -/

/-- The text of a symbol is on one line. -/
theorem newline_not_mem_text (symbol : Symbol alphabet) : '\n' ∉ symbol.text.toList := by
  intro newline
  rw [Symbol.text, String.toList_ofList] at newline
  rcases Text.Decimal.isDigit_of_mem_ofInt newline with isDigit | isMinus
  · simp at isDigit
  · simp at isMinus

/-- The text of a cell is on one line. -/
theorem newline_not_mem_valueSegment (grid : Grid alphabet) (number : Nat) :
    '\n' ∉ grid.valueSegment number := by
  have text : '\n' ∉ (grid.valueAt number).elim [] fun symbol => symbol.text.toList := by
    cases grid.valueAt number with
    | none => exact List.not_mem_nil
    | some symbol => exact newline_not_mem_text symbol
  simp [valueSegment, flushRight, text]

/-- A line without line breaks in its parts has none. -/
theorem newline_not_mem_line {first last : Char} {separator : Nat → Char}
    {segment : Nat → List Char} (ends : first ≠ '\n' ∧ last ≠ '\n')
    (separators : ∀ column, separator column ≠ '\n')
    (segments : ∀ column, '\n' ∉ segment column) :
    '\n' ∉ grid.line first last separator segment := by
  intro newline
  rcases Text.mem_framed newline with isFirst | isLast | ⟨column, isSeparator⟩ | ⟨column, inside⟩
  · exact ends.1 isFirst.symm
  · exact ends.2 isLast.symm
  · exact separators column isSeparator.symm
  · exact segments column inside

/-- No line of a picture is broken. -/
theorem newline_not_mem_of_mem_pictureLines :
    ∀ line ∈ grid.pictureLines, '\n' ∉ line := by
  have bars {character : Char} (visible : character ≠ '\n') : '\n' ∉ grid.bar character :=
    fun newline => visible (List.eq_of_mem_replicate newline).symm
  refine forall_mem_pictureLines ?_ ?_ (fun row => ?_) fun row => ?_
  · refine newline_not_mem_line (by decide) (fun column => ?_) fun _ => bars (by decide)
    split <;> decide
  · refine newline_not_mem_line (by decide) (fun column => ?_) fun _ => bars (by decide)
    split <;> decide
  · refine newline_not_mem_line ⟨?_, ?_⟩ (fun column => ?_) fun column => bars ?_
    · split <;> decide
    · split <;> decide
    · unfold crossing
      split <;> decide
    · split <;> decide
  · refine newline_not_mem_line (by decide) (fun column => ?_) fun _ =>
      grid.newline_not_mem_valueSegment _
    split <;> decide

/-- The lines of a picture are found again in its text. -/
theorem pieces_picture (grid : Grid alphabet) :
    Text.pieces '\n' grid.picture.toList = grid.pictureLines := by
  have nonempty : grid.pictureLines ≠ [] := List.cons_ne_nil _ _
  have joined : grid.picture.toList = Text.join '\n' grid.pictureLines := by
    rw [picture, String.toList_intercalate, Text.join_eq_intercalate, List.map_map]
    simp
  rw [joined, Text.pieces_join nonempty newline_not_mem_of_mem_pictureLines]

/-- The content of a row is the line after that many pairs of lines and one more. -/
theorem getElem?_pictureLines_content {row : Nat} (inside : row < grid.height) :
    grid.pictureLines[2 * row + 1]? = some (grid.contentLine row) := by
  have sizes (row : Nat) : [grid.contentLine row].length = 1 := rfl
  have cut := Text.take_drop_framed grid.topLine grid.bottomLine grid.separatorLine
    (Nat.zero_lt_of_lt inside) sizes inside
  rw [← pictureLines_eq_framed, Nat.mul_comm] at cut
  have first := congrArg List.head? cut
  rwa [List.head?_take, if_neg Nat.one_ne_zero, List.head?_drop] at first

/-- The line below a row follows the content of the row. -/
theorem getElem?_pictureLines_separator {row : Nat} (inside : row + 1 < grid.height) :
    grid.pictureLines[2 * row + 2]? = some (grid.separatorLine row) := by
  have sizes (row : Nat) : [grid.contentLine row].length = 1 := rfl
  have block := Text.getElem?_framed grid.topLine grid.bottomLine grid.separatorLine
    (Nat.zero_lt_of_lt inside) sizes inside
  rw [← pictureLines_eq_framed, Nat.mul_comm] at block
  exact block

/-! ### Boxes and values -/

/-- The characters of a line over a column. -/
def segmentAt (grid : Grid alphabet) (characters : List Char) (column : Nat) : List Char :=
  (characters.drop (column * (grid.valueWidth + 3) + 1)).take (grid.valueWidth + 2)

/-- The character of a line before a column. -/
def separatorAt? (grid : Grid alphabet) (characters : List Char) (column : Nat) :
    Option Char :=
  characters[column * (grid.valueWidth + 3)]?

/-- A line shows the values of a row flush right in their columns, with thick separators
between cells of different boxes. -/
structure ShowsRow (grid : Grid alphabet) (layout : Layout) (row : Nat) (line : List Char) :
    Prop where
  separators : ∀ column, column + 1 < grid.width → ∃ left right,
    layout.boxAt ⟨row, column⟩ = .ok left ∧ layout.boxAt ⟨row, column + 1⟩ = .ok right ∧
      grid.separatorAt? line (column + 1) = some (if left = right then '│' else '║')
  values : ∀ column < grid.width, ∃ value padding,
    grid.value ⟨row, column⟩ = .ok value ∧
      padding + (value.elim "" Symbol.text).length = grid.valueWidth ∧
      grid.segmentAt line column =
        ' ' :: List.replicate padding ' ' ++ (value.elim "" Symbol.text).toList ++ [' ']

/-- A line is thick between a row and the next where their cells are of different boxes. -/
def ShowsBorder (grid : Grid alphabet) (layout : Layout) (row : Nat) (line : List Char) :
    Prop :=
  ∀ column < grid.width, ∃ above below,
    layout.boxAt ⟨row, column⟩ = .ok above ∧ layout.boxAt ⟨row + 1, column⟩ = .ok below ∧
      grid.segmentAt line column =
        List.replicate (grid.valueWidth + 2) (if above = below then '─' else '═')

section

variable {column : Nat} {first last : Char} {separator : Nat → Char}
  {segment : Nat → List Char}
  (sizes : ∀ column, (segment column).length = grid.valueWidth + 2)

include sizes

/-- The characters of a line over a column are the segment of the column. -/
theorem segmentAt_line (inside : column < grid.width) :
    grid.segmentAt (grid.line first last separator segment) column = segment column :=
  Text.take_drop_framed _ _ _ (Nat.zero_lt_of_lt inside) sizes inside

/-- The character of a line before a column is the separator after the column before. -/
theorem separatorAt?_line (inside : column + 1 < grid.width) :
    grid.separatorAt? (grid.line first last separator segment) (column + 1) =
      some (separator column) :=
  Text.getElem?_framed _ _ _ (Nat.zero_lt_of_lt inside) sizes inside

end

section

variable (wellFormed : grid.WellFormed) (found : Layout.ofGrid grid = .ok layout)

include wellFormed found

/-- The content of a row shows its values and the boxes of its cells. -/
theorem showsRow_contentLine
    (inDomain : ∀ number symbol, grid.valueAt number = some symbol →
      grid.domain.contains symbol = true) {row : Nat} (inside : row < grid.height) :
    grid.ShowsRow layout row (grid.contentLine row) := by
  have sizes := fun column =>
    length_valueSegment inDomain (Position.number grid.width ⟨row, column⟩)
  refine ⟨fun column columnInside => ?_, fun column columnInside => ?_⟩
  · obtain ⟨left, right, leftFound, rightFound, ends⟩ :=
      Layout.endsBoxRow_iff wellFormed found inside columnInside
    refine ⟨left, right, leftFound, rightFound, ?_⟩
    rw [contentLine, separatorAt?_line sizes columnInside]
    by_cases same : left = right <;> simp [ends, same]
  · obtain ⟨padding, width, shown⟩ :=
      exists_valueSegment_eq inDomain (Position.number grid.width ⟨row, column⟩)
    have contained : grid.contains ⟨row, column⟩ = true := by
      simp [contains, inside, columnInside]
    have held : grid.value ⟨row, column⟩ =
        .ok (grid.valueAt (Position.number grid.width ⟨row, column⟩)) := by
      rw [value, cell, if_pos contained]
      rfl
    refine ⟨_, padding, held, width, ?_⟩
    rw [contentLine, segmentAt_line sizes columnInside, shown]

/-- The line below a row shows the boxes of the cells above and below it. -/
theorem showsBorder_separatorLine {row : Nat} (inside : row + 1 < grid.height) :
    grid.ShowsBorder layout row (grid.separatorLine row) := by
  intro column columnInside
  obtain ⟨above, below, aboveFound, belowFound, ends⟩ :=
    Layout.endsBoxColumn_iff wellFormed found inside columnInside
  refine ⟨above, below, aboveFound, belowFound, ?_⟩
  rw [separatorLine, segmentAt_line (fun _ => grid.length_bar _) columnInside, bar]
  by_cases same : above = below <;> simp [ends, same]

end

/-- The picture of a grid with a layout and with values of its domain has two lines for each
row and one more, all of the same length. The values stand flush right in columns as wide as
the longest value of the domain. The lines between cells are thick exactly where the cells
belong to different boxes. -/
theorem picture_exact (built : grid.Built)
    (inDomain : ∀ number symbol, grid.valueAt number = some symbol →
      grid.domain.contains symbol = true)
    (found : Layout.ofGrid grid = .ok layout) :
    IsGreatest {length | ∃ symbol, grid.domain.contains symbol = true ∧
      symbol.text.length = length} grid.valueWidth ∧
    ∃ lines, Text.pieces '\n' grid.picture.toList = lines ∧
      lines.length = 2 * grid.height + 1 ∧
      (∀ line ∈ lines, line.length = grid.width * (grid.valueWidth + 3) + 1) ∧
      (∀ row < grid.height, ∃ line, lines[2 * row + 1]? = some line ∧
        grid.ShowsRow layout row line) ∧
      ∀ row, row + 1 < grid.height → ∃ line, lines[2 * row + 2]? = some line ∧
        grid.ShowsBorder layout row line := by
  have wellFormed := built.wellFormed
  refine ⟨grid.isGreatest_valueWidth, _, grid.pieces_picture, ?_,
    length_of_mem_pictureLines wellFormed.width_pos inDomain, fun row inside => ?_,
    fun row inside => ?_⟩
  · rw [pictureLines_eq_framed,
      Text.length_framed _ _ _ wellFormed.height_pos (fun _ => List.length_singleton),
      Nat.mul_comm]
  · exact ⟨_, getElem?_pictureLines_content inside,
      showsRow_contentLine wellFormed found inDomain inside⟩
  · exact ⟨_, getElem?_pictureLines_separator inside,
      showsBorder_separatorLine wellFormed found inside⟩

/-- A band whose right half has a box in each row, with a negative value. -/
def signedBand : Grid .signed8 where
  height := 2
  width := 4
  cells := #[{}, { value := some ⟨8, by decide, by decide⟩ }, { boxHeight := some 1 },
    { boxHeight := some 1 }, { value := some ⟨-12, by decide, by decide⟩ }, {},
    { boxHeight := some 1 }, { boxHeight := some 1 }]
  box := ⟨2, 2⟩
  domain := {
    listed := [⟨-12, by decide, by decide⟩, ⟨8, by decide, by decide⟩]
    values := #[⟨-12, by decide, by decide⟩, ⟨8, by decide, by decide⟩]
    perm := .refl _
    ascending := by decide
    nonempty := by decide }
  explicitDomain := true

example : signedBand.picture =
    "╔═════╤═════╦═════╤═════╗\n" ++
      "║     │   8 ║     │     ║\n" ++
      "╟─────┼─────╬═════╪═════╣\n" ++
      "║ -12 │     ║     │     ║\n" ++
      "╚═════╧═════╩═════╧═════╝" := by
  decide +kernel

/-- The picture of the band with a negative value has five lines of 25 characters. Its two halves
are set apart in its lower row. -/
theorem picture_exact_signedBand :
    ∃ layout lines line, Layout.ofGrid signedBand = .ok layout ∧
      Text.pieces '\n' signedBand.picture.toList = lines ∧ lines.length = 5 ∧
      (∀ line ∈ lines, line.length = 25) ∧ lines[3]? = some line ∧
      signedBand.ShowsRow layout 1 line ∧ signedBand.separatorAt? line 2 = some '║' := by
  have built : signedBand.Built := .ofRowsOver
    (rfl : ofRowsOver signedBand.domain
      [[{}, { value := some ⟨8, by decide, by decide⟩ }, { boxHeight := some 1 },
          { boxHeight := some 1 }],
        [{ value := some ⟨-12, by decide, by decide⟩ }, {}, { boxHeight := some 1 },
          { boxHeight := some 1 }]] ⟨2, 2⟩ = .ok signedBand)
  have boxes : (do
      let layout ← Layout.ofGrid signedBand
      .ok (layout.boxAt ⟨1, 1⟩, layout.boxAt ⟨1, 2⟩)) = .ok (.ok 0, .ok 2) := by
    decide +kernel
  simp only [Error.bind_eq_ok_iff, Except.ok.injEq, Prod.mk.injEq] at boxes
  obtain ⟨layout, found, leftFound, rightFound⟩ := boxes
  have inDomain : ∀ number symbol, signedBand.valueAt number = some symbol →
      signedBand.domain.contains symbol = true :=
    (Board.checkValues_eq_ok_iff signedBand built.wellFormed).1 (by decide +kernel)
  obtain ⟨_, lines, cut, count, lengths, rows, _⟩ := picture_exact built inDomain found
  obtain ⟨line, isLine, shows⟩ := rows 1 (by decide)
  have width : signedBand.valueWidth = 3 := by decide +kernel
  rw [width] at lengths
  refine ⟨layout, lines, line, found, cut, count, lengths, isLine, shows, ?_⟩
  obtain ⟨left, right, sameLeft, sameRight, separator⟩ := shows.separators 1 (by decide)
  rw [leftFound, Except.ok.injEq] at sameLeft
  rw [rightFound, Except.ok.injEq] at sameRight
  rw [separator, ← sameLeft, ← sameRight]
  rfl

end Grid
end Sudoku
