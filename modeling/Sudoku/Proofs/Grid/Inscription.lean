import Sudoku.Proofs.Grid.Code
import Sudoku.Proofs.Grid.Grammar
import Sudoku.Proofs.Message.WellFormed

/-!
# What grid codes say

A code spells a box shape and the entries of a square, and a grid is read from it when all
box dimensions divide the side of the square and all values are among the numbers up to
it. Every other text is rejected for the first thing that is wrong with it: the number of
semicolons, the box shape, the number of entries, an entry, the form of the grid, its
numbering, or a value.
-/

namespace Sudoku
namespace Grid

variable {alphabet : Alphabet} {grid : Grid alphabet}

/-! ### Inscriptions -/

/-- What a code says: a box shape, the side of a square, and an entry for each cell. -/
structure Inscription where
  box : BoxShape
  size : Nat
  entries : List Entry
  deriving DecidableEq

namespace Inscription

/-- The texts for an inscription. -/
inductive Spelled : List Char → Inscription → Prop
  | intro {boxText : List Char} {texts : List (List Char)} {inscription : Inscription}
      (box : inscription.box.Spelled boxText)
      (entries : List.Forall₂ Entry.Spelled texts inscription.entries)
      (positive : 0 < inscription.size)
      (count : inscription.entries.length = inscription.size * inscription.size) :
      Spelled (boxText ++ ';' :: Text.join ',' texts) inscription

/-- All box dimensions are positive and divide the side of the square. -/
structure HasForm (inscription : Inscription) : Prop where
  boxWidth : Divides inscription.size inscription.box.width
  boxHeight : Divides inscription.size inscription.box.height
  shapes : ∀ entry ∈ inscription.entries, ∀ shape, entry.shape = some shape →
    Divides inscription.size shape.width ∧ Divides inscription.size shape.height

/-- The value of an entry, if it has one, is among the numbers up to the given size. -/
def InRange (size : Nat) (entry : Entry) : Prop :=
  ∀ value, entry.value = some value → 1 ≤ value ∧ value ≤ size

/-- An inscription from which a grid over the alphabet can be made. -/
structure Sound (alphabet : Alphabet) (inscription : Inscription) : Prop extends
    HasForm inscription where
  numbers : alphabet.Numbers inscription.size
  values : ∀ entry ∈ inscription.entries, InRange inscription.size entry

/-- The grid that an inscription is of: a square over the numbers up to its side, with the
given box shape, and in row-major order with the values and overrides of the entries. -/
structure Describes (inscription : Inscription) (grid : Grid alphabet) : Prop where
  height : grid.height = inscription.size
  width : grid.width = inscription.size
  cells_size : grid.cells.size = inscription.size * inscription.size
  box : grid.box = inscription.box
  unnamed : grid.explicitDomain = false
  domain : grid.domain.listed.map Symbol.value = Symbol.numbersUpTo inscription.size
  cell : ∀ number entry, inscription.entries[number]? = some entry →
    ∃ cell, grid.cell ⟨number / inscription.size, number % inscription.size⟩ = .ok cell ∧
      entry.Describes cell

end Inscription

/-- A text is cut at its only semicolon, and what is behind it at every comma. -/
structure Cut (text boxText : List Char) (texts : List (List Char)) : Prop where
  split : text = boxText ++ ';' :: Text.join ',' texts
  boxFree : ';' ∉ boxText
  nonempty : texts ≠ []
  free : ∀ entry ∈ texts, ';' ∉ entry ∧ ',' ∉ entry

/-- What a text is rejected for, which is the first thing that is wrong with it. -/
inductive Rejected (alphabet : Alphabet) (text : List Char) : Error → Prop
  | separatorCount (count : text.count ';' ≠ 1) :
      Rejected alphabet text (.malformed .unknown (.unreadable .separatorCount))
  | boxDimensions {boxText : List Char} {texts : List (List Char)}
      (cut : Cut text boxText texts) (misspelled : ¬∃ box, BoxShape.Spelled boxText box) :
      Rejected alphabet text (.malformed .unknown (.unreadable .boxDimensions))
  | cellCount {boxText : List Char} {texts : List (List Char)} {box : BoxShape}
      (cut : Cut text boxText texts) (spelled : box.Spelled boxText)
      (noSquare : ∀ size, size * size ≠ texts.length) :
      Rejected alphabet text (.malformed .unknown (.unreadable .cellCount))
  | entry {boxText entryText : List Char} {earlier later : List (List Char)} {box : BoxShape}
      {size : Nat} {reason : MalformedReason}
      (cut : Cut text boxText (earlier ++ entryText :: later)) (spelled : box.Spelled boxText)
      (square : size * size = (earlier ++ entryText :: later).length)
      (before : ∀ other ∈ earlier, Readable alphabet other)
      (fault : EntryFault alphabet entryText reason) :
      Rejected alphabet text (.malformed
        (.ofPosition ⟨earlier.length / size, earlier.length % size⟩) reason)
  | form {inscription : Inscription} {cells : List (Cell alphabet)} {error : Error}
      (spelled : inscription.Spelled text)
      (describe : List.Forall₂ Entry.Describes inscription.entries cells)
      (violates : Violates (squareRows inscription.size cells) inscription.box error) :
      Rejected alphabet text error
  | numbering {inscription : Inscription} (spelled : inscription.Spelled text)
      (representable : ∀ entry ∈ inscription.entries, entry.Representable alphabet)
      (form : inscription.HasForm) (unnumbered : ¬alphabet.Numbers inscription.size) :
      Rejected alphabet text
        (.malformed .unknown (.valueOutOfDomain (toString inscription.size)))
  | value {inscription : Inscription} {number : Nat} {entry : Entry} {value : Int}
      (spelled : inscription.Spelled text)
      (representable : ∀ entry ∈ inscription.entries, entry.Representable alphabet)
      (form : inscription.HasForm) (numbers : alphabet.Numbers inscription.size)
      (here : inscription.entries[number]? = some entry) (held : entry.value = some value)
      (outside : ¬(1 ≤ value ∧ value ≤ inscription.size))
      (before : ∀ earlier < number, ∀ other, inscription.entries[earlier]? = some other →
        Inscription.InRange inscription.size other) :
      Rejected alphabet text (.malformed
        (.ofPosition ⟨number / inscription.size, number % inscription.size⟩)
        (.valueOutOfDomain (String.ofList (Text.Decimal.ofInt value))))

/-! ### Cutting codes -/

/-- What is behind the semicolon has no other one. -/
theorem Cut.not_mem_join {text boxText : List Char} {texts : List (List Char)}
    (cut : Cut text boxText texts) : ';' ∉ Text.join ',' texts := by
  intro member
  rcases Text.mem_join member with comma | ⟨entry, isEntry, member⟩
  · exact absurd comma (by decide)
  · exact (cut.free entry isEntry).1 member

/-- A text can be cut when it has one semicolon. -/
theorem exists_cut_iff (text : List Char) :
    (∃ boxText texts, Cut text boxText texts) ↔ text.count ';' = 1 := by
  constructor
  · rintro ⟨boxText, texts, cut⟩
    rw [cut.split, List.count_append, List.count_cons_self,
      List.count_eq_zero_of_not_mem cut.boxFree, List.count_eq_zero_of_not_mem cut.not_mem_join]
  · intro once
    have member : ';' ∈ text := by
      rw [← List.count_pos_iff, once]
      exact Nat.one_pos
    obtain ⟨boxText, rest, rfl, boxFree⟩ := List.eq_append_cons_of_mem member
    rw [List.count_append, List.count_cons_self, List.count_eq_zero_of_not_mem boxFree,
      Nat.zero_add, Nat.add_eq_right, List.count_eq_zero] at once
    obtain ⟨nonempty, free, joined⟩ := (Text.pieces_eq_iff rest _).1 rfl
    refine ⟨boxText, Text.pieces ',' rest, by rw [← joined], boxFree, nonempty, ?_⟩
    intro entry isEntry
    refine ⟨fun member => once ?_, free entry isEntry⟩
    rw [joined]
    exact Text.mem_join_of_mem isEntry member

/-- A text that cannot be cut is rejected for its semicolons. -/
theorem readCode_of_count {text : List Char} (count : text.count ';' ≠ 1) :
    (readCode text : Except Error (Grid alphabet)) =
      .error (.malformed .unknown (.unreadable .separatorCount)) := by
  unfold readCode
  split
  · next boxText rest halves =>
      obtain ⟨_, free, split⟩ := (Text.pieces_eq_iff _ _).1 halves
      obtain ⟨boxFree, restFree⟩ : ';' ∉ boxText ∧ ';' ∉ rest := by simpa using free
      refine absurd ?_ count
      rw [split, Text.join, Text.join, List.count_append, List.count_cons_self,
        List.count_eq_zero_of_not_mem boxFree, List.count_eq_zero_of_not_mem restFree]
      simp
  · rfl

/-- A text that can be cut is read from its parts. -/
theorem Cut.readCode_eq {text boxText : List Char} {texts : List (List Char)}
    (cut : Cut text boxText texts) :
    (readCode text : Except Error (Grid alphabet)) =
      match BoxShape.ofCode? boxText, side? texts.length with
      | none, _ => .error (.malformed .unknown (.unreadable .boxDimensions))
      | some _, none => .error (.malformed .unknown (.unreadable .cellCount))
      | some box, some size => readEntries size 0 texts >>= fun cells =>
          ofRows (squareRows size cells) box >>= fun grid =>
            grid.checkValues >>= fun _ => .ok grid := by
  have behind := cut.not_mem_join
  obtain ⟨rfl, boxFree, nonempty, free⟩ := cut
  unfold readCode
  rw [Text.pieces_append boxFree, Text.pieces_of_not_mem behind]
  simp only [BoxShape.ofCode?_trim,
    Text.pieces_join nonempty fun entry isEntry => (free entry isEntry).2]
  cases BoxShape.ofCode? boxText with
  | none => rfl
  | some box => cases side? texts.length <;> rfl

/-- There are no semicolons and commas in the text of an entry. -/
theorem Entry.Spelled.not_mem {text : List Char} {entry : Entry} {mark : Char}
    (spelled : Entry.Spelled text entry) (isMark : mark ∈ separators) (noAt : mark ≠ '@')
    (noLetter : mark ≠ 'x') : mark ∉ text := by
  cases spelled with
  | plain spelled => exact spelled.not_mem isMark
  | overridden spelled shapeSpelled =>
      simp [spelled.not_mem isMark, shapeSpelled.not_mem isMark noLetter, noAt]

/-- The text for an inscription is cut into the texts for its box shape and its entries. -/
theorem Inscription.Spelled.exists_cut {text : List Char} {inscription : Inscription}
    (spelled : inscription.Spelled text) :
    ∃ boxText texts, Cut text boxText texts ∧ inscription.box.Spelled boxText ∧
      List.Forall₂ Entry.Spelled texts inscription.entries ∧
      side? texts.length = some inscription.size := by
  obtain ⟨box, entries, positive, count⟩ := spelled
  next boxText texts =>
  have lengths : texts.length = inscription.size * inscription.size :=
    entries.length_eq.trans count
  refine ⟨boxText, texts, ⟨rfl, box.not_mem (by decide) (by decide), ?_, ?_⟩, box, entries,
    (side?_eq_some_iff _ _).2 lengths.symm⟩
  · rw [← List.length_pos_iff, lengths]
    exact Nat.mul_pos positive positive
  · intro text isText
    obtain ⟨entry, spelled⟩ := (exists_forall₂_iff texts).1 ⟨_, entries⟩ text isText
    exact ⟨spelled.not_mem (by decide) (by decide) (by decide),
      spelled.not_mem (by decide) (by decide) (by decide)⟩

/-- The side of a square with entries is positive. -/
theorem Cut.side_pos {text boxText : List Char} {texts : List (List Char)}
    (cut : Cut text boxText texts) {size : Nat} (square : size * size = texts.length) :
    0 < size := by
  have entries := List.length_pos_iff.2 cut.nonempty
  rw [← square] at entries
  exact Nat.pos_of_mul_pos_left entries

/-! ### Squares -/

/-- Every row of a square is as long as the square is high. -/
theorem length_of_mem_squareRows {size : Nat} {cells row : List (Cell alphabet)}
    (count : cells.length = size * size) (member : row ∈ squareRows size cells) :
    row.length = size := by
  obtain ⟨number, inside, rfl⟩ := List.mem_map.1 member
  have below := Nat.mul_le_mul_right size (List.mem_range.1 inside)
  rw [Nat.succ_mul] at below
  rw [List.length_take, List.length_drop, count]
  omega

/-- The rows of a square one after another are its cells. -/
theorem flatten_squareRows {size : Nat} {cells : List (Cell alphabet)}
    (count : cells.length = size * size) : (squareRows size cells).flatten = cells := by
  have rows (height : Nat) : ((List.range height).map fun row =>
      (cells.drop (row * size)).take size).flatten = cells.take (height * size) := by
    induction height with
    | zero => simp
    | succ height inductionHypothesis =>
        rw [List.range_succ, List.map_append, List.flatten_append, inductionHypothesis,
          Nat.succ_mul, List.take_add]
        simp
  unfold squareRows
  rw [rows, ← count, List.take_length]

/-- A grid is built from the rows of a square when they have form and are numbered. -/
theorem ofRows_squareRows_eq_ok_iff {size : Nat} {cells : List (Cell alphabet)}
    {box : BoxShape} (count : cells.length = size * size) :
    ofRows (squareRows size cells) box = .ok grid ↔
      HasForm (squareRows size cells) box ∧ grid.height = size ∧ grid.width = size ∧
        grid.cells.toList = cells ∧ grid.box = box ∧ Domain.default size = .ok grid.domain ∧
        grid.explicitDomain = false := by
  have height : (squareRows size cells).length = size := by simp [squareRows]
  unfold ofRows
  rw [build_eq_ok_iff, flaw?_eq_none_iff_hasForm, length_headD_squareRows count,
    flatten_squareRows count, height]
  simp only [← Array.toList_inj]

namespace Inscription

variable {inscription : Inscription} {cells : List (Cell alphabet)}

theorem fits_iff {entry : Entry} {cell : Cell alphabet} (describes : entry.Describes cell)
    (height width : Nat) :
    cell.Fits height width ↔ ∀ shape, entry.shape = some shape →
      Divides width shape.width ∧ Divides height shape.height := by
  constructor
  · intro fits shape isShape
    refine ⟨fits.width _ ?_, fits.height _ ?_⟩
    · rw [describes.width, isShape, Option.map_some]
    · rw [describes.height, isShape, Option.map_some]
  · intro shapes
    constructor
    · intro override overridden
      rw [describes.width] at overridden
      obtain ⟨shape, isShape, rfl⟩ := Option.map_eq_some_iff.1 overridden
      exact (shapes shape isShape).1
    · intro override overridden
      rw [describes.height] at overridden
      obtain ⟨shape, isShape, rfl⟩ := Option.map_eq_some_iff.1 overridden
      exact (shapes shape isShape).2

section

variable (describe : List.Forall₂ Entry.Describes inscription.entries cells)
  (positive : 0 < inscription.size)
  (count : inscription.entries.length = inscription.size * inscription.size)

include describe positive count

/-- The rows of a square have the form of a grid when the inscription does. -/
theorem hasForm_squareRows_iff :
    Grid.HasForm (squareRows inscription.size cells) inscription.box ↔
      inscription.HasForm := by
  have cellCount : cells.length = inscription.size * inscription.size :=
    describe.length_eq.symm.trans count
  have height : (squareRows inscription.size cells).length = inscription.size := by
    simp [squareRows]
  have width : columns (squareRows inscription.size cells) = inscription.size :=
    length_headD_squareRows cellCount
  have fit : (∀ row ∈ squareRows inscription.size cells, ∀ cell ∈ row,
      cell.Fits inscription.size inscription.size) ↔
        ∀ entry ∈ inscription.entries, ∀ shape, entry.shape = some shape →
          Divides inscription.size shape.width ∧ Divides inscription.size shape.height := by
    have inRows (cell : Cell alphabet) :
        cell ∈ cells ↔ ∃ row ∈ squareRows inscription.size cells, cell ∈ row := by
      rw [← List.mem_flatten, flatten_squareRows cellCount]
    rw [← forall_mem_iff_of_forall₂ describe.flip fun cell entry describes =>
      fits_iff describes inscription.size inscription.size]
    simp only [inRows]
    constructor
    · rintro fits cell ⟨row, rowMember, member⟩
      exact fits row rowMember cell member
    · intro fits row rowMember cell member
      exact fits cell ⟨row, rowMember, member⟩
  constructor
  · intro form
    have boxWidth := form.boxWidth
    have boxHeight := form.boxHeight
    have overrides := form.overrides
    rw [height, width] at overrides
    rw [width] at boxWidth
    rw [height] at boxHeight
    exact ⟨boxWidth, boxHeight, fit.1 overrides⟩
  · intro form
    refine ⟨⟨by rwa [width], ?_⟩, by rw [width]; exact form.boxWidth,
      by rw [height]; exact form.boxHeight, by rw [height, width]; exact fit.2 form.shapes⟩
    intro row member
    rw [width]
    exact length_of_mem_squareRows cellCount member

end

section

variable (count : inscription.entries.length = inscription.size * inscription.size)

include count

/-- Grids that are described by an inscription have its entries in their cells. -/
theorem describes_iff :
    inscription.Describes grid ↔
      grid.height = inscription.size ∧ grid.width = inscription.size ∧
        List.Forall₂ Entry.Describes inscription.entries grid.cells.toList ∧
        grid.box = inscription.box ∧ Domain.default inscription.size = .ok grid.domain ∧
        grid.explicitDomain = false := by
  have cellOf (height : grid.height = inscription.size) (width : grid.width = inscription.size)
      {number : Nat} (inside : number < inscription.entries.length) :
      grid.cell ⟨number / inscription.size, number % inscription.size⟩ =
        .ok (grid.cellAt number) := by
    rw [count] at inside
    have here : grid.cell (.ofNumber grid.width number) = .ok (grid.cellAt number) :=
      cell_ofNumber (by
      rw [cellCount, height, width]
      exact inside)
    rwa [width] at here
  constructor
  · intro describes
    refine ⟨describes.height, describes.width, ?_, describes.box,
      (Domain.default_eq_ok_iff _ _).2 describes.domain, describes.unnamed⟩
    rw [List.forall₂_iff_get]
    refine ⟨by rw [count, Array.length_toList, describes.cells_size], ?_⟩
    intro number inside inCells
    obtain ⟨cell, found, describesCell⟩ :=
      describes.cell number _ (List.getElem?_eq_getElem inside)
    rw [cellOf describes.height describes.width inside, Except.ok.injEq] at found
    rw [Array.length_toList] at inCells
    have same : grid.cellAt number = grid.cells[number] := by
      simp [cellAt, inCells]
    rw [← found, same] at describesCell
    exact describesCell
  · rintro ⟨height, width, describe, box, domain, unnamed⟩
    obtain ⟨lengths, each⟩ := List.forall₂_iff_get.1 describe
    rw [Array.length_toList] at lengths
    refine ⟨height, width, by rw [← lengths, count], box, unnamed,
      (Domain.default_eq_ok_iff _ _).1 domain, ?_⟩
    intro number entry here
    obtain ⟨inside, rfl⟩ := List.getElem?_eq_some_iff.1 here
    refine ⟨_, cellOf height width inside, ?_⟩
    have inCells : number < grid.cells.size := by rwa [← lengths]
    have same : grid.cellAt number = grid.cells[number] := by
      simp [cellAt, inCells]
    rw [same]
    exact each number inside (by rwa [Array.length_toList])

end

/-! ### Values -/

section

variable (describes : inscription.Describes grid)

include describes

/-- The values of a described grid that are in its domain are the numbers up to its side. -/
theorem Describes.contains_iff (symbol : Symbol alphabet) :
    grid.domain.contains symbol = true ↔
      1 ≤ symbol.value ∧ symbol.value ≤ inscription.size := by
  rw [grid.domain.contains_iff_mem_listed, ← Symbol.mem_numbersUpTo, ← describes.domain,
    List.mem_map_of_injective Symbol.value_injective]

/-- The values of a described grid are those of the entries. -/
theorem Describes.map_valueAt {number : Nat} {entry : Entry}
    (here : inscription.entries[number]? = some entry)
    (inside : number < inscription.size * inscription.size) :
    (grid.valueAt number).map Symbol.value = entry.value := by
  obtain ⟨cell, found, describesCell⟩ := describes.cell number entry here
  have known : grid.cell (.ofNumber grid.width number) = .ok (grid.cellAt number) :=
    cell_ofNumber (by
    rw [cellCount, describes.height, describes.width]
    exact inside)
  rw [describes.width] at known
  rw [Position.ofNumber, found, Except.ok.injEq] at known
  rw [← describesCell.value, known]
  rfl

end

end Inscription

end Grid
end Sudoku
