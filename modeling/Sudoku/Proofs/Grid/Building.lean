import Sudoku.Proofs.Domain.Existence
import Sudoku.Proofs.Grid.Rows

/-!
# Which grids can be built

Rows of cells have the form of a grid when there are cells, all rows are of one length, and
every box dimension, of the grid or of a single cell, is positive and divides it. A grid
can be built from them when they have this form and the alphabet numbers the rows, unless
there is a domain that was named. Of several violations the first one is reported, in the
order of the rows, the default box, the cells in row-major order, and the domain.
-/

namespace Sudoku

variable {alphabet : Alphabet}

/-! ### Form -/

/-- A box dimension of a grid of the given extent, which is positive and divides it. -/
def Divides (extent dimension : Nat) : Prop :=
  0 < dimension ∧ dimension ∣ extent

/-- What is wrong with a box dimension of a grid of the given extent. -/
inductive Misfits (uneven : Nat → Nat → MalformedReason) (extent : Nat) :
    Nat → MalformedReason → Prop
  | zero : Misfits uneven extent 0 .zeroBoxDimension
  | uneven {dimension : Nat} (positive : 0 < dimension) (remains : ¬dimension ∣ extent) :
      Misfits uneven extent dimension (uneven dimension extent)

namespace Cell

/-- A cell whose overrides tile a grid of the given dimensions. -/
structure Fits (height width : Nat) (cell : Cell alphabet) : Prop where
  width : ∀ override, cell.boxWidth = some override → Divides width override
  height : ∀ override, cell.boxHeight = some override → Divides height override

/-- What is wrong with the overrides of a cell. A width is judged before a height. -/
inductive Violates (height width : Nat) (cell : Cell alphabet) : MalformedReason → Prop
  | width {override : Nat} {reason : MalformedReason}
      (overridden : cell.boxWidth = some override)
      (misfits : Misfits .boxWidthDoesNotTile width override reason) :
      Violates height width cell reason
  | height {override : Nat} {reason : MalformedReason}
      (widthFits : ∀ override, cell.boxWidth = some override → Divides width override)
      (overridden : cell.boxHeight = some override)
      (misfits : Misfits .boxHeightDoesNotTile height override reason) :
      Violates height width cell reason

end Cell

namespace Grid

/-- The number of columns, which is the length of the first row. -/
def columns (rows : List (List (Cell alphabet))) : Nat :=
  (rows.headD []).length

/-- Rows of one positive length. -/
structure Rectangular (rows : List (List (Cell alphabet))) : Prop where
  nonempty : 0 < columns rows
  lengths : ∀ row ∈ rows, row.length = columns rows

/-- Rows of cells that a box shape and the overrides of the cells tile. -/
structure HasForm (rows : List (List (Cell alphabet))) (box : BoxShape) : Prop
    extends Rectangular rows where
  boxWidth : Divides (columns rows) box.width
  boxHeight : Divides rows.length box.height
  overrides : ∀ row ∈ rows, ∀ cell ∈ row, cell.Fits rows.length (columns rows)

/-- The first violation of form in rows of cells with a box shape. -/
inductive Violates (rows : List (List (Cell alphabet))) (box : BoxShape) : Error → Prop
  | empty (none : columns rows = 0) : Violates rows box (.malformed .unknown .emptyGrid)
  | ragged {earlier later : List (List (Cell alphabet))} {row : List (Cell alphabet)}
      (nonempty : 0 < columns rows) (split : rows = earlier ++ row :: later)
      (before : ∀ other ∈ earlier, other.length = columns rows)
      (length : row.length ≠ columns rows) :
      Violates rows box
        (.malformed (.ofRow earlier.length) (.nonRectangular (columns rows) row.length))
  | boxWidth {reason : MalformedReason} (rectangular : Rectangular rows)
      (misfits : Misfits .boxWidthDoesNotTile (columns rows) box.width reason) :
      Violates rows box (.malformed .unknown reason)
  | boxHeight {reason : MalformedReason} (rectangular : Rectangular rows)
      (widthFits : Divides (columns rows) box.width)
      (misfits : Misfits .boxHeightDoesNotTile rows.length box.height reason) :
      Violates rows box (.malformed .unknown reason)
  | override {above below : List (List (Cell alphabet))}
      {left right : List (Cell alphabet)} {cell : Cell alphabet} {reason : MalformedReason}
      (rectangular : Rectangular rows) (widthFits : Divides (columns rows) box.width)
      (heightFits : Divides rows.length box.height)
      (split : rows = above ++ (left ++ cell :: right) :: below)
      (before : ∀ row ∈ above, ∀ other ∈ row, other.Fits rows.length (columns rows))
      (beside : ∀ other ∈ left, other.Fits rows.length (columns rows))
      (violates : cell.Violates rows.length (columns rows) reason) :
      Violates rows box (.malformed (.ofPosition ⟨above.length, left.length⟩) reason)

/-! ### Single checks -/

theorem widthFlaw?_eq_some_iff (columns width : Nat) (reason : MalformedReason) :
    widthFlaw? columns width = some reason ↔
      Misfits .boxWidthDoesNotTile columns width reason := by
  unfold widthFlaw?
  constructor
  · intro flawed
    split at flawed
    · next zero =>
        rw [zero, ← Option.some.inj flawed]
        exact .zero
    · next nonzero =>
        split at flawed
        · simp at flawed
        · next remains =>
            rw [← Option.some.inj flawed]
            exact .uneven (Nat.pos_of_ne_zero nonzero) (mt Nat.dvd_iff_mod_eq_zero.1 remains)
  · rintro (_ | ⟨positive, remains⟩)
    · rfl
    · rw [if_neg positive.ne', if_neg (mt Nat.dvd_iff_mod_eq_zero.2 remains)]

theorem heightFlaw?_eq_some_iff (rows height : Nat) (reason : MalformedReason) :
    heightFlaw? rows height = some reason ↔
      Misfits .boxHeightDoesNotTile rows height reason := by
  unfold heightFlaw?
  constructor
  · intro flawed
    split at flawed
    · next zero =>
        rw [zero, ← Option.some.inj flawed]
        exact .zero
    · next nonzero =>
        split at flawed
        · simp at flawed
        · next remains =>
            rw [← Option.some.inj flawed]
            exact .uneven (Nat.pos_of_ne_zero nonzero) (mt Nat.dvd_iff_mod_eq_zero.1 remains)
  · rintro (_ | ⟨positive, remains⟩)
    · rfl
    · rw [if_neg positive.ne', if_neg (mt Nat.dvd_iff_mod_eq_zero.2 remains)]

/-- Overrides without a flaw tile the grid. -/
theorem overrideFlaw?_eq_none_iff (height width : Nat) (cell : Cell alphabet) :
    overrideFlaw? height width cell = none ↔ cell.Fits height width := by
  simp only [overrideFlaw?, Option.or_eq_none_iff, Option.bind_eq_none_iff,
    widthFlaw?_eq_none_iff, heightFlaw?_eq_none_iff]
  constructor
  · rintro ⟨widths, heights⟩
    exact ⟨widths, heights⟩
  · intro fits
    exact ⟨fits.width, fits.height⟩

/-- The flaw of the overrides of a cell. -/
theorem overrideFlaw?_eq_some_iff (height width : Nat) (cell : Cell alphabet)
    (reason : MalformedReason) :
    overrideFlaw? height width cell = some reason ↔ cell.Violates height width reason := by
  simp only [overrideFlaw?, Option.or_eq_some_iff, Option.bind_eq_some_iff,
    Option.bind_eq_none_iff, widthFlaw?_eq_none_iff, widthFlaw?_eq_some_iff,
    heightFlaw?_eq_some_iff]
  constructor
  · rintro (⟨override, overridden, misfits⟩ | ⟨widthFits, override, overridden, misfits⟩)
    · exact .width overridden misfits
    · exact .height widthFits overridden misfits
  · rintro (⟨overridden, misfits⟩ | ⟨widthFits, overridden, misfits⟩)
    · exact .inl ⟨_, overridden, misfits⟩
    · exact .inr ⟨widthFits, _, overridden, misfits⟩

/-! ### First flaws -/

/-- A search through a numbered list finds something in the first item that is not
passed over. -/
theorem findSome?_zipIdx_eq_some_iff {item result : Type}
    (check : item × Nat → Option result) (passes : item → Prop)
    (passes_iff : ∀ entry number, check (entry, number) = none ↔ passes entry)
    (items : List item) (found : result) :
    items.zipIdx.findSome? check = some found ↔
      ∃ earlier entry later, items = earlier ++ entry :: later ∧
        (∀ other ∈ earlier, passes other) ∧ check (entry, earlier.length) = some found := by
  simp only [List.findSome?_eq_some_iff, List.zipIdx_eq_append_iff, Nat.zero_add]
  constructor
  · rintro ⟨_, _, _, ⟨earlier, rest, rfl, rfl, numbered⟩, here, before⟩
    obtain ⟨entry, later, rfl, rfl, rfl⟩ := List.zipIdx_eq_cons_iff.1 numbered.symm
    refine ⟨earlier, entry, later, rfl, ?_, here⟩
    intro other member
    obtain ⟨number, inside, rfl⟩ := List.getElem_of_mem member
    rw [← passes_iff _ number]
    exact before _ (List.mk_mem_zipIdx_iff_getElem?.2 (List.getElem?_eq_getElem inside))
  · rintro ⟨earlier, entry, later, rfl, before, here⟩
    refine ⟨_, _, _, ⟨earlier, entry :: later, rfl, rfl, List.zipIdx_cons.symm⟩, here, ?_⟩
    rintro ⟨other, number⟩ member
    exact (passes_iff other number).2 (before other (List.fst_mem_of_mem_zipIdx member))

/-- The first row of another length. -/
theorem lengthFlaw?_eq_some_iff (width : Nat) (rows : List (List (Cell alphabet)))
    (error : Error) :
    lengthFlaw? width rows = some error ↔
      ∃ earlier row later, rows = earlier ++ row :: later ∧
        (∀ other ∈ earlier, other.length = width) ∧ row.length ≠ width ∧
        error = .malformed (.ofRow earlier.length) (.nonRectangular width row.length) := by
  unfold lengthFlaw?
  rw [findSome?_zipIdx_eq_some_iff _ (fun row => row.length = width) (by simp)]
  refine exists₃_congr fun earlier row later => ?_
  simp only [ite_eq_iff, reduceCtorEq, and_false, false_or, Option.some.injEq,
    eq_comm (b := error), ne_eq]

/-- The first flaw in the overrides of the row of the given number. -/
def rowFlaw? (height width number : Nat) (row : List (Cell alphabet)) : Option Error :=
  row.zipIdx.findSome? fun entry =>
    (overrideFlaw? height width entry.1).map (.malformed (.ofPosition ⟨number, entry.2⟩))

/-- The rows are searched one after another. -/
theorem overridesFlaw?_eq_findSome? (height width : Nat) (rows : List (List (Cell alphabet))) :
    overridesFlaw? height width rows =
      rows.zipIdx.findSome? fun entry => rowFlaw? height width entry.2 entry.1 :=
  rfl

section

variable (height width : Nat)

/-- Rows without a flaw have cells that fit. -/
theorem rowFlaw?_eq_none_iff (number : Nat) (row : List (Cell alphabet)) :
    rowFlaw? height width number row = none ↔ ∀ other ∈ row, other.Fits height width := by
  unfold rowFlaw?
  rw [List.findSome?_eq_none_iff, List.forall_mem_zipIdx', List.forall_mem_iff_getElem]
  simp only [Option.map_eq_none_iff, overrideFlaw?_eq_none_iff]

/-- The first flaw of a row is that of its first cell that does not fit. -/
theorem rowFlaw?_eq_some_iff (number : Nat) (row : List (Cell alphabet)) (error : Error) :
    rowFlaw? height width number row = some error ↔
      ∃ left cell right reason, row = left ++ cell :: right ∧
        (∀ other ∈ left, other.Fits height width) ∧ cell.Violates height width reason ∧
        error = .malformed (.ofPosition ⟨number, left.length⟩) reason := by
  unfold rowFlaw?
  rw [findSome?_zipIdx_eq_some_iff _ (Cell.Fits height width) fun cell column => by
    rw [Option.map_eq_none_iff, overrideFlaw?_eq_none_iff]]
  simp only [Option.map_eq_some_iff, overrideFlaw?_eq_some_iff]
  constructor
  · rintro ⟨left, cell, right, split, beside, reason, violates, rfl⟩
    exact ⟨left, cell, right, reason, split, beside, violates, rfl⟩
  · rintro ⟨left, cell, right, reason, split, beside, violates, rfl⟩
    exact ⟨left, cell, right, split, beside, reason, violates, rfl⟩

/-- The first cell whose overrides have a flaw. -/
theorem overridesFlaw?_eq_some_iff (rows : List (List (Cell alphabet))) (error : Error) :
    overridesFlaw? height width rows = some error ↔
      ∃ above left cell right below reason,
        rows = above ++ (left ++ cell :: right) :: below ∧
        (∀ row ∈ above, ∀ other ∈ row, other.Fits height width) ∧
        (∀ other ∈ left, other.Fits height width) ∧ cell.Violates height width reason ∧
        error = .malformed (.ofPosition ⟨above.length, left.length⟩) reason := by
  rw [overridesFlaw?_eq_findSome?,
    findSome?_zipIdx_eq_some_iff _ (fun row => ∀ other ∈ row, other.Fits height width)
      fun row number => rowFlaw?_eq_none_iff height width number row]
  simp only [rowFlaw?_eq_some_iff]
  constructor
  · rintro ⟨above, _, below, rfl, before, left, cell, right, reason, rfl, beside, violates, rfl⟩
    exact ⟨above, left, cell, right, below, reason, rfl, before, beside, violates, rfl⟩
  · rintro ⟨above, left, cell, right, below, reason, rfl, before, beside, violates, rfl⟩
    exact ⟨above, _, below, rfl, before, left, cell, right, reason, rfl, beside, violates, rfl⟩

end

/-! ### Flaws of form -/

/-- Rows without a flaw have the form of a grid. -/
theorem flaw?_eq_none_iff_hasForm (rows : List (List (Cell alphabet))) (box : BoxShape) :
    flaw? rows box = none ↔ HasForm rows box := by
  rw [flaw?_eq_none_iff]
  simp only [overrideFlaw?_eq_none_iff]
  constructor
  · rintro ⟨nonempty, lengths, tiles, overrides⟩
    exact ⟨⟨nonempty, lengths⟩, ⟨tiles.width_pos, tiles.width_dvd⟩,
      ⟨tiles.height_pos, tiles.height_dvd⟩, overrides⟩
  · intro form
    exact ⟨form.nonempty, form.lengths,
      ⟨form.boxWidth.1, form.boxHeight.1, form.boxWidth.2, form.boxHeight.2⟩, form.overrides⟩

/-- A flaw of form is the first violation. -/
theorem flaw?_eq_some_iff (rows : List (List (Cell alphabet))) (box : BoxShape)
    (error : Error) :
    flaw? rows box = some error ↔ Violates rows box error := by
  unfold flaw?
  change (if columns rows = 0 then _ else _) = _ ↔ _
  simp only [ite_eq_iff, Option.some.injEq, Option.or_eq_some_iff, Option.map_eq_some_iff,
    Option.map_eq_none_iff, lengthFlaw?_eq_none_iff, lengthFlaw?_eq_some_iff,
    widthFlaw?_eq_none_iff, widthFlaw?_eq_some_iff, heightFlaw?_eq_none_iff,
    heightFlaw?_eq_some_iff, overridesFlaw?_eq_some_iff]
  constructor
  · rintro (⟨none, rfl⟩ | ⟨some, flawed⟩)
    · exact .empty none
    · have nonempty : 0 < columns rows := Nat.pos_of_ne_zero some
      rcases flawed with ⟨earlier, row, later, split, before, length, rfl⟩ | ⟨lengths, flawed⟩
      · exact .ragged nonempty split before length
      · have rectangular : Rectangular rows := ⟨nonempty, lengths⟩
        rcases flawed with ⟨reason, misfits, rfl⟩ | ⟨widthFits, flawed⟩
        · exact .boxWidth rectangular misfits
        · rcases flawed with ⟨reason, misfits, rfl⟩ | ⟨heightFits, flawed⟩
          · exact .boxHeight rectangular widthFits misfits
          · obtain ⟨above, left, cell, right, below, reason, split, before, beside,
              violates, rfl⟩ := flawed
            exact .override rectangular widthFits heightFits split before beside violates
  · intro violates
    cases violates with
    | empty none => exact .inl ⟨none, rfl⟩
    | ragged nonempty split before length =>
        exact .inr ⟨nonempty.ne', .inl ⟨_, _, _, split, before, length, rfl⟩⟩
    | boxWidth rectangular misfits =>
        exact .inr ⟨rectangular.nonempty.ne', .inr ⟨rectangular.lengths,
          .inl ⟨_, misfits, rfl⟩⟩⟩
    | boxHeight rectangular widthFits misfits =>
        exact .inr ⟨rectangular.nonempty.ne', .inr ⟨rectangular.lengths,
          .inr ⟨widthFits, .inl ⟨_, misfits, rfl⟩⟩⟩⟩
    | override rectangular widthFits heightFits split before beside violates =>
        exact .inr ⟨rectangular.nonempty.ne', .inr ⟨rectangular.lengths,
          .inr ⟨widthFits, .inr ⟨heightFits, _, _, _, _, _, _, split, before, beside,
            violates, rfl⟩⟩⟩⟩

end Grid

/-! ### Numbering -/

/-- All numbers from one up to the given size are symbols of the alphabet. -/
def Alphabet.Numbers (alphabet : Alphabet) (size : Nat) : Prop :=
  ∀ number : Int, 1 ≤ number → number ≤ size → alphabet.Has number

/-- An alphabet has all numbers up to a positive one when it has that one. -/
theorem Alphabet.numbers_iff {size : Nat} (positive : 0 < size) :
    alphabet.Numbers size ↔ alphabet.Has size := by
  constructor
  · intro numbers
    exact numbers size (by omega) (by omega)
  · rintro ⟨_, greatest⟩ number atLeast atMost
    have least := alphabet.least_le_one
    exact ⟨by omega, by omega⟩

/-- There is no default domain for some rows when the alphabet does not number them. -/
theorem Domain.default_eq_error_iff {size : Nat} (positive : 0 < size) (error : Error) :
    (default size : Except Error (Domain alphabet)) = .error error ↔
      ¬alphabet.Numbers size ∧
        error = .malformed .unknown (.valueOutOfDomain (toString size)) := by
  rw [Alphabet.numbers_iff positive, ← exists_default_iff positive]
  cases numbered : (Symbol.upTo? size : Option (List (Symbol alphabet))) with
  | none => simp [default, numbered, eq_comm]
  | some symbols =>
      -- Symbols that are numbered list the default domain themselves.
      rw [Symbol.upTo?_eq_some_iff] at numbered
      have listed : Symbol.numbersUpTo size ≠ [] ∧ (Symbol.numbersUpTo size).Nodup ∧
          ∀ given ∈ Symbol.numbersUpTo size, ∃ symbol : Symbol alphabet,
            symbol.value = given := by
        refine ⟨List.ne_nil_of_mem ((Symbol.mem_numbersUpTo size 1).2 ⟨by omega, by omega⟩),
          Symbol.nodup_numbersUpTo size, ?_⟩
        rw [← numbered]
        simp
      obtain ⟨domain, lists⟩ := (exists_map_listed_eq_iff Symbol.value_injective _).2 listed
      rw [← default_eq_ok_iff] at lists
      simp [lists]

/-! ### Building -/

namespace Grid

/-- What comes of building rows and a box shape into a grid, over a domain that was named
or over the default one. -/
structure Builds (named : Option (Domain alphabet)) (rows : List (List (Cell alphabet)))
    (box : BoxShape) (outcome : Except Error (Grid alphabet)) : Prop where
  ok_iff : (∃ grid, outcome = .ok grid) ↔
    HasForm rows box ∧ (named = none → alphabet.Numbers rows.length)
  made : ∀ grid, outcome = .ok grid →
    grid.rows = rows ∧ grid.box = box ∧ grid.explicitDomain = named.isSome ∧
      ∀ domain, named = some domain → grid.domain = domain
  error_iff : ∀ error, outcome = .error error ↔
    Violates rows box error ∨
      HasForm rows box ∧ named = none ∧ ¬alphabet.Numbers rows.length ∧
        error = .malformed .unknown (.valueOutOfDomain (toString rows.length))

theorem HasForm.height_pos {rows : List (List (Cell alphabet))} {box : BoxShape}
    (form : HasForm rows box) : 0 < rows.length := by
  have nonempty := form.nonempty
  cases rows with
  | nil => simp [columns] at nonempty
  | cons row rest => simp

/-- A build fails on a violation of form, or else where the domain fails. -/
theorem build_eq_error_iff (rows : List (List (Cell alphabet))) (box : BoxShape)
    (domain : Except Error (Domain alphabet)) (explicitDomain : Bool) (error : Error) :
    build rows box domain explicitDomain = .error error ↔
      Violates rows box error ∨ HasForm rows box ∧ domain = .error error := by
  rw [← flaw?_eq_some_iff, ← flaw?_eq_none_iff_hasForm]
  unfold build
  cases flaw? rows box with
  | some flaw => simp
  | none => cases domain <;> simp [Except.map]

/-- A build succeeds on rows that have form, where there is a domain. -/
theorem exists_build_iff (rows : List (List (Cell alphabet))) (box : BoxShape)
    (domain : Except Error (Domain alphabet)) (explicitDomain : Bool) :
    (∃ grid, build rows box domain explicitDomain = .ok grid) ↔
      HasForm rows box ∧ ∃ values, domain = .ok values := by
  rw [← flaw?_eq_none_iff_hasForm]
  unfold build
  cases flaw? rows box with
  | some flaw => simp
  | none => cases domain <;> simp [Except.map]

/-- Rows are built over the default domain when they have form and are numbered. -/
theorem builds_ofRows (rows : List (List (Cell alphabet))) (box : BoxShape) :
    Builds none rows box (ofRows rows box) where
  ok_iff := by
    unfold ofRows
    rw [exists_build_iff]
    refine and_congr_right fun form => ?_
    rw [Domain.exists_default_iff form.height_pos, Alphabet.numbers_iff form.height_pos]
    simp
  made grid built := by
    obtain ⟨_, _, _, _, sameBox, _, unnamed⟩ := build_eq_ok_iff.1 built
    exact ⟨rows_of_build built, sameBox, unnamed, by simp⟩
  error_iff error := by
    unfold ofRows
    rw [build_eq_error_iff]
    refine or_congr_right (and_congr_right fun form => ?_)
    rw [Domain.default_eq_error_iff form.height_pos, eq_self_iff_true, true_and]

/-- Rows are built over a domain of their own when they have form. -/
theorem builds_ofRowsOver (domain : Domain alphabet) (rows : List (List (Cell alphabet)))
    (box : BoxShape) : Builds (some domain) rows box (ofRowsOver domain rows box) where
  ok_iff := by
    unfold ofRowsOver
    rw [exists_build_iff]
    simp
  made grid built := by
    obtain ⟨_, _, _, _, sameBox, sameDomain, named⟩ := build_eq_ok_iff.1 built
    refine ⟨rows_of_build built, sameBox, named, ?_⟩
    rintro _ ⟨⟩
    exact (Except.ok.inj sameDomain).symm
  error_iff error := by
    unfold ofRowsOver
    rw [build_eq_error_iff]
    simp

/-- Empty cells are built like any rows. -/
theorem builds_blank (height width : Nat) (box : BoxShape) :
    Builds none (List.replicate height (List.replicate width ({} : Cell alphabet))) box
      (blank height width box) := by
  have rows : ((List.range height).map fun _ => List.replicate width ({} : Cell alphabet)) =
      List.replicate height (List.replicate width {}) := by
    simp
  unfold blank
  rw [rows]
  exact builds_ofRows _ box

end Grid
end Sudoku
