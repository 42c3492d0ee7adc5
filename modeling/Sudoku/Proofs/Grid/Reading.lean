import Sudoku.Proofs.Grid.Inscription

/-!
# Reading grid codes

The grids that are read are those that a sound inscription describes, and a text that is
not read is rejected for the first thing that is wrong with it. Blanks beside the separators
make no difference to either.
-/

namespace Sudoku
namespace Grid

variable {alphabet : Alphabet} {grid : Grid alphabet}

/-! ### Checking values -/

/-- A search through the first numbers finds something at the first one that has it. -/
theorem findSome?_range_eq_some_iff {result : Type} (check : Nat → Option result)
    (count : Nat) (found : result) :
    (List.range count).findSome? check = some found ↔
      ∃ number < count, check number = some found ∧ ∀ earlier < number, check earlier = none := by
  induction count with
  | zero => simp
  | succ count inductionHypothesis =>
      rw [List.range_succ, List.findSome?_append, Option.or_eq_some_iff, inductionHypothesis]
      simp only [List.findSome?_eq_none_iff, List.mem_range, List.findSome?_singleton]
      constructor
      · rintro (⟨number, inside, here, before⟩ | ⟨before, here⟩)
        · exact ⟨number, Nat.lt_succ_of_lt inside, here, before⟩
        · exact ⟨count, Nat.lt_succ_self count, here, before⟩
      · rintro ⟨number, inside, here, before⟩
        rcases Nat.lt_succ_iff_lt_or_eq.1 inside with inside | rfl
        · exact .inl ⟨number, inside, here, before⟩
        · exact .inr ⟨before, here⟩

namespace Inscription

variable {inscription : Inscription}

/-- What the check of the values says of a cell. -/
def flawAt (grid : Grid alphabet) (number : Nat) : Option Error :=
  (grid.valueAt number).bind fun symbol =>
    if grid.domain.contains symbol then none
    else some (.malformed (.ofPosition (.ofNumber grid.width number))
      (.valueOutOfDomain symbol.text))

section

variable (describes : inscription.Describes grid) {number : Nat} {entry : Entry}
  (here : inscription.entries[number]? = some entry)
  (inside : number < inscription.size * inscription.size)

include describes here inside

/-- The check passes over the values that are in range. -/
theorem Describes.flawAt_eq_none_iff :
    flawAt grid number = none ↔ InRange inscription.size entry := by
  have value := describes.map_valueAt here inside
  unfold flawAt InRange
  cases held : grid.valueAt number with
  | none => simp [← value, held]
  | some symbol => simp [← value, held, ← describes.contains_iff]

/-- The check objects to the values that are not. -/
theorem Describes.flawAt_eq_some_iff (error : Error) :
    flawAt grid number = some error ↔
      ∃ value, entry.value = some value ∧ ¬(1 ≤ value ∧ value ≤ inscription.size) ∧
        error = .malformed
          (.ofPosition ⟨number / inscription.size, number % inscription.size⟩)
          (.valueOutOfDomain (String.ofList (Text.Decimal.ofInt value))) := by
  have value := describes.map_valueAt here inside
  unfold flawAt
  cases held : grid.valueAt number with
  | none => simp [← value, held]
  | some symbol =>
      rw [Option.bind_some, ← value, held, describes.width]
      simp only [Option.map_some, Option.some.injEq, exists_eq_left', ← describes.contains_iff,
        ite_eq_iff, reduceCtorEq, and_false, false_or, eq_comm (b := error)]
      rfl

end

section

variable (describes : inscription.Describes grid)
  (count : inscription.entries.length = inscription.size * inscription.size)

include describes count

/-- The values of a described grid pass the check when they are in range. -/
theorem Describes.checkValues_eq_ok_iff :
    grid.checkValues = .ok () ↔ ∀ entry ∈ inscription.entries, InRange inscription.size entry := by
  have cells : grid.cellCount = inscription.entries.length := by
    rw [cellCount, describes.height, describes.width, count]
  rw [checkValues, Error.guard_eq_ok_iff]
  change (List.range grid.cellCount).findSome? (flawAt grid) = none ↔ _
  simp only [List.findSome?_eq_none_iff, List.mem_range, cells]
  rw [List.forall_mem_iff_getElem]
  refine forall₂_congr fun number inside => ?_
  exact describes.flawAt_eq_none_iff (List.getElem?_eq_getElem inside) (by rwa [← count])

/-- The check of a described grid objects to the first value that is not in range. -/
theorem Describes.checkValues_eq_error_iff (error : Error) :
    grid.checkValues = .error error ↔
      ∃ (number : Nat) (entry : Entry) (value : Int),
        inscription.entries[number]? = some entry ∧
        entry.value = some value ∧ ¬(1 ≤ value ∧ value ≤ inscription.size) ∧
        (∀ earlier < number, ∀ other, inscription.entries[earlier]? = some other →
          InRange inscription.size other) ∧
        error = .malformed
          (.ofPosition ⟨number / inscription.size, number % inscription.size⟩)
          (.valueOutOfDomain (String.ofList (Text.Decimal.ofInt value))) := by
  have cells : grid.cellCount = inscription.entries.length := by
    rw [cellCount, describes.height, describes.width, count]
  have inRange {number : Nat} (bound : number ≤ inscription.entries.length) :
      (∀ earlier < number, flawAt grid earlier = none) ↔
        ∀ earlier < number, ∀ other, inscription.entries[earlier]? = some other →
          InRange inscription.size other := by
    refine forall₂_congr fun earlier before => ?_
    have inside := Nat.lt_of_lt_of_le before bound
    rw [List.getElem?_eq_getElem inside, describes.flawAt_eq_none_iff
      (List.getElem?_eq_getElem inside) (by rwa [← count])]
    simp
  rw [checkValues, Error.guard_eq_error_iff]
  change (List.range grid.cellCount).findSome? (flawAt grid) = some error ↔ _
  rw [findSome?_range_eq_some_iff, cells]
  constructor
  · rintro ⟨number, inside, here, before⟩
    have isEntry := List.getElem?_eq_getElem inside
    obtain ⟨value, held, outside, rfl⟩ :=
      (describes.flawAt_eq_some_iff isEntry (by rwa [← count]) error).1 here
    exact ⟨number, _, value, isEntry, held, outside, (inRange inside.le).1 before, rfl⟩
  · rintro ⟨number, entry, value, isEntry, held, outside, before, rfl⟩
    obtain ⟨inside, _⟩ := List.getElem?_eq_some_iff.1 isEntry
    refine ⟨number, inside, ?_, (inRange inside.le).2 before⟩
    exact (describes.flawAt_eq_some_iff isEntry (by rwa [← count]) _).2
      ⟨value, held, outside, rfl⟩

end

/-! ### Making squares -/

section

variable {cells : List (Cell alphabet)}
  (describe : List.Forall₂ Entry.Describes inscription.entries cells)
  (positive : 0 < inscription.size)
  (count : inscription.entries.length = inscription.size * inscription.size)

include describe positive count

/-- The grid that is built from the cells of a square is the one that is described. -/
theorem ofRows_eq_ok_iff :
    ofRows (squareRows inscription.size cells) inscription.box = .ok grid ↔
      inscription.HasForm ∧ inscription.Describes grid ∧ grid.cells.toList = cells := by
  have cellCount := describe.length_eq.symm.trans count
  rw [ofRows_squareRows_eq_ok_iff cellCount, hasForm_squareRows_iff describe positive count,
    describes_iff count]
  refine and_congr_right fun _ => ?_
  constructor
  · rintro ⟨height, width, rfl, box, domain, unnamed⟩
    exact ⟨⟨height, width, describe, box, domain, unnamed⟩, rfl⟩
  · rintro ⟨⟨height, width, _, box, domain, unnamed⟩, same⟩
    exact ⟨height, width, same, box, domain, unnamed⟩

/-- There is such a grid when the inscription has form and the alphabet its numbers. -/
theorem exists_ofRows_iff :
    (∃ grid, ofRows (squareRows inscription.size cells) inscription.box = .ok grid) ↔
      inscription.HasForm ∧ alphabet.Numbers inscription.size := by
  have height : (squareRows inscription.size cells).length = inscription.size := by
    simp [squareRows]
  rw [(builds_ofRows _ _).ok_iff, hasForm_squareRows_iff describe positive count, height]
  simp

/-- Otherwise there is a violation of form, or else the numbers are missing. -/
theorem ofRows_eq_error_iff (error : Error) :
    ofRows (squareRows inscription.size cells) inscription.box = .error error ↔
      Violates (squareRows inscription.size cells) inscription.box error ∨
        inscription.HasForm ∧ ¬alphabet.Numbers inscription.size ∧
          error = .malformed .unknown (.valueOutOfDomain (toString inscription.size)) := by
  have height : (squareRows inscription.size cells).length = inscription.size := by
    simp [squareRows]
  rw [(builds_ofRows _ _).error_iff, hasForm_squareRows_iff describe positive count, height]
  simp

end

/-- The side of an inscription that is spelled is positive, and there is an entry for each
cell. -/
theorem Spelled.counts {text : List Char} (spelled : inscription.Spelled text) :
    0 < inscription.size ∧
      inscription.entries.length = inscription.size * inscription.size := by
  obtain ⟨_, _, positive, count⟩ := spelled
  exact ⟨positive, count⟩

/-- Entries have cells when they are representable. -/
theorem exists_describe_iff (entries : List Entry) :
    (∃ cells : List (Cell alphabet), List.Forall₂ Entry.Describes entries cells) ↔
      ∀ entry ∈ entries, entry.Representable alphabet := by
  simp only [exists_forall₂_iff, Entry.exists_describes_iff]

end Inscription

open Inscription

/-! ### Reading -/

/-- There is no side where the count is no square. -/
theorem side?_eq_none_iff (count : Nat) : side? count = none ↔ ∀ size, size * size ≠ count := by
  simp only [Option.eq_none_iff_forall_ne_some, ne_eq, side?_eq_some_iff]

/-- An inscription is made up of any parts. -/
theorem exists_inscription (box : BoxShape) (size : Nat) (entries : List Entry) :
    ∃ inscription : Inscription,
      inscription.box = box ∧ inscription.size = size ∧ inscription.entries = entries :=
  ⟨⟨box, size, entries⟩, rfl, rfl, rfl⟩

/-- Texts that are cut, and spell a box shape and the entries of a square, spell an
inscription. -/
theorem Cut.spelled {text boxText : List Char} {texts : List (List Char)}
    (cut : Cut text boxText texts) {inscription : Inscription}
    (boxSpelled : inscription.box.Spelled boxText)
    (entriesSpelled : List.Forall₂ Entry.Spelled texts inscription.entries)
    (square : inscription.size * inscription.size = texts.length) :
    inscription.Spelled text := by
  rw [cut.split]
  exact .intro boxSpelled entriesSpelled (cut.side_pos square)
    (entriesSpelled.length_eq.symm.trans square.symm)

/-- A text that spells an inscription is read entry by entry. -/
theorem Inscription.Spelled.readCode_eq {text : List Char} {inscription : Inscription}
    (spelled : inscription.Spelled text) {cells : List (Cell alphabet)}
    (describe : List.Forall₂ Entry.Describes inscription.entries cells) :
    readCode text = ofRows (squareRows inscription.size cells) inscription.box >>= fun grid =>
      grid.checkValues >>= fun _ => .ok grid := by
  obtain ⟨boxText, texts, cut, box, entries, side⟩ := spelled.exists_cut
  have read : readEntries inscription.size 0 texts = .ok cells :=
    (readEntries_eq_ok_iff _ _ _ _).2 ⟨_, entries, describe⟩
  rw [cut.readCode_eq, (BoxShape.ofCode?_eq_some_iff _ _).2 box, side]
  simp only [read]
  rfl

/-- Exactly the grids that sound inscriptions describe are read from the texts for them. -/
theorem readCode_eq_ok_iff (text : List Char) (grid : Grid alphabet) :
    readCode text = .ok grid ↔
      ∃ inscription : Inscription, inscription.Spelled text ∧ inscription.Sound alphabet ∧
        inscription.Describes grid := by
  constructor
  · intro read
    by_cases once : text.count ';' = 1
    swap
    · simp [readCode_of_count once] at read
    obtain ⟨boxText, texts, cut⟩ := (exists_cut_iff text).2 once
    rw [cut.readCode_eq] at read
    split at read
    · simp at read
    · simp at read
    next box size boxRead side =>
    simp only [Error.bind_eq_ok_iff, Except.ok.injEq] at read
    obtain ⟨cells, cellsRead, made, built, _, checked, rfl⟩ := read
    obtain ⟨entries, spelled, describe⟩ := (readEntries_eq_ok_iff _ _ _ _).1 cellsRead
    obtain ⟨inscription, rfl, rfl, rfl⟩ := exists_inscription box size entries
    have inscribed := cut.spelled ((BoxShape.ofCode?_eq_some_iff _ _).1 boxRead) spelled
      ((side?_eq_some_iff _ _).1 side)
    obtain ⟨positive, count⟩ := inscribed.counts
    have numbers := ((exists_ofRows_iff describe positive count).1 ⟨_, built⟩).2
    obtain ⟨form, describes, _⟩ := (ofRows_eq_ok_iff describe positive count).1 built
    exact ⟨_, inscribed, ⟨form, numbers, (describes.checkValues_eq_ok_iff count).1 checked⟩,
      describes⟩
  · rintro ⟨inscription, spelled, sound, describes⟩
    obtain ⟨positive, count⟩ := spelled.counts
    obtain ⟨_, _, describe, _⟩ := (describes_iff count).1 describes
    rw [spelled.readCode_eq describe, (ofRows_eq_ok_iff describe positive count).2
      ⟨sound.toHasForm, describes, rfl⟩]
    have checked := (describes.checkValues_eq_ok_iff count).2 sound.values
    simp only [bind, Except.bind, checked]

/-- A text is rejected for what the reading of it fails with. -/
theorem rejected_of_readCode_eq {text : List Char} {error : Error}
    (read : (readCode text : Except Error (Grid alphabet)) = .error error) :
    Rejected alphabet text error := by
  by_cases once : text.count ';' = 1
  swap
  · rw [readCode_of_count once, Except.error.injEq] at read
    rw [← read]
    exact .separatorCount once
  obtain ⟨boxText, texts, cut⟩ := (exists_cut_iff text).2 once
  rw [cut.readCode_eq] at read
  split at read
  · next unread =>
      rw [← Except.error.inj read]
      exact .boxDimensions cut ((BoxShape.ofCode?_eq_none_iff _).1 unread)
  · next box boxRead noSide =>
      rw [← Except.error.inj read]
      exact .cellCount cut ((BoxShape.ofCode?_eq_some_iff _ _).1 boxRead)
        ((side?_eq_none_iff _).1 noSide)
  next box size boxRead side =>
  have boxSpelled := (BoxShape.ofCode?_eq_some_iff _ _).1 boxRead
  have square := (side?_eq_some_iff _ _).1 side
  rcases (Error.bind_eq_error_iff _ _ _).1 read with failed | ⟨cells, cellsRead, read⟩
  · obtain ⟨earlier, entryText, later, reason, rfl, before, fault, rfl⟩ :=
      (readEntries_eq_error_iff _ _ _ _).1 failed
    rw [Nat.zero_add]
    exact .entry cut boxSpelled square before fault
  obtain ⟨entries, spelled, describe⟩ := (readEntries_eq_ok_iff _ _ _ _).1 cellsRead
  obtain ⟨inscription, rfl, rfl, rfl⟩ := exists_inscription box size entries
  have inscribed := cut.spelled boxSpelled spelled square
  obtain ⟨positive, count⟩ := inscribed.counts
  have representable := (exists_describe_iff inscription.entries).1 ⟨cells, describe⟩
  rcases (Error.bind_eq_error_iff _ _ _).1 read with failed | ⟨made, built, read⟩
  · rcases (ofRows_eq_error_iff describe positive count error).1 failed with
      violates | ⟨form, unnumbered, rfl⟩
    · exact .form inscribed describe violates
    · exact .numbering inscribed representable form unnumbered
  · have numbers := ((exists_ofRows_iff describe positive count).1 ⟨_, built⟩).2
    obtain ⟨form, describes, _⟩ := (ofRows_eq_ok_iff describe positive count).1 built
    rcases (Error.bind_eq_error_iff _ _ _).1 read with failed | ⟨_, _, read⟩
    · obtain ⟨number, entry, value, here, held, outside, before, rfl⟩ :=
        (describes.checkValues_eq_error_iff count error).1 failed
      exact .value inscribed representable form numbers here held outside before
    · simp at read

/-- The reading of a text fails with what it is rejected for. -/
theorem Rejected.readCode_eq {text : List Char} {error : Error}
    (rejected : Rejected alphabet text error) :
    (readCode text : Except Error (Grid alphabet)) = .error error := by
  cases rejected with
  | separatorCount count => exact readCode_of_count count
  | boxDimensions cut misspelled =>
      rw [cut.readCode_eq, (BoxShape.ofCode?_eq_none_iff _).2 misspelled]
  | cellCount cut spelled noSquare =>
      rw [cut.readCode_eq, (BoxShape.ofCode?_eq_some_iff _ _).2 spelled,
        (side?_eq_none_iff _).2 noSquare]
  | @entry boxText entryText earlier later box size reason cut spelled square before fault =>
      rw [cut.readCode_eq, (BoxShape.ofCode?_eq_some_iff _ _).2 spelled,
        (side?_eq_some_iff _ _).2 square]
      refine (Error.bind_eq_error_iff _ _ _).2 (.inl ?_)
      rw [readEntries_eq_error_iff]
      exact ⟨earlier, entryText, later, reason, rfl, before, fault, by rw [Nat.zero_add]; rfl⟩
  | form spelled describe violates =>
      obtain ⟨positive, count⟩ := spelled.counts
      rw [spelled.readCode_eq describe, Error.bind_eq_error_iff,
        ofRows_eq_error_iff describe positive count]
      exact .inl (.inl violates)
  | numbering spelled representable form unnumbered =>
      obtain ⟨positive, count⟩ := spelled.counts
      obtain ⟨cells, describe⟩ := (exists_describe_iff _).2 representable
      rw [spelled.readCode_eq describe, Error.bind_eq_error_iff,
        ofRows_eq_error_iff describe positive count]
      exact .inl (.inr ⟨form, unnumbered, rfl⟩)
  | value spelled representable form numbers here held outside before =>
      obtain ⟨positive, count⟩ := spelled.counts
      obtain ⟨cells, describe⟩ := (exists_describe_iff _).2 representable
      obtain ⟨made, built⟩ := (exists_ofRows_iff describe positive count).2 ⟨form, numbers⟩
      obtain ⟨_, describes, _⟩ := (ofRows_eq_ok_iff describe positive count).1 built
      rw [spelled.readCode_eq describe, Error.bind_eq_error_iff]
      refine .inr ⟨made, built, (Error.bind_eq_error_iff _ _ _).2 (.inl ?_)⟩
      rw [describes.checkValues_eq_error_iff count]
      exact ⟨_, _, _, here, held, outside, before, rfl⟩

/-- Exactly the grids that sound inscriptions describe are read from the codes for them, and
every other code is rejected for the first thing that is wrong with it. Blanks before and
after a separator, and at the ends of a code, make no difference. -/
theorem ofCode_exact :
    (∀ (code : String) (grid : Grid alphabet), ofCode code = .ok grid ↔
      ∃ inscription : Inscription, inscription.Spelled code.toList ∧
        inscription.Sound alphabet ∧ inscription.Describes grid) ∧
    (∀ (code : String) (error : Error),
      (ofCode code : Except Error (Grid alphabet)) = .error error ↔
        Rejected alphabet code.toList error) ∧
    ∀ before blanks after : List Char, Text.Blank blanks → Text.Seam separators before after →
      (ofCode (String.ofList (before ++ (blanks ++ after))) : Except Error (Grid alphabet)) =
        ofCode (String.ofList (before ++ after)) := by
  refine ⟨fun code grid => readCode_eq_ok_iff _ grid,
    fun _ _ => ⟨rejected_of_readCode_eq, Rejected.readCode_eq⟩, ?_⟩
  intro before blanks after blank seam
  simp only [ofCode, String.toList_ofList]
  exact (readCode_eq_of_respaced (.insert blank seam)).symm

/-- The grid of a single cell, which holds the only symbol of its domain. -/
def unitGrid : Grid .unsigned8 where
  height := 1
  width := 1
  cells := #[{ value := some one }]
  box := ⟨1, 1⟩
  domain := {
    listed := [one]
    values := #[one]
    perm := .refl _
    ascending := by decide
    nonempty := by decide }
  explicitDomain := false

/-- The inscription of a single cell with the given value. -/
def unitInscription (value : Int) : Inscription :=
  ⟨⟨1, 1⟩, 1, [⟨some value, none⟩]⟩

/-- The text for a value gives one for its inscription. -/
theorem spelled_unitInscription (text : List Char) {value : Int}
    (read : Text.Decimal.readInt (Text.trim text) = .ok value) :
    (unitInscription value).Spelled (" 1x1".toList ++ ';' :: Text.join ',' [text]) := by
  have box : BoxShape.ofCode? " 1x1".toList = some ⟨1, 1⟩ := by decide +kernel
  refine .intro ((BoxShape.ofCode?_eq_some_iff _ _).1 box) ?_ Nat.one_pos rfl
  exact .cons (.plain (.present ((Text.Decimal.readInt_trim_eq_ok_iff _ _).1 read))) .nil

/-- The inscription of a single cell has form. -/
theorem hasForm_unitInscription (value : Int) : (unitInscription value).HasForm where
  boxWidth := ⟨Nat.one_pos, Nat.dvd_refl 1⟩
  boxHeight := ⟨Nat.one_pos, Nat.dvd_refl 1⟩
  shapes := by simp [unitInscription]

/-- There is a symbol for the only number of a single cell. -/
theorem numbers_one : Alphabet.unsigned8.Numbers 1 :=
  (Alphabet.numbers_iff Nat.one_pos).2 ⟨by decide, by decide⟩

/-- A grid is read with blanks and zeros before its value, a value beyond the domain is
rejected at its cell, and a blank behind the semicolon makes no difference to that. -/
theorem ofCode_unitGrid :
    ofCode " 1x1; +01" = .ok unitGrid ∧
      (ofCode " 1x1;2" : Except Error (Grid .unsigned8)) =
        .error (.malformed (.ofPosition ⟨0, 0⟩) (.valueOutOfDomain "2")) ∧
      (ofCode (String.ofList (" 1x1;".toList ++ ([' '] ++ ['2']))) :
        Except Error (Grid .unsigned8)) = ofCode " 1x1;2" := by
  have describes : (unitInscription 1).Describes unitGrid := {
    height := rfl
    width := rfl
    cells_size := rfl
    box := rfl
    unnamed := rfl
    domain := by decide
    cell := fun number entry here => by
      obtain ⟨inside, rfl⟩ := List.getElem?_eq_some_iff.1 here
      obtain rfl : number = 0 := Nat.lt_one_iff.1 inside
      exact ⟨_, rfl, rfl, rfl, rfl⟩ }
  have sound : (unitInscription 1).Sound .unsigned8 := {
    hasForm_unitInscription 1 with
    numbers := numbers_one
    values := by simp [unitInscription, InRange] }
  have spelled : (unitInscription 2).Spelled " 1x1;2".toList :=
    spelled_unitInscription ['2'] rfl
  have representable : ∀ entry ∈ (unitInscription 2).entries,
      entry.Representable .unsigned8 := by
    simp only [unitInscription, List.mem_singleton, forall_eq]
    rintro _ ⟨⟩
    exact ⟨by decide, by decide⟩
  have here : (unitInscription 2).entries[0]? = some ⟨some 2, none⟩ := rfl
  have rejected : Rejected .unsigned8 " 1x1;2".toList
      (.malformed (.ofPosition ⟨0, 0⟩) (.valueOutOfDomain "2")) :=
    .value spelled representable (hasForm_unitInscription 2) numbers_one here rfl (by decide)
      (by simp)
  have seam : Text.Seam separators " 1x1;".toList ['2'] := .inl (by
    rintro _ ⟨⟩
    decide)
  exact ⟨(ofCode_exact.1 _ unitGrid).2
      ⟨unitInscription 1, spelled_unitInscription " +01".toList rfl, sound, describes⟩,
    (ofCode_exact.2.1 " 1x1;2" _).2 rejected,
    ofCode_exact.2.2 " 1x1;".toList [' '] ['2'] (by decide) seam⟩

end Grid
end Sudoku
