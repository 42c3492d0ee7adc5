import Mathlib.Data.List.Forall2
import Sudoku.Proofs.Board.Coherence
import Sudoku.Proofs.Domain.Existence
import Sudoku.Proofs.Message.Denotation
import Sudoku.Proofs.Message.Malformed

/-!
# Well-formed messages

What a message has to have so that a game comes of it can be said of the message alone,
without building anything: no part is missing, the rows are rectangular, every box
dimension tiles them, the domain is a set of symbols, and every value belongs to it. A
message that is not well formed is blamed on the first of its grids that is not.
-/

namespace Sudoku

namespace GridMessage

/-- A message has the cells of every row, and the default box shape. -/
structure HasParts (message : GridMessage) (rows : List (List CellMessage)) (box : BoxShape) :
    Prop where
  rows : message.rows = some (rows.map fun cells => { cells := some cells })
  boxWidth : message.boxWidth.map UInt32.toNat = some box.width
  boxHeight : message.boxHeight.map UInt32.toNat = some box.height

/-- The domain of a message for so many rows: without a list their number has to be a
symbol, and a list has to be one of different symbols. -/
def HasDomain (alphabet : Alphabet) (size : Nat) : Option (List Int64) → Prop
  | none => alphabet.Has size
  | some values => values ≠ [] ∧ values.Nodup ∧ ∀ value ∈ values, alphabet.Has value.toInt

/-- The values that the domain of a message for so many rows has. -/
def Allows (size : Nat) : Option (List Int64) → Int64 → Prop
  | none, value => 1 ≤ value.toInt ∧ value.toInt ≤ size
  | some values, value => value ∈ values

/-- Rows of cells that a box shape and the overrides of the cells tile. -/
structure HasForm (rows : List (List CellMessage)) (box : BoxShape) : Prop where
  nonempty : 0 < (rows.headD []).length
  lengths : ∀ row ∈ rows, row.length = (rows.headD []).length
  box : box.Tiles rows.length (rows.headD []).length
  widths : ∀ row ∈ rows, ∀ cell ∈ row, ∀ width, cell.width = some width →
    0 < width.toNat ∧ width.toNat ∣ (rows.headD []).length
  heights : ∀ row ∈ rows, ∀ cell ∈ row, ∀ height, cell.height = some height →
    0 < height.toNat ∧ height.toNat ∣ rows.length

/-- A message with all its parts, whose rows have a form, and whose domain has all values
of the cells. -/
def WellFormed (alphabet : Alphabet) (message : GridMessage) : Prop :=
  ∃ rows box, message.HasParts rows box ∧ HasForm rows box ∧
    HasDomain alphabet rows.length message.domain ∧
    ∀ row ∈ rows, ∀ cell ∈ row, ∀ value, cell.value = some value →
      alphabet.Has value.toInt ∧ Allows rows.length message.domain value

end GridMessage

variable {alphabet : Alphabet}

/-! ### Values -/

namespace MessageField

theorem ofSymbol_injective :
    Function.Injective (ofSymbol : Symbol alphabet → Int64) := by
  intro first second same
  apply Symbol.eq_of_value_eq
  rw [← toInt_ofSymbol, same, toInt_ofSymbol]

/-- The numbers of symbols in messages are those that the alphabet has. -/
theorem exists_ofSymbol_iff (value : Int64) :
    (∃ symbol : Symbol alphabet, ofSymbol symbol = value) ↔ alphabet.Has value.toInt := by
  constructor
  · rintro ⟨symbol, rfl⟩
    rw [toInt_ofSymbol]
    exact ⟨symbol.least_le, symbol.le_greatest⟩
  · rintro ⟨least, greatest⟩
    refine ⟨⟨value.toInt, least, greatest⟩, ?_⟩
    rw [← Int64.toInt_inj, toInt_ofSymbol]

end MessageField

/-! ### Domains -/

namespace GridMessage

/-- The domain that a message names, or else the default one for so many rows. -/
def readDomain (size : Nat) : Option (List Int64) → Except Error (Domain alphabet)
  | none => Domain.default size
  | some values => decodeDomain values

/-- A message has a domain for its rows when the conditions on its values hold. -/
theorem exists_readDomain_iff {size : Nat} (positive : 0 < size)
    (listed : Option (List Int64)) :
    (∃ domain : Domain alphabet, readDomain size listed = .ok domain) ↔
      HasDomain alphabet size listed := by
  cases listed with
  | none => exact Domain.exists_default_iff positive
  | some values =>
      simp only [readDomain, HasDomain, decodeDomain_eq_ok_iff,
        Domain.exists_map_listed_eq_iff MessageField.ofSymbol_injective,
        MessageField.exists_ofSymbol_iff]

/-- The domain of a message has the symbols of the values that the message allows. -/
theorem contains_iff_allows {size : Nat} {listed : Option (List Int64)}
    {domain : Domain alphabet} (read : readDomain size listed = .ok domain)
    (symbol : Symbol alphabet) :
    domain.contains symbol = true ↔ Allows size listed (MessageField.ofSymbol symbol) := by
  rw [domain.contains_iff_mem_listed]
  cases listed with
  | none =>
      change _ ↔ 1 ≤ (MessageField.ofSymbol symbol).toInt ∧
        (MessageField.ofSymbol symbol).toInt ≤ size
      rw [MessageField.toInt_ofSymbol, ← Symbol.mem_numbersUpTo,
        ← (Domain.default_eq_ok_iff size domain).1 read,
        List.mem_map_of_injective Symbol.value_injective]
  | some values =>
      change _ ↔ MessageField.ofSymbol symbol ∈ values
      rw [← (decodeDomain_eq_ok_iff values domain).1 read,
        List.mem_map_of_injective MessageField.ofSymbol_injective]

end GridMessage

/-! ### Rows of cells -/

section

variable {first second : Type} {relation : first → second → Prop}

/-- A list is related to another one item by item when each of its items is related to
something. -/
theorem exists_forall₂_iff (items : List first) :
    (∃ others, List.Forall₂ relation items others) ↔
      ∀ item ∈ items, ∃ other, relation item other := by
  induction items with
  | nil => simp
  | cons head rest inductionHypothesis =>
      rw [List.forall_mem_cons, ← inductionHypothesis]
      simp only [List.forall₂_cons_left_iff]
      constructor
      · rintro ⟨_, other, others, headRelated, restRelated, rfl⟩
        exact ⟨⟨other, headRelated⟩, others, restRelated⟩
      · rintro ⟨⟨other, headRelated⟩, others, restRelated⟩
        exact ⟨_, other, others, headRelated, restRelated, rfl⟩

/-- Lists that are related item by item share what related items share. -/
theorem forall_mem_iff_of_forall₂ {items : List first} {others : List second}
    (related : List.Forall₂ relation items others) {holds : first → Prop}
    {otherHolds : second → Prop}
    (same : ∀ item other, relation item other → (holds item ↔ otherHolds other)) :
    (∀ item ∈ items, holds item) ↔ ∀ other ∈ others, otherHolds other := by
  induction related with
  | nil => simp
  | cons headRelated _ inductionHypothesis =>
      rw [List.forall_mem_cons, List.forall_mem_cons, same _ _ headRelated,
        inductionHypothesis]

end

/-- A message denotes some cell when the alphabet has its value. -/
theorem CellMessage.exists_denotes_iff (message : CellMessage) :
    (∃ cell : Cell alphabet, message.Denotes cell) ↔
      ∀ value, message.value = some value → alphabet.Has value.toInt := by
  constructor
  · rintro ⟨cell, denotes⟩ value held
    have same := denotes.value
    rw [held, Option.map_eq_some_iff] at same
    obtain ⟨symbol, _, named⟩ := same
    exact (MessageField.exists_ofSymbol_iff value).1 ⟨symbol, named⟩
  · intro has
    cases held : message.value with
    | none => exact ⟨⟨none, _, _⟩, ⟨held.symm, rfl, rfl⟩⟩
    | some value =>
        obtain ⟨symbol, named⟩ := (MessageField.exists_ofSymbol_iff value).2 (has value held)
        refine ⟨⟨some symbol, _, _⟩, ⟨?_, rfl, rfl⟩⟩
        rw [held, Option.map_some, named]

/-- The overrides of a denoted cell tile a grid when those in the message do. -/
theorem CellMessage.Denotes.overrideFlaw?_eq_none_iff {message : CellMessage}
    {cell : Cell alphabet} (denotes : message.Denotes cell) (rows columns : Nat) :
    Grid.overrideFlaw? rows columns cell = none ↔
      (∀ width, message.width = some width → 0 < width.toNat ∧ width.toNat ∣ columns) ∧
      ∀ height, message.height = some height → 0 < height.toNat ∧ height.toNat ∣ rows := by
  simp only [Grid.overrideFlaw?, Option.or_eq_none_iff, Option.bind_eq_none_iff,
    Grid.widthFlaw?_eq_none_iff, Grid.heightFlaw?_eq_none_iff, ← denotes.width,
    ← denotes.height, Option.map_eq_some_iff, forall_exists_index, and_imp,
    forall_apply_eq_imp_iff₂]

/-- Messages denote rows of cells when each has cells that do. -/
theorem RowMessage.forall₂_denotes_iff (listed : List RowMessage)
    (cells : List (List (Cell alphabet))) :
    List.Forall₂ Denotes listed cells ↔
      ∃ rows, listed = rows.map (fun row => { cells := some row }) ∧
        List.Forall₂ (List.Forall₂ CellMessage.Denotes) rows cells := by
  constructor
  · intro denote
    induction denote with
    | nil => exact ⟨[], rfl, .nil⟩
    | cons headDenotes _ inductionHypothesis =>
        obtain ⟨row, hasCells, headDenotes⟩ := headDenotes
        obtain ⟨rows, rfl, denote⟩ := inductionHypothesis
        refine ⟨row :: rows, ?_, .cons headDenotes denote⟩
        rw [List.map_cons, ← hasCells]
  · rintro ⟨rows, rfl, denote⟩
    rw [List.forall₂_map_left_iff]
    exact denote.imp fun row _ rowDenotes => ⟨row, rfl, rowDenotes⟩

namespace GridMessage

variable {rows : List (List CellMessage)} {cells : List (List (Cell alphabet))}

/-- Rows of messages denote some cells when the alphabet has all their values. -/
theorem exists_denoted_iff (rows : List (List CellMessage)) :
    (∃ cells : List (List (Cell alphabet)),
        List.Forall₂ (List.Forall₂ CellMessage.Denotes) rows cells) ↔
      ∀ row ∈ rows, ∀ cell ∈ row, ∀ value, cell.value = some value →
        alphabet.Has value.toInt := by
  simp only [exists_forall₂_iff, CellMessage.exists_denotes_iff]

/-- The cells that messages denote have no flaw of form when the messages have a form. -/
theorem flaw?_eq_none_iff_hasForm
    (denote : List.Forall₂ (List.Forall₂ CellMessage.Denotes) rows cells) (box : BoxShape) :
    Grid.flaw? cells box = none ↔ HasForm rows box := by
  have height : cells.length = rows.length := denote.length_eq.symm
  have width : (cells.headD []).length = (rows.headD []).length := by
    cases denote with
    | nil => rfl
    | cons headDenotes _ => exact headDenotes.length_eq.symm
  have lengths : (∀ row ∈ rows, row.length = (rows.headD []).length) ↔
      ∀ row ∈ cells, row.length = (rows.headD []).length :=
    forall_mem_iff_of_forall₂ denote fun row other rowDenotes => by
      rw [rowDenotes.length_eq]
  have overrides : (∀ row ∈ rows, ∀ cell ∈ row,
      (∀ width, cell.width = some width →
        0 < width.toNat ∧ width.toNat ∣ (rows.headD []).length) ∧
      ∀ height, cell.height = some height →
        0 < height.toNat ∧ height.toNat ∣ rows.length) ↔
      ∀ row ∈ cells, ∀ cell ∈ row,
        Grid.overrideFlaw? rows.length (rows.headD []).length cell = none :=
    forall_mem_iff_of_forall₂ denote fun row other rowDenotes =>
      forall_mem_iff_of_forall₂ rowDenotes fun message cell denotes =>
        (denotes.overrideFlaw?_eq_none_iff rows.length (rows.headD []).length).symm
  rw [Grid.flaw?_eq_none_iff, height, width, ← lengths, ← overrides]
  constructor
  · rintro ⟨nonempty, lengths, tiles, overrides⟩
    exact ⟨nonempty, lengths, tiles,
      fun row rowMember cell cellMember => (overrides row rowMember cell cellMember).1,
      fun row rowMember cell cellMember => (overrides row rowMember cell cellMember).2⟩
  · intro form
    exact ⟨form.nonempty, form.lengths, form.box, fun row rowMember cell cellMember =>
      ⟨form.widths row rowMember cell cellMember, form.heights row rowMember cell cellMember⟩⟩

/-- The domain that was read has the symbols of all cells when the message allows all
their values. -/
theorem contains_values_iff {size : Nat} {listed : Option (List Int64)}
    {domain : Domain alphabet} (read : readDomain size listed = .ok domain)
    (denote : List.Forall₂ (List.Forall₂ CellMessage.Denotes) rows cells) :
    (∀ row ∈ cells, ∀ cell ∈ row, ∀ symbol, cell.value = some symbol →
        domain.contains symbol = true) ↔
      ∀ row ∈ rows, ∀ cell ∈ row, ∀ value, cell.value = some value →
        Allows size listed value := by
  refine (forall_mem_iff_of_forall₂ denote fun row other rowDenotes =>
    forall_mem_iff_of_forall₂ rowDenotes fun message cell denotes => ?_).symm
  simp only [← denotes.value, Option.map_eq_some_iff, forall_exists_index, and_imp,
    forall_apply_eq_imp_iff₂, contains_iff_allows read]

end GridMessage

/-! ### Grids -/

/-- The values of a grid pass the check when its domain has those of all its rows. -/
theorem Grid.WellFormed.checkValues_eq_ok_iff {grid : Grid alphabet}
    (wellFormed : grid.WellFormed) :
    grid.checkValues = .ok () ↔
      ∀ row ∈ grid.rows, ∀ cell ∈ row, ∀ symbol, cell.value = some symbol →
        grid.domain.contains symbol = true := by
  rw [Board.checkValues_eq_ok_iff grid wellFormed, ← List.forall_mem_flatten,
    flatten_rows wellFormed.cells_size]
  constructor
  · intro inDomain cell member symbol held
    obtain ⟨number, inside, rfl⟩ := List.getElem_of_mem member
    rw [Array.length_toList] at inside
    apply inDomain number symbol
    rw [valueAt, cellAt, Array.getD_eq_getD_getElem?, Array.getElem?_eq_getElem inside]
    exact held
  · intro inDomain number symbol held
    have inside := lt_size_of_valueAt held
    rw [valueAt, cellAt, Array.getD_eq_getD_getElem?, Array.getElem?_eq_getElem inside] at held
    exact inDomain _ (Array.getElem_mem_toList inside) symbol held

/-- A grid is built from rows without a flaw of form and a domain. -/
theorem Grid.exists_build_eq_ok {cells : List (List (Cell alphabet))} {box : BoxShape}
    (sound : flaw? cells box = none) (domain : Domain alphabet) (named : Bool) :
    ∃ grid, build cells box (.ok domain) named = .ok grid :=
  ⟨⟨_, _, _, _, _, _⟩, build_eq_ok_iff.2 ⟨sound, rfl, rfl, rfl, rfl, rfl, rfl⟩⟩

namespace GridMessage

/-- What a message denotes has the domain that is read from the message. -/
theorem Denotes.readDomain_eq {message : GridMessage} {grid : Grid alphabet}
    (denotes : message.Denotes grid) (built : grid.Built) :
    readDomain grid.rows.length message.domain = .ok grid.domain := by
  rw [denotes.domain, Grid.length_rows]
  cases named : grid.explicitDomain with
  | false => exact built.default_domain named
  | true => exact (decodeDomain_eq_ok_iff _ grid.domain).2 rfl

/-- A grid comes of a message with all its parts when its rows, its box shape and its
domain can be built together. -/
theorem HasParts.exists_built {message : GridMessage} {rows : List (List CellMessage)}
    {box : BoxShape} {cells : List (List (Cell alphabet))} {domain : Domain alphabet}
    (parts : message.HasParts rows box)
    (denote : List.Forall₂ (List.Forall₂ CellMessage.Denotes) rows cells)
    (sound : Grid.flaw? cells box = none)
    (read : readDomain cells.length message.domain = .ok domain) :
    ∃ grid : Grid alphabet, message.Denotes grid ∧ grid.Built ∧ grid.rows = cells ∧
      grid.domain = domain := by
  obtain ⟨width, hasWidth, sameWidth⟩ := Option.map_eq_some_iff.1 parts.boxWidth
  obtain ⟨height, hasHeight, sameHeight⟩ := Option.map_eq_some_iff.1 parts.boxHeight
  have rowsDenote := (RowMessage.forall₂_denotes_iff _ cells).2 ⟨rows, rfl, denote⟩
  obtain ⟨boxWidth, boxHeight⟩ := box
  change width.toNat = boxWidth at sameWidth
  change height.toNat = boxHeight at sameHeight
  rw [← sameWidth, ← sameHeight] at sound
  obtain ⟨grid, made⟩ := Grid.exists_build_eq_ok sound domain message.domain.isSome
  obtain ⟨_, _, _, _, _, sameDomain, _⟩ := Grid.build_eq_ok_iff.1 made
  rw [Except.ok.injEq] at sameDomain
  refine ⟨grid, denotes_of_build made parts.rows rowsDenote hasWidth hasHeight ?_, ?_,
    Grid.rows_of_build made, sameDomain.symm⟩
  · cases listed : message.domain with
    | none => rfl
    | some values =>
        rw [listed] at read
        rw [← (decodeDomain_eq_ok_iff values domain).1 read, sameDomain]
        rfl
  · cases listed : message.domain with
    | none =>
        rw [listed] at read made
        have madeOfRows : Grid.ofRows cells ⟨width.toNat, height.toNat⟩ = .ok grid := by
          have default : Domain.default cells.length = .ok domain := read
          rw [Grid.ofRows, default]
          exact made
        exact .ofRows madeOfRows
    | some values =>
        rw [listed] at made
        exact .ofRowsOver made

/-- A message that a grid comes of has all its parts. -/
theorem Denotes.exists_hasParts {message : GridMessage} {grid : Grid alphabet}
    (denotes : message.Denotes grid) :
    ∃ rows, message.HasParts rows grid.box ∧
      List.Forall₂ (List.Forall₂ CellMessage.Denotes) rows grid.rows := by
  obtain ⟨⟨listed, hasRows, rowsDenote⟩, ⟨width, hasWidth, sameWidth⟩,
    ⟨height, hasHeight, sameHeight⟩, _⟩ := denotes
  obtain ⟨rows, rfl, denote⟩ := (RowMessage.forall₂_denotes_iff listed grid.rows).1 rowsDenote
  refine ⟨rows, ⟨hasRows, ?_, ?_⟩, denote⟩
  · rw [hasWidth, Option.map_some, sameWidth]
  · rw [hasHeight, Option.map_some, sameHeight]

/-- A grid comes of a message exactly when the message is well formed. -/
theorem exists_decode_iff (message : GridMessage) :
    (∃ grid : Grid alphabet, message.decode = .ok grid) ↔ message.WellFormed alphabet := by
  simp only [decode_eq_ok_iff]
  constructor
  · -- The conditions are read off the grid that the message denotes.
    rintro ⟨grid, denotes, built, checked⟩
    obtain ⟨rows, parts, denote⟩ := denotes.exists_hasParts
    have wellFormed := built.wellFormed
    have read := denotes.readDomain_eq built
    have positive : 0 < grid.rows.length := by
      rw [Grid.length_rows]
      exact wellFormed.height_pos
    have hasDomain := (exists_readDomain_iff positive message.domain).1 ⟨_, read⟩
    have inDomain := wellFormed.checkValues_eq_ok_iff.1 checked
    have allowed := (contains_values_iff read denote).1 inDomain
    have has := (exists_denoted_iff rows).1 ⟨_, denote⟩
    rw [← denote.length_eq] at hasDomain allowed
    refine ⟨rows, grid.box, parts,
      (flaw?_eq_none_iff_hasForm denote grid.box).1 (Grid.flaw?_rows wellFormed), hasDomain, ?_⟩
    intro row rowMember cell cellMember value held
    exact ⟨has row rowMember cell cellMember value held,
      allowed row rowMember cell cellMember value held⟩
  · -- The conditions give the cells, then the domain, then the grid they are built into.
    rintro ⟨rows, box, parts, form, hasDomain, values⟩
    obtain ⟨cells, denote⟩ : ∃ cells : List (List (Cell alphabet)),
        List.Forall₂ (List.Forall₂ CellMessage.Denotes) rows cells :=
      (exists_denoted_iff rows).2 fun row rowMember cell cellMember value held =>
        (values row rowMember cell cellMember value held).1
    have sound := (flaw?_eq_none_iff_hasForm denote box).2 form
    have height : cells.length = rows.length := denote.length_eq.symm
    have positive : 0 < rows.length := by
      have nonempty := form.nonempty
      cases rows with
      | nil => simp at nonempty
      | cons row others => exact Nat.zero_lt_succ others.length
    obtain ⟨domain, read⟩ := (exists_readDomain_iff positive message.domain).2 hasDomain
    rw [← height] at read
    obtain ⟨grid, denotes, built, rfl, rfl⟩ := parts.exists_built denote sound read
    refine ⟨grid, denotes, built, built.wellFormed.checkValues_eq_ok_iff.2 ?_⟩
    refine (contains_values_iff read denote).2 ?_
    intro row rowMember cell cellMember value held
    rw [height]
    exact (values row rowMember cell cellMember value held).2

/-! ### The first grid to blame -/

/-- Grids come of messages exactly when all of these are well formed. -/
theorem exists_decodeFrom_iff (number : Nat) (messages : List GridMessage) :
    (∃ grids : List (Grid alphabet), decodeFrom number messages = .ok grids) ↔
      ∀ message ∈ messages, message.WellFormed alphabet := by
  induction messages generalizing number with
  | nil => simp [decodeFrom]
  | cons head rest inductionHypothesis =>
      rw [List.forall_mem_cons, ← inductionHypothesis (number + 1), ← exists_decode_iff]
      simp only [decodeFrom, Error.bind_eq_ok_iff, Error.mapError_eq_ok_iff]
      constructor
      · rintro ⟨_, grid, decoded, others, othersDecoded, _⟩
        exact ⟨⟨grid, decoded⟩, others, othersDecoded⟩
      · rintro ⟨⟨grid, decoded⟩, others, othersDecoded⟩
        exact ⟨_, grid, decoded, others, othersDecoded, rfl⟩

/-- After well-formed grids the first one that is not fails the decoding, with its number
in the place of the fault, whatever follows it. -/
theorem decodeFrom_append_cons {earlier : List GridMessage} {message : GridMessage}
    {location : Location} {reason : MalformedReason}
    (wellFormed : ∀ other ∈ earlier, other.WellFormed alphabet)
    (failed : (message.decode : Except Error (Grid alphabet)) =
      .error (.malformed location reason))
    (number : Nat) (later : List GridMessage) :
    (decodeFrom number (earlier ++ message :: later) : Except Error (List (Grid alphabet))) =
      .error (.malformed (location.inGrid (number + earlier.length)) reason) := by
  induction earlier generalizing number with
  | nil =>
      rw [List.nil_append, decodeFrom, failed]
      rfl
  | cons head rest inductionHypothesis =>
      rw [List.forall_mem_cons] at wellFormed
      obtain ⟨grid, decoded⟩ := (exists_decode_iff head).2 wellFormed.1
      rw [List.cons_append, decodeFrom, decoded]
      have restFailed := inductionHypothesis wellFormed.2 (number + 1)
      have count : number + 1 + rest.length = number + (head :: rest).length := by
        rw [List.length_cons]
        omega
      rw [count] at restFailed
      exact congrArg (fun others => others >>= fun others => .ok (grid :: others)) restFailed

/-- A decoding that fails does so on a first grid that is not well formed. -/
theorem exists_of_decodeFrom_eq_error {number : Nat} {messages : List GridMessage}
    {error : Error}
    (failed : (decodeFrom number messages : Except Error (List (Grid alphabet))) =
      .error error) :
    ∃ earlier message later location reason, messages = earlier ++ message :: later ∧
      (∀ other ∈ earlier, other.WellFormed alphabet) ∧
      (message.decode : Except Error (Grid alphabet)) = .error (.malformed location reason) := by
  induction messages generalizing number with
  | nil => simp [decodeFrom] at failed
  | cons head rest inductionHypothesis =>
      cases decoded : (head.decode : Except Error (Grid alphabet)) with
      | error cause =>
          obtain ⟨location, reason, rfl⟩ := head.onlyMalformed_decode cause decoded
          exact ⟨[], head, rest, location, reason, rfl, by simp, decoded⟩
      | ok grid =>
          -- A grid comes of the head, so that the fault lies in the rest.
          rw [decodeFrom, decoded, Error.bind_eq_error_iff] at failed
          simp only [Except.mapError, Error.bind_eq_error_iff, reduceCtorEq, Except.ok.injEq,
            and_false, exists_const, or_false, false_or, exists_eq_left'] at failed
          obtain ⟨earlier, message, later, location, reason, rfl, wellFormed, cause⟩ :=
            inductionHypothesis failed
          refine ⟨head :: earlier, message, later, location, reason, rfl, ?_, cause⟩
          rw [List.forall_mem_cons]
          exact ⟨(exists_decode_iff head).1 ⟨grid, decoded⟩, wellFormed⟩

end GridMessage

namespace GameMessage

/-- Decoding the listed grids fails when one of them does after well-formed ones. -/
theorem decode_append_cons {earlier : List GridMessage} {grid : GridMessage}
    {location : Location} {reason : MalformedReason}
    (wellFormed : ∀ other ∈ earlier, other.WellFormed alphabet)
    (failed : (grid.decode : Except Error (Grid alphabet)) =
      .error (.malformed location reason)) (later : List GridMessage) :
    (decode { grids := some (earlier ++ grid :: later) } : Except Error (Game alphabet)) =
      .error (.malformed (location.inGrid earlier.length) reason) := by
  have gridsFailed := GridMessage.decodeFrom_append_cons wellFormed failed 0 later
  rw [Nat.zero_add] at gridsFailed
  exact congrArg (fun grids => grids >>= fun grids => .ok (Game.mk grids)) gridsFailed

/-- A game comes of a message exactly when its grids are there and well formed. If they
are there and none comes of it, then the first grid that is not well formed is blamed, as
it would be alone but for its number, whatever grids follow it. -/
theorem decode_blames_first (alphabet : Alphabet) (message : GameMessage) :
    ((∃ game : Game alphabet, message.decode = .ok game) ↔
      ∃ grids, message.grids = some grids ∧ ∀ grid ∈ grids, grid.WellFormed alphabet) ∧
    ∀ grids error, message.grids = some grids →
      (message.decode : Except Error (Game alphabet)) = .error error →
      ∃ (earlier : List GridMessage) (grid : GridMessage) (later : List GridMessage)
        (location : Location) (reason : MalformedReason),
        grids = earlier ++ grid :: later ∧
        (∀ other ∈ earlier, other.WellFormed alphabet) ∧ ¬ grid.WellFormed alphabet ∧
        error = .malformed (location.inGrid earlier.length) reason ∧
        (decode { grids := some [grid] } : Except Error (Game alphabet)) =
          .error (.malformed (location.inGrid 0) reason) ∧
        ∀ others, (decode { grids := some (earlier ++ grid :: others) } :
          Except Error (Game alphabet)) = .error error := by
  constructor
  · simp only [decode, Error.bind_eq_ok_iff, MessageField.require_eq_ok_iff,
      ← GridMessage.exists_decodeFrom_iff 0]
    constructor
    · rintro ⟨_, listed, hasGrids, grids, decoded, _⟩
      exact ⟨listed, hasGrids, grids, decoded⟩
    · rintro ⟨listed, hasGrids, grids, decoded⟩
      exact ⟨_, listed, hasGrids, grids, decoded, rfl⟩
  · intro grids error hasGrids failed
    obtain ⟨message⟩ := message
    change message = some grids at hasGrids
    subst hasGrids
    have gridsFailed : (GridMessage.decodeFrom 0 grids : Except Error (List (Grid alphabet))) =
        .error error := by
      simpa [decode, MessageField.require, Error.bind_eq_error_iff] using failed
    obtain ⟨earlier, grid, later, location, reason, rfl, wellFormed, gridFailed⟩ :=
      GridMessage.exists_of_decodeFrom_eq_error gridsFailed
    have illFormed : ¬ grid.WellFormed alphabet := by
      rw [← GridMessage.exists_decode_iff, gridFailed]
      simp
    rw [decode_append_cons wellFormed gridFailed later, Except.error.injEq] at failed
    refine ⟨earlier, grid, later, location, reason, rfl, wellFormed, illFormed, failed.symm,
      ?_, ?_⟩
    · exact decode_append_cons (List.forall_mem_nil _) gridFailed []
    · intro others
      rw [decode_append_cons wellFormed gridFailed others, failed]

/-- The message of a grid of one cell with a value. -/
def point (value : Int64) : GridMessage where
  rows := some [{ cells := some [{ value := some value }] }]
  boxWidth := some 1
  boxHeight := some 1

/-- The only value of one cell is one, so that a cell with two is blamed before all grids
that follow it, be it one that has no parts at all. -/
theorem decode_point_two :
    (decode { grids := some [point 1, point 2, {}] } : Except Error (Game .unsigned8)) =
        .error (.malformed ⟨some 1, some 0, some 0⟩ (.valueOutOfDomain "2")) ∧
      ∀ others, (decode { grids := some (point 1 :: point 2 :: others) } :
          Except Error (Game .unsigned8)) =
        .error (.malformed ⟨some 1, some 0, some 0⟩ (.valueOutOfDomain "2")) := by
  have failed : (decode { grids := some [point 1, point 2, {}] } :
      Except Error (Game .unsigned8)) =
        .error (.malformed ⟨some 1, some 0, some 0⟩ (.valueOutOfDomain "2")) := by
    decide +kernel
  obtain ⟨earlier, grid, later, location, reason, split, _, _, blamed, _, follows⟩ :=
    (decode_blames_first .unsigned8 _).2 _ _ rfl failed
  have number : some 1 = some earlier.length :=
    congrArg Location.grid (Error.malformed.inj blamed).1
  have split : [point 1] ++ [point 2, {}] = earlier ++ grid :: later := split
  obtain ⟨rfl, rest⟩ := List.append_inj split (Option.some.inj number)
  rw [← (List.cons.inj rest).1] at follows
  exact ⟨failed, follows⟩

end GameMessage

end Sudoku
