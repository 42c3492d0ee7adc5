import Sudoku.Message.Encoding
import Sudoku.Proofs.Domain
import Sudoku.Proofs.Error
import Sudoku.Proofs.Grid.Origin
import Sudoku.Proofs.Grid.Rows

/-!
# What messages denote

A message denotes a game when it names the parts of the game one by one. Encoding a
game succeeds with the message that denotes it. Decoding a message succeeds with the
game that it denotes, as long as the grids of that game can be built and their values
lie in their domains.
-/

namespace Sudoku

variable {alphabet : Alphabet}

/-! ### Fields -/

namespace MessageField

theorem require_eq_ok_iff {part : Type} (location : Location) (field : String)
    (held : Option part) (found : part) :
    require location field held = .ok found ↔ held = some found := by
  cases held <;> simp [require]

/-- The number of a symbol is its value. -/
theorem toInt_ofSymbol (symbol : Symbol alphabet) :
    (ofSymbol symbol).toInt = symbol.value := by
  have least := alphabet.le_least
  have greatest := alphabet.greatest_lt
  have above := symbol.least_le
  have below := symbol.le_greatest
  exact Int64.toInt_ofInt_of_le (by omega) (by omega)

/-- A number in a message stands for the symbol that has it. -/
theorem symbol_eq_ok_iff (location : Location) (value : Int64) (symbol : Symbol alphabet) :
    MessageField.symbol location value = .ok symbol ↔ ofSymbol symbol = value := by
  have named : Symbol.ofInt? value.toInt = some symbol ↔ ofSymbol symbol = value := by
    rw [Symbol.ofInt?_eq_some_iff, ← toInt_ofSymbol, Int64.toInt_inj]
  rw [← named, MessageField.symbol]
  cases (Symbol.ofInt? value.toInt : Option (Symbol alphabet)) <;> simp

/-- A box dimension is written as the word of its size. -/
theorem ofDimension_eq_ok_iff (dimension : Nat) (word : UInt32) :
    ofDimension dimension = .ok word ↔ word.toNat = dimension := by
  unfold ofDimension
  split
  · next fits =>
      rw [Except.ok.injEq, ← UInt32.toNat_inj, UInt32.toNat_ofNat_of_lt' fits, eq_comm]
  · next tooWide =>
      have small := word.toNat_lt_size
      simp only [reduceCtorEq, false_iff]
      omega

end MessageField

/-! ### Denotation -/

/-- A message has the value and the overrides of a cell. -/
structure CellMessage.Denotes (message : CellMessage) (cell : Cell alphabet) : Prop where
  value : cell.value.map MessageField.ofSymbol = message.value
  width : message.width.map UInt32.toNat = cell.boxWidth
  height : message.height.map UInt32.toNat = cell.boxHeight

/-- A message lists the cells of a row. -/
def RowMessage.Denotes (message : RowMessage) (cells : List (Cell alphabet)) : Prop :=
  ∃ listed, message.cells = some listed ∧ List.Forall₂ CellMessage.Denotes listed cells

/-- A message has the rows, the default box shape and the domain of a grid, the domain
as it was listed and only where the grid names one. -/
structure GridMessage.Denotes (message : GridMessage) (grid : Grid alphabet) : Prop where
  rows : ∃ listed, message.rows = some listed ∧
    List.Forall₂ RowMessage.Denotes listed grid.rows
  boxWidth : ∃ width, message.boxWidth = some width ∧ width.toNat = grid.box.width
  boxHeight : ∃ height, message.boxHeight = some height ∧ height.toNat = grid.box.height
  domain : message.domain =
    if grid.explicitDomain then some (grid.domain.listed.map MessageField.ofSymbol) else none

/-- A message lists the grids of a game. -/
def GameMessage.Denotes (message : GameMessage) (game : Game alphabet) : Prop :=
  ∃ listed, message.grids = some listed ∧ List.Forall₂ GridMessage.Denotes listed game.grids

/-! ### Encoding -/

/-- A cell is encoded as the message that denotes it. -/
theorem Cell.encode_eq_ok_iff (cell : Cell alphabet) (message : CellMessage) :
    cell.encode = .ok message ↔ message.Denotes cell := by
  simp only [encode, Error.bind_eq_ok_iff,
    Error.optionMapM_eq_ok_iff_map MessageField.ofDimension_eq_ok_iff]
  constructor
  · rintro ⟨width, widthWritten, height, heightWritten, made⟩
    rw [← Except.ok.inj made]
    exact ⟨rfl, widthWritten, heightWritten⟩
  · rintro ⟨value, width, height⟩
    exact ⟨message.width, width, message.height, height, by rw [value]⟩

/-- A row is encoded as the message that denotes it. -/
theorem Grid.encodeRow_eq_ok_iff (cells : List (Cell alphabet)) (message : RowMessage) :
    encodeRow cells = .ok message ↔ message.Denotes cells := by
  simp only [encodeRow, Error.bind_eq_ok_iff, Error.mapM_eq_ok_iff Cell.encode_eq_ok_iff]
  constructor
  · rintro ⟨listed, denotes, made⟩
    rw [← Except.ok.inj made]
    exact ⟨listed, rfl, denotes⟩
  · rintro ⟨listed, cells, denotes⟩
    exact ⟨listed, denotes, by rw [← cells]⟩

/-- A grid is encoded as the message that denotes it. -/
theorem Grid.encode_eq_ok_iff (grid : Grid alphabet) (message : GridMessage) :
    grid.encode = .ok message ↔ message.Denotes grid := by
  simp only [encode, Error.bind_eq_ok_iff, Error.mapM_eq_ok_iff encodeRow_eq_ok_iff,
    MessageField.ofDimension_eq_ok_iff]
  constructor
  · rintro ⟨listed, denotes, width, widthWritten, height, heightWritten, made⟩
    rw [← Except.ok.inj made]
    exact ⟨⟨listed, rfl, denotes⟩, ⟨width, rfl, widthWritten⟩, ⟨height, rfl, heightWritten⟩,
      rfl⟩
  · rintro ⟨⟨listed, rows, denotes⟩, ⟨width, hasWidth, widthWritten⟩,
      ⟨height, hasHeight, heightWritten⟩, domain⟩
    exact ⟨listed, denotes, width, widthWritten, height, heightWritten, by
      rw [← rows, ← hasWidth, ← hasHeight, ← domain]⟩

/-- A game is encoded as the message that denotes it. -/
theorem Game.encode_eq_ok_iff (game : Game alphabet) (message : GameMessage) :
    game.encode = .ok message ↔ message.Denotes game := by
  simp only [encode, Error.bind_eq_ok_iff, Error.mapM_eq_ok_iff Grid.encode_eq_ok_iff]
  constructor
  · rintro ⟨listed, denotes, made⟩
    rw [← Except.ok.inj made]
    exact ⟨listed, rfl, denotes⟩
  · rintro ⟨listed, grids, denotes⟩
    exact ⟨listed, denotes, by rw [← grids]⟩

/-! ### Decoding -/

namespace CellMessage

/-- A message is decoded into the cell that it denotes, if the alphabet has one. -/
theorem decode_eq_ok_iff (location : Location) (message : CellMessage)
    (cell : Cell alphabet) :
    message.decode location = .ok cell ↔ message.Denotes cell := by
  simp only [decode, Error.bind_eq_ok_iff,
    Error.optionMapM_eq_ok_iff_map (MessageField.symbol_eq_ok_iff location)]
  constructor
  · rintro ⟨value, valueRead, made⟩
    rw [← Except.ok.inj made]
    exact ⟨valueRead, rfl, rfl⟩
  · rintro ⟨value, width, height⟩
    exact ⟨cell.value, value, by rw [width, height]⟩

/-- Messages are decoded into the cells that they denote. -/
theorem decodeFrom_eq_ok_iff (row column : Nat) (messages : List CellMessage)
    (cells : List (Cell alphabet)) :
    decodeFrom row column messages = .ok cells ↔ List.Forall₂ Denotes messages cells := by
  induction messages generalizing column cells with
  | nil => cases cells <;> simp [decodeFrom]
  | cons message rest inductionHypothesis =>
      simp only [decodeFrom, Error.bind_eq_ok_iff, decode_eq_ok_iff, inductionHypothesis]
      cases cells <;> simp

end CellMessage

/-- Messages are decoded into the rows that they denote. -/
theorem RowMessage.decodeFrom_eq_ok_iff (row : Nat) (messages : List RowMessage)
    (rows : List (List (Cell alphabet))) :
    decodeFrom row messages = .ok rows ↔ List.Forall₂ Denotes messages rows := by
  induction messages generalizing row rows with
  | nil => cases rows <;> simp [decodeFrom]
  | cons message rest inductionHypothesis =>
      simp only [decodeFrom, Error.bind_eq_ok_iff, MessageField.require_eq_ok_iff,
        CellMessage.decodeFrom_eq_ok_iff, inductionHypothesis]
      cases rows with
      | nil => simp
      | cons cells others =>
          rw [List.forall₂_cons]
          constructor
          · rintro ⟨listed, hasCells, found, denotes, others, othersDenote, made⟩
            simp only [Except.ok.injEq, List.cons.injEq] at made
            rw [← made.1, ← made.2]
            exact ⟨⟨listed, hasCells, denotes⟩, othersDenote⟩
          · rintro ⟨⟨listed, hasCells, denotes⟩, othersDenote⟩
            exact ⟨listed, hasCells, cells, denotes, others, othersDenote, rfl⟩

namespace GridMessage

/-- Listed values are decoded into the domain that lists their symbols. -/
theorem decodeDomain_eq_ok_iff (values : List Int64) (domain : Domain alphabet) :
    decodeDomain values = .ok domain ↔ domain.listed.map MessageField.ofSymbol = values := by
  simp only [decodeDomain, Error.bind_eq_ok_iff, Domain.ofList_eq_ok_iff,
    Error.mapM_eq_ok_iff_map (MessageField.symbol_eq_ok_iff .unknown)]
  constructor
  · rintro ⟨listed, read, same⟩
    rwa [same]
  · intro read
    exact ⟨domain.listed, read, rfl⟩

/-- A message denotes what its rows, box shape and domain are built into. -/
theorem denotes_of_build {message : GridMessage} {listed : List RowMessage}
    {width height : UInt32} {rows : List (List (Cell alphabet))}
    {domain : Except Error (Domain alphabet)} {named : Bool} {grid : Grid alphabet}
    (made : Grid.build rows ⟨width.toNat, height.toNat⟩ domain named = .ok grid)
    (hasRows : message.rows = some listed) (denotes : List.Forall₂ RowMessage.Denotes listed rows)
    (hasWidth : message.boxWidth = some width) (hasHeight : message.boxHeight = some height)
    (hasDomain : message.domain =
      if named then some (grid.domain.listed.map MessageField.ofSymbol) else none) :
    message.Denotes grid := by
  obtain ⟨_, _, _, _, box, _, explicitDomain⟩ := Grid.build_eq_ok_iff.1 made
  refine ⟨⟨listed, hasRows, ?_⟩, ⟨width, hasWidth, ?_⟩, ⟨height, hasHeight, ?_⟩, ?_⟩
  · rwa [Grid.rows_of_build made]
  · rw [box]
  · rw [box]
  · rw [hasDomain, explicitDomain]

/-- A message that denotes a built grid is decoded into it, once the values are checked. -/
theorem Denotes.decode_eq {message : GridMessage} {grid : Grid alphabet}
    (denotes : message.Denotes grid) (built : grid.Built) :
    message.decode = grid.checkValues.map fun _ => grid := by
  obtain ⟨⟨listed, hasRows, denoteRows⟩, ⟨width, hasWidth, sameWidth⟩,
    ⟨height, hasHeight, sameHeight⟩, domain⟩ := denotes
  have rowsRead := (RowMessage.decodeFrom_eq_ok_iff 0 listed grid.rows).2 denoteRows
  unfold decode
  rw [hasRows, hasWidth, hasHeight, domain]
  -- No check of a building looks at values, so a built grid can be built again.
  cases named : grid.explicitDomain with
  | false =>
      simp only [MessageField.require, rowsRead, sameWidth, sameHeight, built.ofRows_rows named,
        Bool.false_eq_true, if_false, bind, Except.bind]
      cases grid.checkValues <;> rfl
  | true =>
      have domainRead := (decodeDomain_eq_ok_iff _ grid.domain).2 rfl
      simp only [MessageField.require, rowsRead, sameWidth, sameHeight, domainRead,
        built.ofRowsOver_rows named, if_true, bind, Except.bind]
      cases grid.checkValues <;> rfl

/-- A message is decoded into the grid that it denotes, if that can be built and has its
values in its domain. -/
theorem decode_eq_ok_iff (message : GridMessage) (grid : Grid alphabet) :
    message.decode = .ok grid ↔
      message.Denotes grid ∧ grid.Built ∧ grid.checkValues = .ok () := by
  constructor
  · intro decoded
    have built := built_of_decode decoded
    simp only [decode, Error.bind_eq_ok_iff, MessageField.require_eq_ok_iff,
      RowMessage.decodeFrom_eq_ok_iff] at decoded
    obtain ⟨listed, hasRows, width, hasWidth, height, hasHeight, rows, denotes, decoded⟩ :=
      decoded
    -- What was read so far is built over the default domain or over a listed one.
    cases hasDomain : message.domain with
    | none =>
        simp only [hasDomain, Error.bind_eq_ok_iff] at decoded
        obtain ⟨found, made, _, checked, same⟩ := decoded
        rw [Except.ok.injEq] at same
        rw [same] at made checked
        exact ⟨denotes_of_build made hasRows denotes hasWidth hasHeight hasDomain, built,
          checked⟩
    | some values =>
        simp only [hasDomain, Error.bind_eq_ok_iff, decodeDomain_eq_ok_iff] at decoded
        obtain ⟨domain, domainRead, found, made, _, checked, same⟩ := decoded
        rw [Except.ok.injEq] at same
        rw [same] at made checked
        obtain ⟨_, _, _, _, _, sameDomain, _⟩ := Grid.build_eq_ok_iff.1 made
        rw [← domainRead, Except.ok.inj sameDomain] at hasDomain
        exact ⟨denotes_of_build made hasRows denotes hasWidth hasHeight hasDomain, built,
          checked⟩
  · rintro ⟨denotes, built, checked⟩
    rw [denotes.decode_eq built, checked]
    rfl

/-- Messages are decoded into the grids that they denote, under the same conditions. -/
theorem decodeFrom_eq_ok_iff (number : Nat) (messages : List GridMessage)
    (grids : List (Grid alphabet)) :
    decodeFrom number messages = .ok grids ↔
      List.Forall₂ Denotes messages grids ∧
        ∀ grid ∈ grids, grid.Built ∧ grid.checkValues = .ok () := by
  induction messages generalizing number grids with
  | nil => cases grids <;> simp [decodeFrom]
  | cons message rest inductionHypothesis =>
      simp only [decodeFrom, Error.bind_eq_ok_iff, Error.mapError_eq_ok_iff, decode_eq_ok_iff,
        inductionHypothesis]
      cases grids with
      | nil => simp
      | cons grid others =>
          simp only [Except.ok.injEq, List.cons.injEq, List.forall₂_cons,
            List.forall_mem_cons]
          constructor
          · rintro ⟨_, ⟨denotes, sound⟩, _, ⟨othersDenote, othersSound⟩, rfl, rfl⟩
            exact ⟨⟨denotes, othersDenote⟩, sound, othersSound⟩
          · rintro ⟨⟨denotes, othersDenote⟩, sound, othersSound⟩
            exact ⟨grid, ⟨denotes, sound⟩, others, ⟨othersDenote, othersSound⟩, rfl, rfl⟩

end GridMessage

/-- A message is decoded into the game that it denotes, if its grids can be built and
have their values in their domains. -/
theorem GameMessage.decode_eq_ok_iff (message : GameMessage) (game : Game alphabet) :
    message.decode = .ok game ↔
      message.Denotes game ∧ ∀ grid ∈ game.grids, grid.Built ∧ grid.checkValues = .ok () := by
  simp only [decode, Error.bind_eq_ok_iff, MessageField.require_eq_ok_iff,
    GridMessage.decodeFrom_eq_ok_iff]
  constructor
  · rintro ⟨listed, hasGrids, grids, ⟨denotes, sound⟩, made⟩
    rw [← Except.ok.inj made]
    exact ⟨⟨listed, hasGrids, denotes⟩, sound⟩
  · rintro ⟨⟨listed, hasGrids, denotes⟩, sound⟩
    exact ⟨listed, hasGrids, game.grids, ⟨denotes, sound⟩, rfl⟩

end Sudoku
