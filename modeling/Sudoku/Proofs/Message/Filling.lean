import Sudoku.Proofs.Grid.Completion
import Sudoku.Proofs.Message.Denotation

/-!
# Filling in a message

The message of a completion is the message of its grid with the blanks filled in: it
has the same overrides, box shape and domain, keeps every value, and has a value in
every cell.
-/

namespace Sudoku

variable {alphabet : Alphabet}

/-! ### Filled messages -/

/-- A cell has the overrides of the given one, keeps its value, and has one. -/
structure CellMessage.Fills (filled given : CellMessage) : Prop where
  width_eq : filled.width = given.width
  height_eq : filled.height = given.height
  keeps : ∀ value, given.value = some value → filled.value = some value
  full : filled.value.isSome = true

/-- A row has as many cells as the given one, and fills it cell by cell. -/
def RowMessage.Fills (filled given : RowMessage) : Prop :=
  ∃ filledCells givenCells, filled.cells = some filledCells ∧ given.cells = some givenCells ∧
    List.Forall₂ CellMessage.Fills filledCells givenCells

/-- A grid has the box shape and the domain of the given one, as many rows, and fills it
row by row. -/
structure GridMessage.Fills (filled given : GridMessage) : Prop where
  boxWidth_eq : filled.boxWidth = given.boxWidth
  boxHeight_eq : filled.boxHeight = given.boxHeight
  domain_eq : filled.domain = given.domain
  rows : ∃ filledRows givenRows, filled.rows = some filledRows ∧ given.rows = some givenRows ∧
    List.Forall₂ RowMessage.Fills filledRows givenRows

/-- A game has as many grids as the given one, and fills it grid by grid. -/
def GameMessage.Fills (filled given : GameMessage) : Prop :=
  ∃ filledGrids givenGrids, filled.grids = some filledGrids ∧ given.grids = some givenGrids ∧
    List.Forall₂ GridMessage.Fills filledGrids givenGrids

/-! ### Filled cells -/

/-- A cell has the overrides of the given one, keeps its value, and has one. -/
structure Cell.Fills (filled given : Cell alphabet) : Prop where
  boxWidth_eq : filled.boxWidth = given.boxWidth
  boxHeight_eq : filled.boxHeight = given.boxHeight
  keeps : ∀ symbol, given.value = some symbol → filled.value = some symbol
  full : filled.value.isSome = true

/-- The rows of a completion fill those of the grid. -/
theorem Grid.IsCompletion.fills_rows {grid solution : Grid alphabet}
    (completes : grid.IsCompletion solution) :
    List.Forall₂ (List.Forall₂ Cell.Fills) solution.rows grid.rows := by
  have frames := completes.frame_eq
  apply forall₂_rows (height_eq_of_frame_eq frames) (width_eq_of_frame_eq frames)
  intro number inside
  have overrides := withoutValue_eq_of_frame_eq frames number
  simp only [Cell.mk.injEq, true_and] at overrides
  exact ⟨overrides.1, overrides.2, completes.keeps number,
    (isFull_iff solution).1 completes.full number inside⟩

/-! ### The message of a completion -/

/-- What can be found item by item for related lists can be found for the lists. -/
private theorem exists_forall₂ {message item : Type} {denotes : message → item → Prop}
    {fills : item → item → Prop} {fillsMessage : message → message → Prop}
    {messages : List message} {items filledItems : List item}
    (allDenote : List.Forall₂ denotes messages items)
    (allFill : List.Forall₂ fills filledItems items)
    (exists_fills : ∀ given item filled, denotes given item → fills filled item →
      ∃ response, denotes response filled ∧ fillsMessage response given) :
    ∃ responses, List.Forall₂ denotes responses filledItems ∧
      List.Forall₂ fillsMessage responses messages := by
  induction allDenote generalizing filledItems with
  | nil =>
      cases allFill
      exact ⟨[], .nil, .nil⟩
  | cons denotesHead _ inductionHypothesis =>
      cases allFill with
      | cons fillsHead fillsRest =>
          obtain ⟨response, denotesResponse, fillsResponse⟩ :=
            exists_fills _ _ _ denotesHead fillsHead
          obtain ⟨responses, denoteResponses, fillResponses⟩ := inductionHypothesis fillsRest
          exact ⟨response :: responses, .cons denotesResponse denoteResponses,
            .cons fillsResponse fillResponses⟩

/-- The message of a filled cell fills the message of the cell. -/
theorem CellMessage.Denotes.exists_fills {message : CellMessage} {cell filled : Cell alphabet}
    (denotes : message.Denotes cell) (fills : filled.Fills cell) :
    ∃ response : CellMessage, response.Denotes filled ∧ response.Fills message := by
  refine ⟨{ message with value := filled.value.map MessageField.ofSymbol },
    ⟨rfl, ?_, ?_⟩, ⟨rfl, rfl, ?_, ?_⟩⟩
  · rw [fills.boxWidth_eq]
    exact denotes.width
  · rw [fills.boxHeight_eq]
    exact denotes.height
  · intro value held
    rw [← denotes.value, Option.map_eq_some_iff] at held
    obtain ⟨symbol, cellHolds, rfl⟩ := held
    rw [fills.keeps symbol cellHolds]
    rfl
  · rw [Option.isSome_map]
    exact fills.full

/-- The message of a filled row fills the message of the row. -/
theorem RowMessage.Denotes.exists_fills {message : RowMessage}
    {cells filled : List (Cell alphabet)} (denotes : message.Denotes cells)
    (fills : List.Forall₂ Cell.Fills filled cells) :
    ∃ response : RowMessage, response.Denotes filled ∧ response.Fills message := by
  obtain ⟨listed, hasCells, denotes⟩ := denotes
  obtain ⟨responses, denoteResponses, fillResponses⟩ :=
    exists_forall₂ denotes fills fun _ _ _ => CellMessage.Denotes.exists_fills
  exact ⟨{ cells := some responses }, ⟨responses, rfl, denoteResponses⟩,
    ⟨responses, listed, rfl, hasCells, fillResponses⟩⟩

/-- The message of a completion fills the message of the grid. -/
theorem GridMessage.Denotes.exists_fills {message : GridMessage}
    {grid solution : Grid alphabet} (denotes : message.Denotes grid)
    (completes : grid.IsCompletion solution) :
    ∃ response : GridMessage, response.Denotes solution ∧ response.Fills message := by
  have frames := completes.frame_eq
  have boxes : solution.box = grid.box := congrArg (fun grid => grid.box) frames
  have names : solution.explicitDomain = grid.explicitDomain :=
    congrArg (fun grid => grid.explicitDomain) frames
  obtain ⟨listed, hasRows, denoteRows⟩ := denotes.rows
  obtain ⟨responses, denoteResponses, fillResponses⟩ :=
    exists_forall₂ denoteRows completes.fills_rows fun _ _ _ => RowMessage.Denotes.exists_fills
  refine ⟨{ message with rows := some responses },
    ⟨⟨responses, rfl, denoteResponses⟩, ?_, ?_, ?_⟩,
    ⟨rfl, rfl, rfl, responses, listed, rfl, hasRows, fillResponses⟩⟩
  · rw [boxes]
    exact denotes.boxWidth
  · rw [boxes]
    exact denotes.boxHeight
  · rw [names, Grid.domain_eq_of_frame_eq frames]
    exact denotes.domain

/-- The message of a game of completions fills the message of the game. -/
theorem GameMessage.Denotes.exists_fills {message : GameMessage} {game : Game alphabet}
    {solutions : List (Grid alphabet)} (denotes : message.Denotes game)
    (complete : List.Forall₂ (fun solution grid => grid.IsCompletion solution) solutions
      game.grids) :
    ∃ response : GameMessage, response.Denotes ⟨solutions⟩ ∧ response.Fills message := by
  obtain ⟨listed, hasGrids, denoteGrids⟩ := denotes
  obtain ⟨responses, denoteResponses, fillResponses⟩ :=
    exists_forall₂ denoteGrids complete fun _ _ _ => GridMessage.Denotes.exists_fills
  exact ⟨{ grids := some responses }, ⟨responses, rfl, denoteResponses⟩,
    ⟨responses, listed, rfl, hasGrids, fillResponses⟩⟩

end Sudoku
