import Sudoku.Proofs.Game
import Sudoku.Proofs.Grid.Completion
import Sudoku.Proofs.Message.Denotation

/-!
# Round trips

What a message is decoded into is encoded as that message again. What a game is encoded
as is decoded into that game again, except that decoding turns away the values which lie
outside their domain. Encoding itself fails on the box dimensions that a message has no
room for, and on nothing else.
-/

namespace Sudoku

variable {alphabet : Alphabet}

/-! ### Wide dimensions -/

/-- A cell overrides a dimension of its box by the given one. -/
def Cell.NamesDimension (cell : Cell alphabet) (dimension : Nat) : Prop :=
  cell.boxWidth = some dimension ∨ cell.boxHeight = some dimension

/-- A grid has a dimension as a default, or as an override of a cell. -/
def Grid.NamesDimension (grid : Grid alphabet) (dimension : Nat) : Prop :=
  grid.box.width = dimension ∨ grid.box.height = dimension ∨
    ∃ row ∈ grid.rows, ∃ cell ∈ row, cell.NamesDimension dimension

/-- A dimension is named by one of the grids of a game. -/
def Game.NamesDimension (game : Game alphabet) (dimension : Nat) : Prop :=
  ∃ grid ∈ game.grids, grid.NamesDimension dimension

/-- The error for a dimension, among the given ones, that does not fit a message. -/
def Error.IsTooWide (names : Nat → Prop) (error : Error) : Prop :=
  ∃ dimension, names dimension ∧ UInt32.size ≤ dimension ∧
    error = .internal (.wideBoxDimension dimension)

open Error (FailsOn IsTooWide)

/-- A dimension is not encoded exactly when it is too wide. -/
theorem MessageField.failsOn_ofDimension (dimension : Nat) :
    FailsOn (IsTooWide fun named => named = dimension) (ofDimension dimension) := by
  unfold ofDimension
  split
  · next fits =>
      refine (FailsOn.of_ok _).congr fun error => ?_
      simp only [false_iff]
      rintro ⟨_, rfl, wide, _⟩
      exact absurd fits (Nat.not_lt_of_le wide)
  · next wide =>
      refine ⟨?_, fun _ _ => ⟨_, rfl⟩⟩
      intro error failed
      exact ⟨dimension, rfl, Nat.le_of_not_lt wide, (Except.error.inj failed).symm⟩

/-- A cell is not encoded exactly when it overrides a dimension by one that is too wide. -/
theorem Cell.failsOn_encode (cell : Cell alphabet) :
    FailsOn (IsTooWide cell.NamesDimension) cell.encode := by
  refine ((FailsOn.optionMapM MessageField.failsOn_ofDimension cell.boxWidth).bind fun _ =>
    (FailsOn.optionMapM MessageField.failsOn_ofDimension cell.boxHeight).bind fun _ =>
      FailsOn.of_ok _).congr fun error => ?_
  simp only [IsTooWide, NamesDimension]
  grind

/-- A row is not encoded exactly when one of its cells is not. -/
theorem Grid.failsOn_encodeRow (cells : List (Cell alphabet)) :
    FailsOn (fun error => ∃ cell ∈ cells, IsTooWide cell.NamesDimension error)
      (encodeRow cells) := by
  refine ((FailsOn.mapM Cell.failsOn_encode cells).bind fun _ => FailsOn.of_ok _).congr ?_
  simp

/-- A grid is not encoded exactly when it has a dimension that is too wide. -/
theorem Grid.failsOn_encode (grid : Grid alphabet) :
    FailsOn (IsTooWide grid.NamesDimension) grid.encode := by
  refine ((FailsOn.mapM failsOn_encodeRow grid.rows).bind fun _ =>
    (MessageField.failsOn_ofDimension grid.box.width).bind fun _ =>
      (MessageField.failsOn_ofDimension grid.box.height).bind fun _ =>
        FailsOn.of_ok _).congr fun error => ?_
  simp only [IsTooWide, NamesDimension]
  grind

/-- A game is not encoded exactly when it has a dimension that is too wide. -/
theorem Game.failsOn_encode (game : Game alphabet) :
    FailsOn (IsTooWide game.NamesDimension) game.encode := by
  refine ((FailsOn.mapM Grid.failsOn_encode game.grids).bind fun _ =>
    FailsOn.of_ok _).congr fun error => ?_
  simp only [IsTooWide, NamesDimension]
  grind

/-! ### Decoding what was encoded -/

/-- The messages of built grids are decoded by checking the values of each in turn. -/
theorem GridMessage.decodeFrom_eq_traverseFrom {messages : List GridMessage}
    {grids : List (Grid alphabet)} (denote : List.Forall₂ Denotes messages grids)
    (built : ∀ grid ∈ grids, grid.Built) (number : Nat) :
    decodeFrom number messages =
      Game.traverseFrom (fun _ grid => grid.checkValues.map fun _ => grid) number grids := by
  induction denote generalizing number with
  | nil => rfl
  | cons denotes _ inductionHypothesis =>
      obtain ⟨headBuilt, restBuilt⟩ := List.forall_mem_cons.1 built
      rw [decodeFrom, Game.traverseFrom, denotes.decode_eq headBuilt,
        inductionHypothesis restBuilt]

/-- A message that denotes a game of built grids is decoded by checking their values. -/
theorem GameMessage.Denotes.decode_eq {message : GameMessage} {game : Game alphabet}
    (denotes : message.Denotes game) (built : ∀ grid ∈ game.grids, grid.Built) :
    message.decode =
      (Game.traverseFrom (fun _ grid => grid.checkValues.map fun _ => grid) 0 game.grids).map
        Game.mk := by
  obtain ⟨listed, hasGrids, denoteGrids⟩ := denotes
  unfold decode
  rw [hasGrids]
  simp only [MessageField.require, GridMessage.decodeFrom_eq_traverseFrom denoteGrids built,
    bind, Except.bind]
  cases Game.traverseFrom _ 0 game.grids <;> rfl

/-- A game of built grids is encoded unless it has a box dimension that is too wide for a
message, which is then reported as an internal fault. The message is decoded into the
game, if every value lies in its domain, and else fails with what the check of the values
says of the first grid that does not pass it. -/
theorem Game.decode_encode {game : Game alphabet} (built : ∀ grid ∈ game.grids, grid.Built) :
    ((∃ error, game.encode = .error error) ↔
      ∃ dimension, game.NamesDimension dimension ∧ UInt32.size ≤ dimension) ∧
    (∀ error, game.encode = .error error → ∃ dimension, game.NamesDimension dimension ∧
      UInt32.size ≤ dimension ∧ error = .internal (.wideBoxDimension dimension)) ∧
    ∀ message, game.encode = .ok message →
      ((∀ grid ∈ game.grids, grid.checkValues = .ok ()) → message.decode = .ok game) ∧
      ((∃ grid ∈ game.grids, grid.checkValues ≠ .ok ()) → ∃ number grid error,
        game.IsFirst (fun grid => grid.checkValues ≠ .ok ()) number grid ∧
        grid.checkValues = .error error ∧
        (message.decode : Except Error (Game alphabet)) = .error (error.inGrid number)) := by
  have fails := game.failsOn_encode
  refine ⟨⟨?_, ?_⟩, fails.sound, ?_⟩
  · rintro ⟨error, failed⟩
    obtain ⟨dimension, named, wide, _⟩ := fails.sound error failed
    exact ⟨dimension, named, wide⟩
  · rintro ⟨dimension, named, wide⟩
    exact fails.complete _ ⟨dimension, named, wide, rfl⟩
  intro message encoded
  have denotes := (encode_eq_ok_iff game message).1 encoded
  constructor
  · intro checked
    rw [GameMessage.decode_eq_ok_iff]
    exact ⟨denotes, fun grid member => ⟨built grid member, checked grid member⟩⟩
  · intro flawed
    obtain ⟨number, grid, isFirst⟩ := exists_isFirst flawed
    cases failed : grid.checkValues with
    | ok nothing => exact absurd failed isFirst.1
    | error error =>
        refine ⟨number, grid, error, isFirst, failed, ?_⟩
        rw [denotes.decode_eq built, isFirst.traverseFrom_eq_error]
        · rfl
        · intro _ other _ passes
          rw [not_not.1 passes]
          exact ⟨other, rfl⟩
        · rw [failed]
          rfl

/-- A symbol that is not in the domain of the band. -/
def Grid.stray : Symbol .unsigned8 :=
  ⟨9, by decide, by decide⟩

/-- The band with a symbol of its domain and one that is not. -/
def Grid.strayBand : Grid .unsigned8 :=
  band (some one) none none (some stray)

/-- The bands without and with a stray value are encoded, but decoding stops at the stray
value. -/
theorem Game.decode_encode_strayBand :
    ∃ message, Game.encode ⟨[Grid.openBand, Grid.strayBand]⟩ = .ok message ∧
      (message.decode : Except Error (Game .unsigned8)) =
        .error (.malformed ⟨some 1, some 1, some 2⟩ (.valueOutOfDomain "9")) := by
  have built : ∀ grid ∈ [Grid.openBand, Grid.strayBand], grid.Built := by
    have strayBandBuilt : Grid.strayBand.Built :=
      Grid.built_openBand.of_frame_eq (by decide +kernel)
    simp [Grid.built_openBand, strayBandBuilt]
  have passes : Grid.openBand.checkValues = .ok () := by decide +kernel
  have fails : Grid.strayBand.checkValues =
      .error (.malformed (.ofPosition ⟨1, 2⟩) (.valueOutOfDomain "9")) := by
    decide +kernel
  have strayFirst : (⟨[Grid.openBand, Grid.strayBand]⟩ : Game .unsigned8).IsFirst
      (fun grid => grid.checkValues ≠ .ok ()) 1 Grid.strayBand :=
    ⟨by simp [fails], [Grid.openBand], [], rfl, rfl, by simp [passes]⟩
  obtain ⟨_, _, decodes⟩ :=
    @decode_encode _ ⟨[Grid.openBand, Grid.strayBand]⟩ built
  cases encoded : Game.encode ⟨[Grid.openBand, Grid.strayBand]⟩ with
  | error error =>
      have succeeds :
          (Game.encode ⟨[Grid.openBand, Grid.strayBand]⟩).isOk = true := by
        decide +kernel
      rw [encoded] at succeeds
      simp [Except.isOk, Except.toBool] at succeeds
  | ok message =>
      refine ⟨message, rfl, ?_⟩
      obtain ⟨number, grid, error, isFirst, failed, decoded⟩ :=
        (decodes message encoded).2 ⟨_, strayFirst.mem, strayFirst.1⟩
      obtain ⟨rfl, rfl⟩ := isFirst.unique strayFirst
      rw [fails, Except.error.injEq] at failed
      rw [decoded, ← failed]
      rfl

/-! ### Encoding what was decoded -/

/-- What a message is decoded into is encoded as that message, so that no two messages are
decoded into one game. -/
theorem GameMessage.encode_decode :
    (∀ (message : GameMessage) (game : Game alphabet),
      message.decode = .ok game → game.encode = .ok message) ∧
    ∀ (first second : GameMessage) (game : Game alphabet),
      first.decode = .ok game → second.decode = .ok game → first = second := by
  have encodes (message : GameMessage) (game : Game alphabet)
      (decoded : message.decode = .ok game) : game.encode = .ok message :=
    (game.encode_eq_ok_iff message).2 ((message.decode_eq_ok_iff game).1 decoded).1
  refine ⟨encodes, ?_⟩
  intro first second game firstDecoded secondDecoded
  have same := encodes first game firstDecoded
  rw [encodes second game secondDecoded] at same
  exact (Except.ok.inj same).symm

/-- A grid whose cells override both dimensions of their boxes, one of them, or none, over
a domain that is not listed in ascending order. -/
def Grid.mixedSquare : Grid .signed8 where
  height := 2
  width := 2
  cells := #[{ value := some ⟨7, by decide, by decide⟩ }, { boxWidth := some 2 },
    { boxHeight := some 1 },
    { value := some ⟨-1, by decide, by decide⟩, boxWidth := some 2, boxHeight := some 1 }]
  box := ⟨2, 2⟩
  domain := {
    listed := [⟨7, by decide, by decide⟩, ⟨-1, by decide, by decide⟩]
    values := #[⟨-1, by decide, by decide⟩, ⟨7, by decide, by decide⟩]
    perm := .swap _ _ _
    ascending := by decide
    nonempty := by decide }
  explicitDomain := true

/-- The message of the grid with mixed overrides. -/
def GameMessage.mixedSquare : GameMessage where
  grids := some [{
    rows := some [
      { cells := some [{ value := some 7 }, { width := some 2 }] },
      { cells := some [{ height := some 1 },
        { value := some (-1), width := some 2, height := some 1 }] }]
    boxWidth := some 2
    boxHeight := some 2
    domain := some [7, -1] }]

/-- The grid with mixed overrides is encoded as the message that it is decoded from, and
is decoded from no other message. -/
theorem GameMessage.encode_decode_mixedSquare :
    mixedSquare.decode = .ok (⟨[Grid.mixedSquare]⟩ : Game .signed8) ∧
      Game.encode ⟨[Grid.mixedSquare]⟩ = .ok mixedSquare ∧
      ∀ other : GameMessage, other.decode = .ok (⟨[Grid.mixedSquare]⟩ : Game .signed8) →
        other = mixedSquare := by
  have built : Grid.mixedSquare.Built := by
    have made : Grid.ofRowsOver Grid.mixedSquare.domain Grid.mixedSquare.rows
        Grid.mixedSquare.box = .ok Grid.mixedSquare := by
      rfl
    exact .ofRowsOver made
  have decoded : mixedSquare.decode = .ok (⟨[Grid.mixedSquare]⟩ : Game .signed8) := by
    -- Sorting the domain does not evaluate, so the message is not decoded step by step.
    rw [decode_eq_ok_iff, ← Game.encode_eq_ok_iff]
    have checked : Grid.mixedSquare.checkValues = .ok () := by decide +kernel
    exact ⟨by decide +kernel, by simp [built, checked]⟩
  obtain ⟨encodes, injective⟩ := @encode_decode .signed8
  exact ⟨decoded, encodes _ _ decoded, fun other otherDecoded =>
    injective other _ _ otherDecoded decoded⟩

end Sudoku
