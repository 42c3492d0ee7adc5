/-!
# Cutting a text at a separator

A text with `n` separators has `n + 1` pieces, some of them possibly empty.
Joining the pieces with the separator gives the text back.
-/

namespace Sudoku
namespace Text

/-- Put a character in front of the first piece, or start a new first piece if
the character is the separator. -/
def attach (separator character : Char) (pieces : List (List Char)) :
    List (List Char) :=
  if character = separator then [] :: pieces
  else
    match pieces with
    | [] => [[character]]
    | piece :: others => (character :: piece) :: others

/-- The pieces of a text between the separators. -/
def pieces (separator : Char) (text : List Char) : List (List Char) :=
  text.foldr (attach separator) [[]]

@[simp] theorem pieces_nil (separator : Char) : pieces separator [] = [[]] := rfl

@[simp] theorem pieces_cons (separator character : Char) (text : List Char) :
    pieces separator (character :: text) =
      attach separator character (pieces separator text) := rfl

/-- Every text has at least one piece. -/
theorem pieces_ne_nil (separator : Char) (text : List Char) :
    pieces separator text ≠ [] := by
  induction text with
  | nil => simp
  | cons character rest _ =>
      rw [pieces_cons]
      unfold attach
      split
      · simp
      · split <;> simp

/-- The texts joined into one, with a separator between neighbours. -/
def join (separator : Char) : List (List Char) → List Char
  | [] => []
  | [piece] => piece
  | piece :: others => piece ++ separator :: join separator others

/-- Joining undoes cutting. -/
@[simp] theorem join_pieces (separator : Char) (text : List Char) :
    join separator (pieces separator text) = text := by
  induction text with
  | nil => rfl
  | cons character rest restHypothesis =>
      rw [pieces_cons]
      unfold attach
      cases restPieces : pieces separator rest with
      | nil => exact absurd restPieces (pieces_ne_nil separator rest)
      | cons piece others =>
          rw [restPieces] at restHypothesis
          split
          · next isSeparator =>
              simp [join, restHypothesis, isSeparator]
          · cases others <;> simp_all [join]

end Text
end Sudoku
