import Sudoku.Json.Basic

/-!
# JSON tokens

A JSON text is a sequence of tokens with white space between them. Scanning goes
over the text once, character by character. A quoted text is checked for control
characters and known escapes. Halves of surrogate pairs are put together where
they meet, and make the text no sequence of characters where they do not.
-/

namespace Sudoku
namespace Json

/-- A token of a JSON text. -/
inductive Token
  | openArray
  | closeArray
  | openObject
  | closeObject
  | comma
  | colon
  | text (content : Option String)
  | scalar (value : Json)

/-- A piece of a quoted text: a character as it stands, or an escaped unit of
16 bits. -/
inductive Piece
  | plain (character : Char)
  | unit (value : Nat)
  deriving DecidableEq

namespace Piece

/-- Whether a unit is the first half of a surrogate pair. -/
def isHigh (unit : Nat) : Bool :=
  decide (0xD800 ≤ unit) && decide (unit < 0xDC00)

/-- Whether a unit is the second half of a surrogate pair. -/
def isLow (unit : Nat) : Bool :=
  decide (0xDC00 ≤ unit) && decide (unit < 0xE000)

/-- The character of a surrogate pair. -/
def paired (high low : Nat) : Char :=
  Char.ofNat (0x10000 + (high - 0xD800) * 0x400 + (low - 0xDC00))

/-- The characters of the pieces, if every half of a surrogate pair has its other
half next to it. -/
def characters? : List Piece → Option (List Char)
  | [] => some []
  | .plain character :: rest => (characters? rest).map (character :: ·)
  | .unit first :: .unit second :: rest =>
      if isHigh first && isLow second then
        (characters? rest).map (paired first second :: ·)
      else if isHigh first || isLow first then none
      else (characters? (.unit second :: rest)).map (Char.ofNat first :: ·)
  | .unit first :: rest =>
      if isHigh first || isLow first then none
      else (characters? rest).map (Char.ofNat first :: ·)

/-- The text of the pieces. -/
def text? (pieces : List Piece) : Option String :=
  (characters? pieces).map String.ofList

end Piece

/-- Where a scan is: between tokens, within a word or number, or within a quoted
text, there possibly after a backslash or within the digits of a unit. Characters
and pieces come latest first. -/
inductive Place
  | between
  | scalar (characters : List Char)
  | quoted (pieces : List Piece)
  | escaped (pieces : List Piece)
  | unit (pieces : List Piece) (digits value : Nat)
  deriving DecidableEq

/-- A scan of a text up to some character, with its tokens latest first. -/
structure Scan where
  place : Place := .between
  tokens : List Token := []

namespace Scan

/-- Whether a character is white space between tokens. -/
def isSpace (character : Char) : Bool :=
  character == ' ' || character == '\t' || character == '\n' || character == '\r'

/-- Whether a character belongs to a word or number. -/
def isScalar (character : Char) : Bool :=
  character.isAlphanum || character == '+' || character == '-' || character == '.'

/-- The token of a punctuation mark. -/
def mark? : Char → Option Token
  | '[' => some .openArray
  | ']' => some .closeArray
  | '{' => some .openObject
  | '}' => some .closeObject
  | ',' => some .comma
  | ':' => some .colon
  | _ => none

/-- The character that stands for an escape of one letter. -/
def escaped? : Char → Option Char
  | '"' => some '"'
  | '\\' => some '\\'
  | '/' => some '/'
  | 'b' => some '\x08'
  | 'f' => some '\x0c'
  | 'n' => some '\n'
  | 'r' => some '\r'
  | 't' => some '\t'
  | _ => none

/-- The value of a hexadecimal digit. -/
def hexDigit? (character : Char) : Option Nat :=
  if '0' ≤ character ∧ character ≤ '9' then some (character.toNat - '0'.toNat)
  else if 'a' ≤ character ∧ character ≤ 'f' then some (character.toNat - 'a'.toNat + 10)
  else if 'A' ≤ character ∧ character ≤ 'F' then some (character.toNat - 'A'.toNat + 10)
  else none

/-- Add a token. -/
def add (tokens : List Token) (token : Token) : Scan :=
  ⟨.between, token :: tokens⟩

/-- Go over a character between tokens. -/
def stepBetween (tokens : List Token) (character : Char) : Option Scan :=
  if isSpace character then some ⟨.between, tokens⟩
  else if character = '"' then some ⟨.quoted [], tokens⟩
  else if isScalar character then some ⟨.scalar [character], tokens⟩
  else (mark? character).map (add tokens)

/-- The tokens after the end of a word or number. -/
def endScalar (tokens : List Token) (characters : List Char) : Option (List Token) :=
  (scalar? characters.reverse).map fun value => .scalar value :: tokens

/-- Go over a character within a quoted text. -/
def stepQuoted (tokens : List Token) (pieces : List Piece) (character : Char) :
    Option Scan :=
  if character = '"' then some (add tokens (.text (Piece.text? pieces.reverse)))
  else if character = '\\' then some ⟨.escaped pieces, tokens⟩
  else if character.toNat < 0x20 then none
  else some ⟨.quoted (.plain character :: pieces), tokens⟩

/-- Go over the character after a backslash. -/
def stepEscaped (tokens : List Token) (pieces : List Piece) (character : Char) :
    Option Scan :=
  if character = 'u' then some ⟨.unit pieces 0 0, tokens⟩
  else (escaped? character).map fun letter =>
    ⟨.quoted (.plain letter :: pieces), tokens⟩

/-- Go over a digit of a unit, after so many others with the given value. -/
def stepUnit (tokens : List Token) (pieces : List Piece) (digits value : Nat)
    (character : Char) : Option Scan :=
  (hexDigit? character).map fun digit =>
    let value := 16 * value + digit
    if digits + 1 = 4 then ⟨.quoted (.unit value :: pieces), tokens⟩
    else ⟨.unit pieces (digits + 1) value, tokens⟩

/-- Go over one character. -/
def step (scan : Scan) (character : Char) : Option Scan :=
  match scan.place with
  | .between => stepBetween scan.tokens character
  | .scalar characters =>
      if isScalar character then some ⟨.scalar (character :: characters), scan.tokens⟩
      else (endScalar scan.tokens characters).bind fun tokens =>
        stepBetween tokens character
  | .quoted pieces => stepQuoted scan.tokens pieces character
  | .escaped pieces => stepEscaped scan.tokens pieces character
  | .unit pieces digits value => stepUnit scan.tokens pieces digits value character

/-- The tokens of a scan that has reached the end of the text. -/
def finish (scan : Scan) : Option (List Token) :=
  match scan.place with
  | .between => some scan.tokens.reverse
  | .scalar characters => (endScalar scan.tokens characters).map List.reverse
  | _ => none

end Scan

/-- The tokens of a text. -/
def Token.ofText? (text : List Char) : Option (List Token) :=
  (text.foldlM Scan.step {}).bind Scan.finish

end Json
end Sudoku
