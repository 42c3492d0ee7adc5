import Sudoku.Text.Decimal
import Sudoku.Text.Pieces

/-!
# JSON values

A JSON value as a tree, and its compact text. Numbers that are integers are told
apart from all others, of which only the literal is kept. The literal of minus
zero counts among the others.

A text may hold half of a surrogate pair, given by an escape. Such a text is no
sequence of characters, and nothing is kept of it.
-/

namespace Sudoku

/-- A JSON value. -/
inductive Json
  | null
  | bool (value : Bool)
  | integer (value : Int)
  | decimal (literal : List Char)
  | text (content : Option String)
  | array (items : List Json)
  | object (members : List (Option String × Json))

namespace Json

/-- The character that stands for a text that is no sequence of characters. -/
def replacement : String := "\uFFFD"

/-- The hexadecimal digits of a number below `2 ^ 16`. -/
def hexDigits (value : Nat) : List Char :=
  [value / 4096, value / 256 % 16, value / 16 % 16, value % 16].map Nat.digitChar

/-- A character inside a quoted text. -/
def escape (character : Char) : List Char :=
  if character = '"' then ['\\', '"']
  else if character = '\\' then ['\\', '\\']
  else if character.toNat < 0x20 then '\\' :: 'u' :: hexDigits character.toNat
  else [character]

/-- A quoted text. -/
def quote (content : Option String) : List Char :=
  '"' :: (content.getD replacement).toList.flatMap escape ++ ['"']

mutual

/-- The compact text of a value. -/
def write : Json → List Char
  | .null => "null".toList
  | .bool true => "true".toList
  | .bool false => "false".toList
  | .integer value => Text.Decimal.ofInt value
  | .decimal literal => literal
  | .text content => quote content
  | .array items => '[' :: Text.join ',' (writeItems items) ++ [']']
  | .object members => '{' :: Text.join ',' (writeMembers members) ++ ['}']

/-- The texts of the items of an array. -/
def writeItems : List Json → List (List Char)
  | [] => []
  | item :: rest => write item :: writeItems rest

/-- The texts of the members of an object. -/
def writeMembers : List (Option String × Json) → List (List Char)
  | [] => []
  | (name, value) :: rest =>
      (quote name ++ ':' :: write value) :: writeMembers rest

end

/-- The compact text of a value. -/
def render (json : Json) : String :=
  String.ofList json.write

/-! ### Numbers -/

/-- The value of a sequence of digits. -/
def digitsValue (digits : List Char) : Nat :=
  digits.foldl (fun value digit => 10 * value + (digit.toNat - '0'.toNat)) 0

/-- Whether a text is one digit or more. -/
def isDigits (digits : List Char) : Bool :=
  !digits.isEmpty && digits.all Char.isDigit

/-- Whether a text is empty or an exponent. -/
def isExponent : List Char → Bool
  | [] => true
  | mark :: rest =>
      (mark == 'e' || mark == 'E') &&
        match rest with
        | '+' :: digits => isDigits digits
        | '-' :: digits => isDigits digits
        | digits => isDigits digits

/-- Whether a text is what may follow the whole digits of a number: a fraction,
an exponent, both or neither. -/
def isTail : List Char → Bool
  | '.' :: rest =>
      isDigits (rest.takeWhile Char.isDigit) && isExponent (rest.dropWhile Char.isDigit)
  | rest => isExponent rest

/-- Whether a text is the whole part of a number, which has no leading zeros. -/
def isWhole (digits : List Char) : Bool :=
  isDigits digits && (digits.head? != some '0' || digits.length == 1)

/-- Read a number without its sign. -/
def unsigned? (negative : Bool) (literal magnitude : List Char) : Option Json :=
  let whole := magnitude.takeWhile Char.isDigit
  let tail := magnitude.dropWhile Char.isDigit
  if isWhole whole && isTail tail then
    let value := digitsValue whole
    if !tail.isEmpty || (negative && value == 0) then some (.decimal literal)
    else some (.integer (if negative then -(value : Int) else value))
  else none

/-- Read a number. -/
def number? (literal : List Char) : Option Json :=
  match literal with
  | '-' :: magnitude => unsigned? true literal magnitude
  | magnitude => unsigned? false literal magnitude

/-- Read a value that is a word or a number. -/
def scalar? (literal : List Char) : Option Json :=
  if literal = "null".toList then some .null
  else if literal = "true".toList then some (.bool true)
  else if literal = "false".toList then some (.bool false)
  else number? literal

end Json

end Sudoku
