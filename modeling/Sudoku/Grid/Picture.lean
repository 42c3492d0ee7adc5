import Sudoku.Grid.Basic

/-!
# Pictures of grids

A picture draws a grid with box-drawing characters. Lines between two boxes are
thick, lines within a box are thin, and the frame is thick. Whether a line is
thick is read off the box shape of the cell before it. All cells are as wide as
the longest value of the domain, and values are set flush right.
-/

namespace Sudoku
namespace Grid

variable {alphabet : Alphabet}

/-- The number of characters of the longest value of the domain. -/
def valueWidth (grid : Grid alphabet) : Nat :=
  grid.domain.values.foldl (fun width symbol => max width symbol.text.length) 0

/-- Whether a box ends with the given column in the given row. -/
def endsBoxRow (grid : Grid alphabet) (row column : Nat) : Bool :=
  (column + 1) % (grid.shapeAt (Position.number grid.width ⟨row, column⟩)).width == 0

/-- Whether a box ends with the given row in the given column. -/
def endsBoxColumn (grid : Grid alphabet) (row column : Nat) : Bool :=
  (row + 1) % (grid.shapeAt (Position.number grid.width ⟨row, column⟩)).height == 0

/-- A horizontal line as wide as a cell. -/
def bar (grid : Grid alphabet) (character : Char) : List Char :=
  List.replicate (grid.valueWidth + 2) character

/-- The characters of one line of a picture, where every column but the first is
preceded by the separator between it and its left neighbour. -/
def line (grid : Grid alphabet) (first last : Char)
    (separator : Nat → Char) (segment : Nat → List Char) : List Char :=
  first ::
    ((List.range grid.width).flatMap fun column =>
      if column = 0 then segment column
      else separator (column - 1) :: segment column) ++
    [last]

/-- The top line of the frame. -/
def topLine (grid : Grid alphabet) : List Char :=
  grid.line '╔' '╗'
    (fun column => if grid.endsBoxRow 0 column then '╦' else '╤')
    fun _ => grid.bar '═'

/-- The bottom line of the frame. -/
def bottomLine (grid : Grid alphabet) : List Char :=
  grid.line '╚' '╝'
    (fun column => if grid.endsBoxRow (grid.height - 1) column then '╩' else '╧')
    fun _ => grid.bar '═'

/-- The crossing to the right of a column, in the line below a row. Its
horizontal arm is that of the next column. -/
def crossing (grid : Grid alphabet) (row column : Nat) : Char :=
  match grid.endsBoxColumn row (column + 1), grid.endsBoxRow row column with
  | true, true => '╬'
  | true, false => '╪'
  | false, true => '╫'
  | false, false => '┼'

/-- The line below a row. -/
def separatorLine (grid : Grid alphabet) (row : Nat) : List Char :=
  grid.line
    (if grid.endsBoxColumn row 0 then '╠' else '╟')
    (if grid.endsBoxColumn row (grid.width - 1) then '╣' else '╢')
    (grid.crossing row)
    fun column => grid.bar (if grid.endsBoxColumn row column then '═' else '─')

/-- A text set flush right within the given number of characters. -/
def flushRight (width : Nat) (text : List Char) : List Char :=
  List.replicate (width - text.length) ' ' ++ text

/-- The value of the cell of the given row-major number between two blanks. -/
def valueSegment (grid : Grid alphabet) (number : Nat) : List Char :=
  let text := (grid.valueAt number).elim [] fun symbol => symbol.text.toList
  ' ' :: flushRight grid.valueWidth text ++ [' ']

/-- The line of the values of a row. -/
def contentLine (grid : Grid alphabet) (row : Nat) : List Char :=
  grid.line '║' '║'
    (fun column => if grid.endsBoxRow row column then '║' else '│')
    fun column => grid.valueSegment (Position.number grid.width ⟨row, column⟩)

/-- The lines of a picture from top to bottom. -/
def pictureLines (grid : Grid alphabet) : List (List Char) :=
  [grid.topLine] ++
    ((List.range grid.height).flatMap fun row =>
      if row = 0 then [grid.contentLine row]
      else [grid.separatorLine (row - 1), grid.contentLine row]) ++
    [grid.bottomLine]

/-- The picture of a grid. -/
def picture (grid : Grid alphabet) : String :=
  "\n".intercalate (grid.pictureLines.map String.ofList)

end Grid
end Sudoku
