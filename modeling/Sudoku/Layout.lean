import Sudoku.Ascending
import Sudoku.Grid.Basic

/-!
# Layouts

A layout is the structure that the rules of a puzzle act on: the box of every
cell, the cells of every box, and the peers of every cell, which are the other
cells that share a row, a column or a box with it. A layout depends on the box
shapes of a grid and never on its values.

The box of a cell is the block of its own shape that it falls in, when the grid
is cut into blocks of that shape from the top left corner on. All cells of that
block have to have the same shape, or else the grid has no layout.
-/

namespace Sudoku

/-- The boxes and peers of the cells of a grid. Cells go by their row-major
number, and boxes by the order of their first cells. -/
structure Layout where
  height : Nat
  width : Nat
  boxOf : Array Nat
  boxes : Array (List Nat)
  peers : Array (List Nat)
  deriving DecidableEq

namespace Layout

variable {alphabet : Alphabet}

/-! ### Building -/

/-- A grid that is divided into boxes up to some cell. -/
structure Division where
  boxOf : Array (Option Nat)
  boxes : Array (List Nat)

namespace Division

/-- No cell of a grid has a box yet. -/
def start (cellCount : Nat) : Division :=
  ⟨Array.replicate cellCount none, #[]⟩

/-- The box of a cell, if it has one already. -/
def box? (division : Division) (cell : Nat) : Option Nat :=
  division.boxOf.getD cell none

/-- The cells of the box of a cell, as far as it has one. -/
def boxAround (division : Division) (cell : Nat) : List Nat :=
  ((division.box? cell).bind fun box => division.boxes[box]?).getD []

/-- Check that the cell at a position has the expected shape. -/
def checkShape (grid : Grid alphabet) (expected : BoxShape) (position : Position) :
    Except Error Unit := do
  let found ← grid.boxShape position
  if found ≠ expected then
    .error (.invalid (.ofPosition position) (.conflictingBoxShape position expected found))
  else .ok ()

/-- Give the cell at a position the number of the next box, if it has the expected shape and
no box yet. -/
def join (grid : Grid alphabet) (expected : BoxShape) (division : Division)
    (position : Position) : Except Error Division := do
  checkShape grid expected position
  let member := position.number grid.width
  if (division.box? member).isSome then .error (.internal .cellBoxedTwice)
  else
    .ok { division with
      boxOf := division.boxOf.setIfInBounds member (some division.boxes.size) }

/-- Make the block of a cell a box, unless the cell has a box already. -/
def extend (grid : Grid alphabet) (division : Division) (cell : Nat) :
    Except Error Division :=
  if (division.box? cell).isSome then .ok division
  else do
    let position := Position.ofNumber grid.width cell
    let shape ← grid.boxShape position
    let members := shape.block position
    let joined ← members.foldlM (join grid shape) division
    .ok { joined with boxes := joined.boxes.push (members.map (Position.number grid.width)) }

/-- Divide a grid into boxes, cell by cell in row-major order. -/
def ofGrid (grid : Grid alphabet) : Except Error Division :=
  (List.range grid.cellCount).foldlM (extend grid) (start grid.cellCount)

end Division

/-- The other cells in the row, the column and the box of a cell, in ascending order and
each of them once. -/
def peersIn (height width : Nat) (box : List Nat) (cell : Nat) : List Nat :=
  let position := Position.ofNumber width cell
  let row := (List.range width).map fun column => Position.number width ⟨position.row, column⟩
  let column := (List.range height).map fun row => Position.number width ⟨row, position.column⟩
  Ascending.dropRepeats (Ascending.sort ((row ++ column ++ box).filter (· != cell)))

/-- The layout of a grid whose cells agree on their boxes. The first cell whose
shape differs from that of a box that contains it is reported. -/
def ofGrid (grid : Grid alphabet) : Except Error Layout :=
  (Division.ofGrid grid).map fun division =>
    { height := grid.height
      width := grid.width
      boxOf := division.boxOf.map fun box => box.getD 0
      boxes := division.boxes
      peers := ((List.range grid.cellCount).map fun cell =>
        peersIn grid.height grid.width (division.boxAround cell) cell).toArray }

/-! ### Reading -/

/-- The number of cells. -/
def cellCount (layout : Layout) : Nat :=
  layout.height * layout.width

/-- The number of boxes. -/
def boxCount (layout : Layout) : Nat :=
  layout.boxes.size

/-- The position of the cell of the given number. -/
def positionOf (layout : Layout) (cell : Nat) : Position :=
  .ofNumber layout.width cell

/-- The number of the cell at a position inside the grid. -/
def numberOf (layout : Layout) (position : Position) : Except Error Nat :=
  if position.row < layout.height ∧ position.column < layout.width then
    .ok (position.number layout.width)
  else .error (.outOfBounds (.ofPosition position))

/-- The peers of the cell of the given number, in ascending order, if there is
such a cell. -/
def peersOf? (layout : Layout) (cell : Nat) : Option (List Nat) :=
  layout.peers[cell]?

/-- The peers of the cell of the given number, in ascending order. -/
def peersOf (layout : Layout) (cell : Nat) : List Nat :=
  (layout.peersOf? cell).getD []

/-- The positions of the peers of the cell at a position, in row-major order. -/
def peersAt (layout : Layout) (position : Position) : Except Error (List Position) :=
  (layout.numberOf position).map fun cell =>
    (layout.peersOf cell).map layout.positionOf

/-- Whether two positions inside the grid hold peers. -/
def arePeers (layout : Layout) (first second : Position) : Bool :=
  match layout.numberOf first, layout.numberOf second with
  | .ok first, .ok second =>
      let peers := (layout.peersOf first).toArray
      (Ascending.bisect? (compare · second) peers 0 peers.size).isSome
  | _, _ => false

/-- The number of the box of the cell at a position. -/
def boxAt (layout : Layout) (position : Position) : Except Error Nat :=
  (layout.numberOf position).map fun cell => layout.boxOf.getD cell 0

/-- The cells of a box in ascending order, if there is such a box. -/
def boxCells? (layout : Layout) (box : Nat) : Option (List Nat) :=
  layout.boxes[box]?

/-! ### Conflicts -/

/-- Whether a grid has the dimensions of the layout. -/
def fits (layout : Layout) (grid : Grid alphabet) : Bool :=
  grid.width == layout.width && grid.height == layout.height

/-- The first peer after a cell that holds the value of the cell. -/
def rivalOf? (layout : Layout) (grid : Grid alphabet) (cell : Nat) : Option Nat :=
  (grid.valueAt cell).bind fun symbol =>
    (layout.peersOf cell).find? fun peer =>
      decide (cell < peer) && grid.valueAt peer == some symbol

/-- The first pair of peers with equal values, in row-major order of the first
of them and then of the second. -/
def conflict? (layout : Layout) (grid : Grid alphabet) : Option (Nat × Nat) :=
  (List.range layout.cellCount).findSome? fun cell =>
    (layout.rivalOf? grid cell).map (cell, ·)

/-- The positions of the first pair of peers with equal values, in a grid of the
dimensions of the layout. -/
def findConflict (layout : Layout) (grid : Grid alphabet) :
    Except Error (Option (Position × Position)) :=
  if layout.fits grid then
    .ok ((layout.conflict? grid).map fun (first, second) =>
      (layout.positionOf first, layout.positionOf second))
  else .error (.internal .dimensionMismatch)

/-- Check that no two peers hold equal values. -/
def checkUnique (layout : Layout) (grid : Grid alphabet) : Except Error Unit := do
  match ← layout.findConflict grid with
  | none => .ok ()
  | some (first, second) =>
      let value ← grid.value first
      .error (.invalid (.ofPosition first)
        (.duplicateValue first second (value.elim "" Symbol.text)))

end Layout

end Sudoku
