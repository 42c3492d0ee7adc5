import Sudoku.CandidateSet
import Sudoku.Layout

/-!
# Boards

A board is a grid at work. Next to the working grid it keeps, for every cell,
the index of its value within the domain, and for every open cell the indices
that no peer holds. Commits go on a trail, so that a board can return to any
earlier state. A commit that is undone out of order leaves a blank on the trail,
which keeps later marks valid.
-/

namespace Sudoku

/-- A grid at work. The trail names the committed cells, the latest first. -/
structure Board (alphabet : Alphabet) where
  layout : Layout
  grid : Grid alphabet
  assigned : Array (Option Nat)
  candidates : Array CandidateSet
  trail : List (Option Nat)

/-- What a commit did to an open peer: it took the last candidate, or the last
but one. -/
inductive Signal
  | contradiction (cell : Nat)
  | forced (cell : Nat)
  deriving DecidableEq

namespace Board

variable {alphabet : Alphabet}

/-! ### Reading -/

/-- The number of values of the domain. -/
def domainSize (board : Board alphabet) : Nat :=
  board.grid.domain.size

/-- The index of the value of a cell. -/
def assignedAt (board : Board alphabet) (cell : Nat) : Option Nat :=
  board.assigned.getD cell none

/-- Whether a cell holds no value. -/
def isOpen (board : Board alphabet) (cell : Nat) : Bool :=
  (board.assignedAt cell).isNone

/-- The candidates of a cell, none for a cell that holds a value. -/
def candidatesAt (board : Board alphabet) (cell : Nat) : CandidateSet :=
  board.candidates.getD cell (.empty board.domainSize)

/-- Whether the board has a cell of the given number. -/
def hasCell (board : Board alphabet) (cell : Nat) : Bool :=
  decide (cell < board.assigned.size)

/-- The number of open cells. -/
def openCount (board : Board alphabet) : Nat :=
  board.assigned.count none

/-- A mark of the current state, to roll back to. -/
def mark (board : Board alphabet) : Nat :=
  board.trail.length

/-- The open peers of a cell in ascending order. -/
def openPeers (board : Board alphabet) (cell : Nat) : List Nat :=
  (board.layout.peersOf cell).filter board.isOpen

/-! ### Building -/

/-- Whether a peer of a cell is assigned a value. -/
def isExcluded (layout : Layout) (assigned : Array (Option Nat)) (cell value : Nat) : Bool :=
  (layout.peersOf cell).any fun peer => assigned.getD peer none == some value

/-- The values that no peer of a cell is assigned, or none at all if the cell is
assigned itself. -/
def freeValues (layout : Layout) (domainSize : Nat) (assigned : Array (Option Nat))
    (cell : Nat) : CandidateSet :=
  match assigned.getD cell none with
  | some _ => .empty domainSize
  | none =>
      (layout.peersOf cell).foldl
        (fun candidates peer =>
          (assigned.getD peer none).elim candidates candidates.erase)
        (.full domainSize)

/-- The board of a grid with its values as givens. The grid must have the
dimensions of the layout, values of its domain only, and no peers with equal
values. -/
def ofGrid (layout : Layout) (grid : Grid alphabet) : Except Error (Board alphabet) :=
  if layout.fits grid then do
    grid.checkValues
    layout.checkUnique grid
    let cells := List.range layout.cellCount
    let assigned := (cells.map fun cell =>
      (grid.valueAt cell).bind grid.domain.index?).toArray
    .ok {
      layout, grid, assigned
      candidates :=
        (cells.map (freeValues layout grid.domain.size assigned)).toArray
      trail := [] }
  else .error (.internal .dimensionMismatch)

/-! ### Committing -/

/-- What taking a value from the candidates of an open peer brings about. -/
def signal? (board : Board alphabet) (value peer : Nat) : Option Signal :=
  if (board.candidatesAt peer).contains value then
    match (board.candidatesAt peer).size with
    | 1 => some (.contradiction peer)
    | 2 => some (.forced peer)
    | _ => none
  else none

/-- The board with a value written into an open cell, over a working grid that
has it too. -/
def assign (board : Board alphabet) (grid : Grid alphabet) (cell value : Nat) :
    Board alphabet :=
  { board with
    grid
    assigned := board.assigned.setIfInBounds cell (some value)
    candidates :=
      ((board.openPeers cell).foldl
        (fun candidates peer => candidates.modify peer (·.erase value))
        board.candidates).setIfInBounds cell (.empty board.domainSize)
    trail := some cell :: board.trail }

/-- Commit a candidate to an open cell, and tell which open peers it left with
one candidate or none. -/
def commit (board : Board alphabet) (cell value : Nat) :
    Except Error (Board alphabet × List Signal) :=
  let position := board.layout.positionOf cell
  match board.assigned[cell]? with
  | none => .error (.internal (.unknownCell cell))
  | some (some _) => .error (.internal (.assignedCell position))
  | some none =>
      if (board.candidatesAt cell).contains value then
        match board.grid.domain.value? value with
        | none => .error (.internal (.nonCandidate value position))
        | some symbol =>
            (board.grid.commit position symbol).map fun grid =>
              (board.assign grid cell value,
                (board.openPeers cell).filterMap (board.signal? value))
      else .error (.internal (.nonCandidate value position))

@[simp] theorem openCount_assign (board : Board alphabet) (grid : Grid alphabet)
    (cell value : Nat) (isOpen : board.assigned[cell]? = some none) :
    (board.assign grid cell value).openCount + 1 = board.openCount := by
  obtain ⟨inside, isNone⟩ := Array.getElem?_eq_some_iff.1 isOpen
  have positive : 0 < board.assigned.count none := by
    rw [Array.count_pos_iff, ← isNone]
    exact Array.getElem_mem inside
  simp only [openCount, assign, Array.setIfInBounds, inside, dite_true]
  rw [Array.count_set]
  simp [isNone]
  omega

/-- A commit closes one open cell. -/
theorem openCount_commit {board next : Board alphabet} {signals : List Signal}
    {cell value : Nat} (committed : board.commit cell value = .ok (next, signals)) :
    next.openCount + 1 = board.openCount := by
  simp only [commit] at committed
  split at committed
  · simp at committed
  · simp at committed
  · next isOpen =>
      split at committed
      · split at committed
        · simp at committed
        · next symbol _ =>
            cases written : board.grid.commit (board.layout.positionOf cell) symbol with
            | error error => simp [written, Except.map] at committed
            | ok grid =>
                simp only [written, Except.map, Except.ok.injEq, Prod.mk.injEq] at committed
                rw [← committed.1]
                exact openCount_assign board grid cell value isOpen
      · simp at committed

/-! ### Undoing -/

/-- The board with an assigned cell opened again, over a working grid where it is
open too. Its value returns to the open peers that no other peer keeps it from. -/
def reopen (board : Board alphabet) (grid : Grid alphabet) (cell value : Nat) :
    Board alphabet :=
  let assigned := board.assigned.setIfInBounds cell none
  let freed := (board.layout.peersOf cell).filter fun peer =>
    (assigned.getD peer none).isNone && !isExcluded board.layout assigned peer value
  { board with
    grid, assigned
    candidates :=
      (freed.foldl
        (fun candidates peer => candidates.modify peer (·.insert value))
        board.candidates).setIfInBounds cell
          (freeValues board.layout board.domainSize assigned cell) }

/-- Take back the value of an assigned cell, whether or not the trail has it. -/
def release (board : Board alphabet) (cell : Nat) : Except Error (Board alphabet) :=
  let position := board.layout.positionOf cell
  match board.assignedAt cell with
  | none => .error (.internal (.openCell position))
  | some value =>
      (board.grid.clear position).map fun grid => board.reopen grid cell value

/-- The trail with the latest commit to a cell blanked, if there is one. -/
def blankLatest? (cell : Nat) : List (Option Nat) → Option (List (Option Nat))
  | [] => none
  | entry :: earlier =>
      if entry = some cell then some (none :: earlier)
      else (blankLatest? cell earlier).map (entry :: ·)

/-- Undo the commit to a cell, leaving a blank on the trail. -/
def undo (board : Board alphabet) (cell : Nat) : Except Error (Board alphabet) :=
  match blankLatest? cell board.trail with
  | none => .error (.internal (.uncommittedCell (board.layout.positionOf cell)))
  | some trail => { board with trail }.release cell

/-- Undo one entry of the trail, nothing if it is a blank. -/
def releaseEntry (board : Board alphabet) : Option Nat → Except Error (Board alphabet)
  | none => .ok board
  | some cell => board.release cell

/-- Undo all commits since a mark was taken, the latest first. -/
def rollback (board : Board alphabet) (mark : Nat) : Except Error (Board alphabet) :=
  let count := board.trail.length - mark
  (board.trail.take count).foldlM releaseEntry
    { board with trail := board.trail.drop count }

end Board

end Sudoku
