import Mathlib.Data.List.Nodup
import Sudoku.Board.Basic
import Sudoku.Proofs.CandidateSet
import Sudoku.Proofs.Domain
import Sudoku.Proofs.Layout.Conflict

/-!
# Coherent boards

A board is coherent when its parts agree: the working grid writes out the
assigned indices within the frame of the grid it started from, no two peers are
assigned the same index, and the candidates of an open cell are exactly the
indices that no peer is assigned. The board of a checked grid is coherent, and a
coherent board is determined by its assigned indices and its trail.
-/

namespace Sudoku
namespace Board

variable {alphabet : Alphabet} {layout : Layout} {given : Grid alphabet}
  {board : Board alphabet}

/-- A board whose parts agree with its assigned indices, over the layout and the
grid that it started from. -/
structure Coherent (layout : Layout) (given : Grid alphabet) (board : Board alphabet) :
    Prop where
  sound : layout.Sound
  fits : layout.fits given = true
  wellFormed : given.WellFormed
  layout_eq : board.layout = layout
  frame_eq : board.grid.frame = given.frame
  assigned_size : board.assigned.size = layout.cellCount
  candidates_size : board.candidates.size = layout.cellCount
  value : ∀ cell, board.grid.valueAt cell =
    (board.assignedAt cell).bind given.domain.value?
  assigned_lt : ∀ cell value, board.assignedAt cell = some value →
    value < given.domain.size
  distinct : ∀ cell, ∀ peer ∈ layout.peersOf cell, ∀ value,
    board.assignedAt cell = some value → board.assignedAt peer ≠ some value
  capacity : ∀ cell < layout.cellCount,
    (board.candidatesAt cell).capacity = given.domain.size
  candidates : ∀ cell < layout.cellCount, ∀ value,
    (board.candidatesAt cell).contains value = true ↔
      board.assignedAt cell = none ∧ value < given.domain.size ∧
        ∀ peer ∈ layout.peersOf cell, board.assignedAt peer ≠ some value

/-! ### Reading a board -/

/-- Only cells of the board are assigned. -/
theorem lt_size_of_assignedAt {cell value : Nat}
    (assigned : board.assignedAt cell = some value) : cell < board.assigned.size := by
  by_contra outside
  simp [assignedAt, outside] at assigned

/-- A cell of the board that is not assigned is stored as such. -/
theorem getElem?_assigned_of_open {cell : Nat} (inside : cell < board.assigned.size)
    (isOpen : board.assignedAt cell = none) : board.assigned[cell]? = some none := by
  unfold assignedAt at isOpen
  rw [Array.getD_eq_getD_getElem?, Array.getElem?_eq_getElem inside,
    Option.getD_some] at isOpen
  rw [Array.getElem?_eq_getElem inside, isOpen]

@[simp] theorem isOpen_iff (board : Board alphabet) (cell : Nat) :
    board.isOpen cell = true ↔ board.assignedAt cell = none := by
  simp [isOpen]

/-- The open peers of a cell are its peers without an assigned index. -/
theorem mem_openPeers_iff (board : Board alphabet) (cell peer : Nat) :
    peer ∈ board.openPeers cell ↔
      peer ∈ board.layout.peersOf cell ∧ board.assignedAt peer = none := by
  simp [openPeers]

namespace Coherent

/-- The domain of the working grid is that of the grid it started from. -/
theorem domain_eq (coherent : Coherent layout given board) :
    board.grid.domain = given.domain :=
  Grid.domain_eq_of_frame_eq coherent.frame_eq

/-- The layout has as many cells as the grid. -/
theorem cellCount_eq (coherent : Coherent layout given board) :
    layout.cellCount = given.cellCount :=
  Layout.cellCount_of_fits coherent.fits

/-- The working grid has a cell for each cell of the layout. -/
theorem cells_size (coherent : Coherent layout given board) :
    board.grid.cells.size = layout.cellCount := by
  rw [Grid.cells_size_eq_of_frame_eq coherent.frame_eq, coherent.wellFormed.cells_size,
    coherent.cellCount_eq]

/-- Only cells of the layout are assigned. -/
theorem lt_of_assignedAt (coherent : Coherent layout given board) {cell value : Nat}
    (assigned : board.assignedAt cell = some value) : cell < layout.cellCount := by
  rw [← coherent.assigned_size]
  exact lt_size_of_assignedAt assigned

/-- A cell with a candidate is open. -/
theorem isOpen_of_candidate (coherent : Coherent layout given board) {cell value : Nat}
    (inside : cell < layout.cellCount)
    (candidate : (board.candidatesAt cell).contains value = true) :
    board.assignedAt cell = none :=
  ((coherent.candidates cell inside value).1 candidate).1

/-- A candidate is the index of a value. -/
theorem lt_size_of_candidate (coherent : Coherent layout given board) {cell value : Nat}
    (inside : cell < layout.cellCount)
    (candidate : (board.candidatesAt cell).contains value = true) :
    value < given.domain.size :=
  ((coherent.candidates cell inside value).1 candidate).2.1

/-- The index of an assigned cell names the value that the cell holds. -/
theorem exists_valueAt (coherent : Coherent layout given board) {cell value : Nat}
    (isAssigned : board.assignedAt cell = some value) :
    ∃ symbol, given.domain.value? value = some symbol ∧
      board.grid.valueAt cell = some symbol := by
  obtain ⟨symbol, named⟩ :=
    given.domain.exists_value? (coherent.assigned_lt cell value isAssigned)
  exact ⟨symbol, named, by rw [coherent.value, isAssigned, Option.bind_some, named]⟩

/-- The cells without a value are the open ones. -/
theorem valueAt_eq_none_iff (coherent : Coherent layout given board) (cell : Nat) :
    board.grid.valueAt cell = none ↔ board.assignedAt cell = none := by
  constructor
  · intro missing
    by_contra isAssigned
    obtain ⟨value, isAssigned⟩ := Option.ne_none_iff_exists'.1 isAssigned
    obtain ⟨symbol, _, held⟩ := coherent.exists_valueAt isAssigned
    rw [missing] at held
    simp at held
  · intro isOpen
    rw [coherent.value, isOpen, Option.bind_none]

/-- A coherent board is determined by its assigned indices, up to its trail. -/
theorem eq_withTrail {first second : Board alphabet}
    (firstCoherent : Coherent layout given first)
    (secondCoherent : Coherent layout given second)
    (assigned : first.assigned = second.assigned) :
    first = { second with trail := first.trail } := by
  have assignedAt_eq (cell : Nat) : first.assignedAt cell = second.assignedAt cell := by
    unfold assignedAt
    rw [assigned]
  have layouts : first.layout = second.layout :=
    firstCoherent.layout_eq.trans secondCoherent.layout_eq.symm
  have grids : first.grid = second.grid := by
    apply Grid.eq_of_frame_eq (firstCoherent.frame_eq.trans secondCoherent.frame_eq.symm)
    intro cell
    rw [firstCoherent.value, secondCoherent.value, assignedAt_eq]
  have candidates : first.candidates = second.candidates := by
    apply Array.ext
      (firstCoherent.candidates_size.trans secondCoherent.candidates_size.symm)
    intro cell inFirst inSecond
    have inside : cell < layout.cellCount := by
      rw [← firstCoherent.candidates_size]
      exact inFirst
    have sets : first.candidatesAt cell = second.candidatesAt cell := by
      apply CandidateSet.eq_of_contains_eq
        ((firstCoherent.capacity cell inside).trans
          (secondCoherent.capacity cell inside).symm)
      intro value
      rw [Bool.eq_iff_iff, firstCoherent.candidates cell inside,
        secondCoherent.candidates cell inside]
      simp only [assignedAt_eq]
    simpa [candidatesAt, inFirst, inSecond] using sets
  cases first
  cases second
  simp_all

end Coherent

/-! ### The board of a grid -/

/-- The free values of a cell are the indices that no peer is assigned, and there
are none for an assigned cell. -/
theorem contains_freeValues (layout : Layout) (domainSize : Nat)
    (assigned : Array (Option Nat)) (cell value : Nat) :
    (freeValues layout domainSize assigned cell).contains value = true ↔
      assigned.getD cell none = none ∧ value < domainSize ∧
        ∀ peer ∈ layout.peersOf cell, assigned.getD peer none ≠ some value := by
  have folded (peers : List Nat) (candidates : CandidateSet) :
      (peers.foldl (fun candidates peer =>
          (assigned.getD peer none).elim candidates candidates.erase)
        candidates).contains value = true ↔
        candidates.contains value = true ∧
          ∀ peer ∈ peers, assigned.getD peer none ≠ some value := by
    induction peers generalizing candidates with
    | nil => simp
    | cons peer rest inductionHypothesis =>
        rw [List.foldl_cons, inductionHypothesis, List.forall_mem_cons, ← and_assoc]
        apply and_congr_left
        intro _
        cases assigned.getD peer none with
        | none => simp
        | some held =>
            rw [Option.elim_some, CandidateSet.contains_erase, Bool.and_eq_true,
              decide_eq_true_eq, ne_eq, ne_eq, Option.some.injEq, eq_comm (a := held)]
  unfold freeValues
  split
  · next held isHeld => simp [isHeld]
  · next isOpen =>
      rw [folded, CandidateSet.contains_full, decide_eq_true_eq, isOpen]
      simp only [true_and]

/-- The capacity of the free values is the size of the domain. -/
theorem capacity_freeValues (layout : Layout) (domainSize : Nat)
    (assigned : Array (Option Nat)) (cell : Nat) :
    (freeValues layout domainSize assigned cell).capacity = domainSize := by
  have folded (peers : List Nat) (candidates : CandidateSet) :
      (peers.foldl (fun candidates peer =>
          (assigned.getD peer none).elim candidates candidates.erase)
        candidates).capacity = candidates.capacity := by
    induction peers generalizing candidates with
    | nil => rfl
    | cons peer rest inductionHypothesis =>
        rw [List.foldl_cons, inductionHypothesis]
        cases assigned.getD peer none <;> simp
  unfold freeValues
  split
  · rfl
  · exact folded _ _

/-- The values of a grid pass the check when each of them has an index. -/
theorem checkValues_eq_ok_iff (grid : Grid alphabet)
    (wellFormed : grid.WellFormed) :
    grid.checkValues = .ok () ↔
      ∀ cell symbol, grid.valueAt cell = some symbol →
        grid.domain.contains symbol = true := by
  simp only [Grid.checkValues, Error.guard_eq_ok_iff, Grid.valueFlaw?,
    List.findSome?_eq_none_iff, List.mem_range, Option.bind_eq_none_iff,
    ite_eq_left_iff, Bool.not_eq_true, reduceCtorEq, imp_false, Bool.not_eq_false]
  constructor
  · intro inDomain cell symbol held
    have inside := Grid.lt_size_of_valueAt held
    rw [wellFormed.cells_size] at inside
    exact inDomain cell inside symbol held
  · intro inDomain cell _
    exact inDomain cell

/-- The board that a grid starts from: its values are assigned and nothing is on
the trail. -/
def initial (layout : Layout) (grid : Grid alphabet) : Board alphabet :=
  let cells := List.range layout.cellCount
  let assigned := (cells.map fun cell =>
    (grid.valueAt cell).bind grid.domain.index?).toArray
  { layout, grid, assigned
    candidates :=
      (cells.map (freeValues layout grid.domain.size assigned)).toArray
    trail := [] }

/-- A grid has a board exactly when it passes the checks, and then it is the one
that it starts from. -/
theorem ofGrid_eq_ok_iff {grid : Grid alphabet} :
    ofGrid layout grid = .ok board ↔
      layout.fits grid = true ∧ grid.checkValues = .ok () ∧
        layout.checkUnique grid = .ok () ∧ board = initial layout grid := by
  unfold ofGrid
  split
  · next fits =>
      simp only [Error.bind_eq_ok_iff, Except.ok.injEq, fits, true_and]
      constructor
      · rintro ⟨_, checked, _, unique, made⟩
        exact ⟨checked, unique, made.symm⟩
      · rintro ⟨checked, unique, made⟩
        exact ⟨(), checked, (), unique, made.symm⟩
  · next unfit => simp [unfit]

/-- The cells of the initial board are assigned the indices of their values. -/
theorem assignedAt_initial (fits : layout.fits given = true)
    (wellFormed : given.WellFormed) (cell : Nat) :
    (initial layout given).assignedAt cell =
      (given.valueAt cell).bind given.domain.index? := by
  simp only [initial, assignedAt, Array.getD_eq_getD_getElem?, List.getElem?_toArray,
    List.getElem?_map]
  by_cases inside : cell < layout.cellCount
  · simp [inside]
  · have outside : given.cells.size ≤ cell := by
      rw [wellFormed.cells_size, ← Layout.cellCount_of_fits fits]
      omega
    simp [inside, Grid.valueAt_eq_none_of_le outside]

/-- The candidates of the cells of the initial board are their free values. -/
theorem candidatesAt_initial {cell : Nat} (inside : cell < layout.cellCount) :
    (initial layout given).candidatesAt cell =
      freeValues layout given.domain.size (initial layout given).assigned cell := by
  simp [initial, candidatesAt, inside]

/-- A grid that passes its checks starts from a coherent board. -/
theorem coherent_initial (sound : layout.Sound) (wellFormed : given.WellFormed)
    (fits : layout.fits given = true) (checked : given.checkValues = .ok ())
    (respected : layout.Respected given) :
    Coherent layout given (initial layout given) := by
  have inDomain := (checkValues_eq_ok_iff given wellFormed).1 checked
  have assigned := assignedAt_initial fits wellFormed
  have value (cell : Nat) : given.valueAt cell =
      ((initial layout given).assignedAt cell).bind given.domain.value? := by
    rw [assigned]
    cases held : given.valueAt cell with
    | none => rfl
    | some symbol =>
        obtain ⟨index, found⟩ := Option.isSome_iff_exists.1 (inDomain cell symbol held)
        rw [Option.bind_some, found, Option.bind_some, Domain.value?_of_index? found]
  have assigned_lt (cell index : Nat)
      (isAssigned : (initial layout given).assignedAt cell = some index) :
      index < given.domain.size := by
    rw [assigned] at isAssigned
    obtain ⟨symbol, _, found⟩ := Option.bind_eq_some_iff.1 isAssigned
    exact Domain.lt_size_of_value? (Domain.value?_of_index? found)
  refine {
    sound, fits, wellFormed, value, assigned_lt
    layout_eq := rfl
    frame_eq := rfl
    assigned_size := by simp [initial]
    candidates_size := by simp [initial]
    distinct := ?_
    capacity := ?_
    candidates := ?_ }
  · intro cell peer member index isAssigned peerAssigned
    have held := value cell
    have peerHeld := value peer
    rw [isAssigned, Option.bind_some] at held
    rw [peerAssigned, Option.bind_some] at peerHeld
    obtain ⟨symbol, named⟩ :=
      given.domain.exists_value? (assigned_lt cell index isAssigned)
    rw [named] at held peerHeld
    exact respected cell peer member symbol held peerHeld
  · intro cell inside
    rw [candidatesAt_initial inside]
    exact capacity_freeValues _ _ _ _
  · intro cell inside index
    rw [candidatesAt_initial inside]
    exact contains_freeValues _ _ _ _ _

end Board
end Sudoku
