import Sudoku.Proofs.Board.Coherence

/-!
# Committing and releasing

A commit takes the index of a candidate to an open cell and strikes it from the
candidates of the open peers. A release gives the index back to those open peers
that no other peer keeps from it. Both keep a board coherent, and releasing the
cell of a commit restores the board from before it.
-/

namespace Sudoku
namespace Board

variable {alphabet : Alphabet} {layout : Layout} {given : Grid alphabet}
  {board next : Board alphabet} {cell value : Nat} {signals : List Signal}

/-- Changing the entries of some cells, each of them once. -/
theorem getElem?_foldl_modify {entry : Type} (entries : Array entry)
    (change : entry → entry) {cells : List Nat} (nodup : cells.Nodup) (cell : Nat) :
    (cells.foldl (fun entries cell => entries.modify cell change) entries)[cell]? =
      if cell ∈ cells then entries[cell]?.map change else entries[cell]? := by
  induction cells generalizing entries with
  | nil => simp
  | cons first rest inductionHypothesis =>
      obtain ⟨firstAbsent, restNodup⟩ := List.nodup_cons.1 nodup
      rw [List.foldl_cons, inductionHypothesis _ restNodup, Array.getElem?_modify]
      by_cases same : first = cell
      · subst same
        simp [firstAbsent]
      · simp [same, Ne.symm same]

/-- Changing entries does not change how many there are. -/
theorem size_foldl_modify {entry : Type} (entries : Array entry)
    (change : entry → entry) (cells : List Nat) :
    (cells.foldl (fun entries cell => entries.modify cell change) entries).size =
      entries.size := by
  induction cells generalizing entries with
  | nil => rfl
  | cons first rest inductionHypothesis =>
      rw [List.foldl_cons, inductionHypothesis, Array.size_modify]

/-- The assigned index of a cell after one entry was set. -/
theorem assignedAt_of_assigned_eq {entry : Option Nat}
    (assigned : next.assigned = board.assigned.setIfInBounds cell entry)
    (inside : cell < board.assigned.size) (other : Nat) :
    next.assignedAt other = if other = cell then entry else board.assignedAt other := by
  unfold assignedAt
  rw [assigned, Array.getD_eq_getD_getElem?, Array.getElem?_setIfInBounds,
    Array.getD_eq_getD_getElem?]
  by_cases same : cell = other
  · subst same
    simp [inside]
  · simp [same, Ne.symm same]

/-- Once an open cell is assigned an index, the cells around another cell avoid just
the indices they avoided before, except for that index if the cell is among them. -/
theorem forall_assignedAt_ne_iff (isOpen : board.assignedAt cell = none)
    (assignedAt : ∀ other, next.assignedAt other =
      if other = cell then some value else board.assignedAt other)
    (cells : List Nat) (index : Nat) :
    (∀ other ∈ cells, next.assignedAt other ≠ some index) ↔
      (∀ other ∈ cells, board.assignedAt other ≠ some index) ∧
        (cell ∈ cells → index ≠ value) := by
  constructor
  · intro avoided
    constructor
    · intro other member
      by_cases isCell : other = cell
      · simp [isCell, isOpen]
      · simpa [assignedAt, isCell] using avoided other member
    · intro member same
      exact avoided cell member (by simp [assignedAt, same])
  · rintro ⟨avoided, different⟩ other member
    rw [assignedAt]
    split
    · next isCell =>
        subst isCell
        simpa [eq_comm] using different member
    · exact avoided other member

namespace Coherent

/-- The value of a cell can be written through to the working grid. -/
theorem setValue_positionOf (coherent : Coherent layout given board)
    (inside : cell < layout.cellCount) (value : Option (Symbol alphabet)) :
    board.grid.setValue (board.layout.positionOf cell) value =
      .ok (board.grid.setValueAt cell value) := by
  have sameWidth := ((layout.fits_iff given).1 coherent.fits).2
  have widths : board.layout.width = board.grid.width := by
    rw [coherent.layout_eq, ← sameWidth, Grid.width_eq_of_frame_eq coherent.frame_eq]
  have inGrid : cell < board.grid.cellCount := by
    rw [Grid.cellCount_eq_of_frame_eq coherent.frame_eq, ← coherent.cellCount_eq]
    exact inside
  have positive : 0 < board.grid.width := by
    rw [Grid.width_eq_of_frame_eq coherent.frame_eq]
    exact coherent.wellFormed.width_pos
  unfold Layout.positionOf
  rw [widths, Grid.setValue]
  simp [Grid.contains, Grid.div_width_lt inGrid, Nat.mod_lt _ positive]

/-- A board stays coherent when the entry of one cell is set, the grid follows, and
the candidates are those of the new entries. -/
theorem of_assigned_eq (coherent : Coherent layout given board)
    (inside : cell < layout.cellCount) (entry : Option Nat)
    (layouts : next.layout = board.layout)
    (grids : next.grid =
      board.grid.setValueAt cell (entry.bind given.domain.value?))
    (assigned : next.assigned = board.assigned.setIfInBounds cell entry)
    (free : ∀ value, entry = some value →
      value < given.domain.size ∧
        ∀ peer ∈ layout.peersOf cell, board.assignedAt peer ≠ some value)
    (candidates_size : next.candidates.size = layout.cellCount)
    (capacity : ∀ other < layout.cellCount,
      (next.candidatesAt other).capacity = given.domain.size)
    (candidates : ∀ other < layout.cellCount, ∀ value,
      (next.candidatesAt other).contains value = true ↔
        next.assignedAt other = none ∧ value < given.domain.size ∧
          ∀ peer ∈ layout.peersOf other, next.assignedAt peer ≠ some value) :
    Coherent layout given next := by
  have assignedAt := assignedAt_of_assigned_eq assigned
    (by rw [coherent.assigned_size]; exact inside)
  refine { coherent with
    candidates_size, capacity, candidates
    layout_eq := layouts.trans coherent.layout_eq
    frame_eq := ?_
    assigned_size := ?_
    value := ?_
    assigned_lt := ?_
    distinct := ?_ }
  · rw [grids, Grid.frame_setValueAt, coherent.frame_eq]
  · rw [assigned, Array.size_setIfInBounds, coherent.assigned_size]
  · intro other
    rw [grids, Grid.valueAt_setValueAt, assignedAt, coherent.cells_size,
      coherent.value]
    by_cases same : other = cell
    · subst same
      simp [inside]
    · simp [same, Ne.symm same]
  · intro other value isAssigned
    rw [assignedAt] at isAssigned
    split at isAssigned
    · exact (free value isAssigned).1
    · exact coherent.assigned_lt other value isAssigned
  · intro other peer member value isAssigned peerAssigned
    have different := coherent.sound.ne_of_mem member
    rw [assignedAt] at isAssigned peerAssigned
    split at isAssigned
    · next same =>
        subst same
        rw [if_neg different] at peerAssigned
        exact (free value isAssigned).2 peer member peerAssigned
    · split at peerAssigned
      · next same =>
          subst same
          exact (free value peerAssigned).2 other
            (coherent.sound.comm other peer member) isAssigned
      · exact coherent.distinct other peer member value isAssigned peerAssigned

end Coherent

/-! ### Committing -/

/-- What a commit of an index to a cell does to a board. -/
structure Committed (layout : Layout) (given : Grid alphabet) (board : Board alphabet)
    (cell value : Nat) (next : Board alphabet) (signals : List Signal) : Prop where
  inside : cell < layout.cellCount
  candidate : (board.candidatesAt cell).contains value = true
  coherent : Coherent layout given next
  assigned : next.assigned = board.assigned.setIfInBounds cell (some value)
  candidatesAt : ∀ other < layout.cellCount, next.candidatesAt other =
    if other = cell then .empty given.domain.size
    else if other ∈ board.openPeers cell then (board.candidatesAt other).erase value
    else board.candidatesAt other
  trail : next.trail = some cell :: board.trail
  signals_eq : signals = (board.openPeers cell).filterMap (board.signal? value)

namespace Coherent

/-- The open peers of a cell are listed once. -/
theorem nodup_openPeers (coherent : Coherent layout given board) (cell : Nat) :
    (board.openPeers cell).Nodup := by
  unfold openPeers
  rw [coherent.layout_eq]
  exact (coherent.sound.nodup cell).filter _

/-- The candidates of the cells after a commit. -/
theorem candidatesAt_assign (coherent : Coherent layout given board)
    (inside : cell < layout.cellCount) (grid : Grid alphabet) (value : Nat) {other : Nat}
    (otherInside : other < layout.cellCount) :
    (board.assign grid cell value).candidatesAt other =
      if other = cell then .empty given.domain.size
      else if other ∈ board.openPeers cell then (board.candidatesAt other).erase value
      else board.candidatesAt other := by
  have stored := otherInside
  rw [← coherent.candidates_size] at inside stored
  simp only [Board.candidatesAt, assign, Array.getD_eq_getD_getElem?,
    Array.getElem?_setIfInBounds, size_foldl_modify,
    getElem?_foldl_modify _ _ (coherent.nodup_openPeers cell)]
  by_cases same : cell = other
  · subst same
    simp [inside, domainSize, coherent.domain_eq]
  · by_cases member : other ∈ board.openPeers cell <;>
      simp [same, Ne.symm same, member, stored]

/-- Committing a candidate keeps a board coherent. -/
theorem assign (coherent : Coherent layout given board)
    (inside : cell < layout.cellCount)
    (candidate : (board.candidatesAt cell).contains value = true)
    {symbol : Symbol alphabet} (named : given.domain.value? value = some symbol) :
    Coherent layout given
      (board.assign (board.grid.setValueAt cell (some symbol)) cell value) := by
  have isOpen := coherent.isOpen_of_candidate inside candidate
  have free := ((coherent.candidates cell inside value).1 candidate).2
  have candidatesAt {other : Nat} (otherInside : other < layout.cellCount) :=
    coherent.candidatesAt_assign inside (board.grid.setValueAt cell (some symbol)) value
      otherInside
  have assigned :
      (board.assign (board.grid.setValueAt cell (some symbol)) cell value).assigned =
        board.assigned.setIfInBounds cell (some value) := rfl
  have assignedAt := assignedAt_of_assigned_eq assigned
    (by rw [coherent.assigned_size]; exact inside)
  refine coherent.of_assigned_eq inside (some value) rfl
    (by rw [Option.bind_some, named]; rfl) rfl ?_ ?_ ?_ ?_
  · rintro _ ⟨rfl⟩
    exact free
  · simp [Board.assign, size_foldl_modify, coherent.candidates_size]
  · intro other otherInside
    rw [candidatesAt otherInside]
    split
    · rfl
    · split
      · rw [CandidateSet.capacity_erase, coherent.capacity other otherInside]
      · exact coherent.capacity other otherInside
  · intro other otherInside index
    rw [candidatesAt otherInside, assignedAt]
    by_cases same : other = cell
    · simp [same]
    · have avoids := forall_assignedAt_ne_iff isOpen assignedAt
        (layout.peersOf other) index
      rw [if_neg same, if_neg same, avoids]
      by_cases member : other ∈ board.openPeers cell
      · rw [if_pos member, CandidateSet.contains_erase, Bool.and_eq_true,
          decide_eq_true_eq, coherent.candidates other otherInside]
        rw [mem_openPeers_iff, coherent.layout_eq, coherent.sound.mem_comm] at member
        simp [member.1, and_assoc]
      · rw [if_neg member, coherent.candidates other otherInside]
        rw [mem_openPeers_iff, coherent.layout_eq, coherent.sound.mem_comm] at member
        apply and_congr_right
        intro otherOpen
        apply and_congr_right
        intro _
        have away : cell ∉ layout.peersOf other := fun near => member ⟨near, otherOpen⟩
        simp [away]

/-- A candidate can be committed. -/
theorem commit_eq (coherent : Coherent layout given board)
    (inside : cell < layout.cellCount)
    (candidate : (board.candidatesAt cell).contains value = true) :
    ∃ symbol, given.domain.value? value = some symbol ∧
      board.commit cell value =
        .ok (board.assign (board.grid.setValueAt cell (some symbol)) cell value,
          (board.openPeers cell).filterMap (board.signal? value)) := by
  have isOpen := getElem?_assigned_of_open
    (by rw [coherent.assigned_size]; exact inside)
    (coherent.isOpen_of_candidate inside candidate)
  obtain ⟨symbol, named⟩ :=
    given.domain.exists_value? (coherent.lt_size_of_candidate inside candidate)
  refine ⟨symbol, named, ?_⟩
  simp only [Board.commit, isOpen, candidate, if_true, coherent.domain_eq, named,
    Grid.commit, coherent.setValue_positionOf inside, Except.map]

/-- A commit that succeeds is of a candidate. -/
theorem candidate_of_commit (coherent : Coherent layout given board)
    (committed : board.commit cell value = .ok (next, signals)) :
    cell < layout.cellCount ∧ (board.candidatesAt cell).contains value = true := by
  unfold Board.commit at committed
  split at committed
  · simp at committed
  · simp at committed
  · next isOpen =>
      obtain ⟨inside, _⟩ := Array.getElem?_eq_some_iff.1 isOpen
      rw [coherent.assigned_size] at inside
      split at committed
      · next candidate => exact ⟨inside, candidate⟩
      · simp at committed

/-- What a successful commit does. -/
theorem committed (coherent : Coherent layout given board)
    (committed : board.commit cell value = .ok (next, signals)) :
    Committed layout given board cell value next signals := by
  obtain ⟨inside, candidate⟩ := coherent.candidate_of_commit committed
  obtain ⟨symbol, named, success⟩ := coherent.commit_eq inside candidate
  rw [success, Except.ok.injEq, Prod.mk.injEq] at committed
  obtain ⟨rfl, rfl⟩ := committed
  exact {
    inside, candidate
    coherent := coherent.assign inside candidate named
    assigned := rfl
    candidatesAt := fun other => coherent.candidatesAt_assign inside _ value
    trail := rfl
    signals_eq := rfl }

/-- Every candidate can be committed, with the effects of a commit. -/
theorem exists_commit (coherent : Coherent layout given board)
    (inside : cell < layout.cellCount)
    (candidate : (board.candidatesAt cell).contains value = true) :
    ∃ next signals, board.commit cell value = .ok (next, signals) ∧
      Committed layout given board cell value next signals := by
  obtain ⟨_, _, success⟩ := coherent.commit_eq inside candidate
  exact ⟨_, _, success, coherent.committed success⟩

end Coherent

namespace Committed

variable (committed : Committed layout given board cell value next signals)

include committed

/-- A commit assigns its index to its cell and nothing else. -/
theorem assignedAt (coherent : Coherent layout given board) (other : Nat) :
    next.assignedAt other = if other = cell then some value else board.assignedAt other :=
  assignedAt_of_assigned_eq committed.assigned
    (by rw [coherent.assigned_size]; exact committed.inside) other

/-- The cell of a commit was open. -/
theorem isOpen (coherent : Coherent layout given board) : board.assignedAt cell = none :=
  coherent.isOpen_of_candidate committed.inside committed.candidate

end Committed

/-! ### Releasing -/

/-- An index is excluded from a cell exactly when one of its peers is assigned it. -/
theorem isExcluded_eq_false_iff (layout : Layout) (board : Board alphabet)
    (cell value : Nat) :
    isExcluded layout board.assigned cell value = false ↔
      ∀ peer ∈ layout.peersOf cell, board.assignedAt peer ≠ some value := by
  simp [isExcluded, assignedAt]

namespace Coherent

/-- The candidates of the cells after a cell was opened again. -/
theorem candidatesAt_reopen (coherent : Coherent layout given board)
    (inside : cell < layout.cellCount) (grid : Grid alphabet) (value : Nat) {other : Nat}
    (otherInside : other < layout.cellCount) :
    (board.reopen grid cell value).candidatesAt other =
      if other = cell then
        freeValues layout given.domain.size (board.reopen grid cell value).assigned cell
      else if other ∈ layout.peersOf cell ∧
          (board.reopen grid cell value).assignedAt other = none ∧
          ∀ peer ∈ layout.peersOf other,
            (board.reopen grid cell value).assignedAt peer ≠ some value then
        (board.candidatesAt other).insert value
      else board.candidatesAt other := by
  have stored := otherInside
  rw [← coherent.candidates_size] at inside stored
  have freedNodup := (coherent.sound.nodup cell).filter fun peer =>
    ((board.reopen grid cell value).assigned.getD peer none).isNone &&
      !isExcluded layout (board.reopen grid cell value).assigned peer value
  have entry : (board.reopen grid cell value).candidates =
      ((((layout.peersOf cell).filter fun peer =>
        ((board.reopen grid cell value).assigned.getD peer none).isNone &&
          !isExcluded layout (board.reopen grid cell value).assigned peer value).foldl
            (fun candidates peer => candidates.modify peer (·.insert value))
            board.candidates).setIfInBounds cell
              (freeValues layout given.domain.size
                (board.reopen grid cell value).assigned cell)) := by
    unfold reopen
    rw [coherent.layout_eq, domainSize, coherent.domain_eq]
  rw [Board.candidatesAt, entry, Array.getD_eq_getD_getElem?,
    Array.getElem?_setIfInBounds, size_foldl_modify, getElem?_foldl_modify _ _ freedNodup]
  by_cases same : cell = other
  · subst same
    simp [inside]
  · have freed : other ∈ (layout.peersOf cell).filter (fun peer =>
          ((board.reopen grid cell value).assigned.getD peer none).isNone &&
            !isExcluded layout (board.reopen grid cell value).assigned peer value) ↔
        other ∈ layout.peersOf cell ∧
          (board.reopen grid cell value).assignedAt other = none ∧
          ∀ peer ∈ layout.peersOf other,
            (board.reopen grid cell value).assignedAt peer ≠ some value := by
      rw [List.mem_filter, Bool.and_eq_true, Bool.not_eq_true', isExcluded_eq_false_iff,
        Option.isNone_iff_eq_none]
      rfl
    rw [if_neg same, if_neg (Ne.symm same), Board.candidatesAt,
      Array.getD_eq_getD_getElem?]
    simp only [freed]
    split <;> simp [stored]

/-- Opening an assigned cell again keeps a board coherent. -/
theorem reopen (coherent : Coherent layout given board)
    (isAssigned : board.assignedAt cell = some value) :
    Coherent layout given
      (board.reopen (board.grid.setValueAt cell none) cell value) := by
  have inside := coherent.lt_of_assignedAt isAssigned
  generalize next_eq : board.reopen (board.grid.setValueAt cell none) cell value = next
  have assigned : next.assigned = board.assigned.setIfInBounds cell none := by
    rw [← next_eq]
    rfl
  have opened := assignedAt_of_assigned_eq assigned
    (by rw [coherent.assigned_size]; exact inside)
  have candidatesAt {other : Nat} (otherInside : other < layout.cellCount) :=
    coherent.candidatesAt_reopen inside (board.grid.setValueAt cell none) value
      otherInside
  rw [next_eq] at candidatesAt
  have isOpen : next.assignedAt cell = none := by rw [opened, if_pos rfl]
  -- Seen from the new board, the old one is the same with the cell assigned.
  have before (other : Nat) : board.assignedAt other =
      if other = cell then some value else next.assignedAt other := by
    rw [opened]
    split
    · next same => rw [same, isAssigned]
    · rfl
  refine coherent.of_assigned_eq inside none
    (by rw [← next_eq]; rfl) (by rw [← next_eq]; rfl) assigned (by simp) ?_ ?_ ?_
  · rw [← next_eq]
    simp [Board.reopen, size_foldl_modify, coherent.candidates_size]
  · intro other otherInside
    rw [candidatesAt otherInside]
    split
    · exact capacity_freeValues _ _ _ _
    · split
      · rw [CandidateSet.capacity_insert, coherent.capacity other otherInside]
      · exact coherent.capacity other otherInside
  · intro other otherInside index
    rw [candidatesAt otherInside]
    by_cases same : other = cell
    · rw [if_pos same, same]
      exact contains_freeValues _ _ _ _ _
    · have old := coherent.candidates other otherInside index
      rw [before, if_neg same, forall_assignedAt_ne_iff isOpen before] at old
      rw [if_neg same]
      split
      · next freed =>
          obtain ⟨member, otherOpen, avoided⟩ := freed
          rw [CandidateSet.contains_insert, Bool.or_eq_true, decide_eq_true_eq, old,
            coherent.capacity other otherInside]
          by_cases isValue : index = value
          · subst isValue
            simp only [coherent.assigned_lt cell index isAssigned, and_self, or_true,
              true_iff]
            exact ⟨otherOpen, trivial, avoided⟩
          · simp [isValue]
      · next kept =>
          rw [old]
          refine and_congr_right fun otherOpen => and_congr_right fun _ => ?_
          refine and_iff_left_of_imp fun avoided near isValue => kept ?_
          rw [isValue] at avoided
          exact ⟨coherent.sound.comm other cell near, otherOpen, avoided⟩

/-- Releasing an assigned cell opens it and keeps the board coherent. -/
theorem exists_release (coherent : Coherent layout given board)
    (isAssigned : board.assignedAt cell = some value) :
    ∃ next, board.release cell = .ok next ∧ Coherent layout given next ∧
      next.assigned = board.assigned.setIfInBounds cell none ∧
      next.trail = board.trail := by
  have inside := coherent.lt_of_assignedAt isAssigned
  refine ⟨_, ?_, coherent.reopen isAssigned, rfl, rfl⟩
  simp only [release, isAssigned, Grid.clear, coherent.setValue_positionOf inside,
    Except.map]

end Coherent
end Board
end Sudoku
