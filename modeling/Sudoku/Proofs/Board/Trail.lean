import Mathlib.Data.List.ReduceOption
import Sudoku.Proofs.Board.Propagation

/-!
# The trail

The trail of a board names every cell that was committed since the board was made
and still holds its value, once each, between blanks. A board with such a trail that
has kept the values of the grid it was made from is tracked. A commit, the undoing
of a cell on the trail, and the release of the latest entry keep a board tracked, and
rolling back is releasing the latest entry over and over.
-/

namespace Sudoku
namespace Board

variable {alphabet : Alphabet} {layout : Layout} {given : Grid alphabet}
  {board next : Board alphabet} {cell value : Nat} {signals : List Signal}

/-- The cells named on the trail, the latest committed first. -/
def committedCells (board : Board alphabet) : List Nat :=
  board.trail.reduceOption

/-! ### Blanking -/

/-- A trail with the entries of some cells blanked. -/
def blanked (cells : List Nat) (trail : List (Option Nat)) : List (Option Nat) :=
  trail.map fun entry => entry.filter fun cell => decide (cell ∉ cells)

@[simp] theorem length_blanked (cells : List Nat) (trail : List (Option Nat)) :
    (blanked cells trail).length = trail.length := by
  unfold blanked
  rw [List.length_map]

@[simp] theorem blanked_append (cells : List Nat) (later earlier : List (Option Nat)) :
    blanked cells (later ++ earlier) = blanked cells later ++ blanked cells earlier :=
  List.map_append

@[simp] theorem blanked_cons_none (cells : List Nat) (earlier : List (Option Nat)) :
    blanked cells (none :: earlier) = none :: blanked cells earlier := rfl

@[simp] theorem blanked_cons_some (cells : List Nat) (cell : Nat)
    (earlier : List (Option Nat)) :
    blanked cells (some cell :: earlier) =
      (if cell ∈ cells then none else some cell) :: blanked cells earlier := by
  by_cases blank : cell ∈ cells <;> simp [blanked, Option.filter, blank]

/-- Blanking leaves the other cells, in their order. -/
theorem reduceOption_blanked (cells : List Nat) (trail : List (Option Nat)) :
    (blanked cells trail).reduceOption =
      trail.reduceOption.filter fun cell => decide (cell ∉ cells) := by
  induction trail with
  | nil => rfl
  | cons entry earlier inductionHypothesis =>
      cases entry with
      | none => simpa using inductionHypothesis
      | some cell =>
          by_cases blank : cell ∈ cells <;> simpa [blank] using inductionHypothesis

/-- Blanking cells that a trail does not name leaves it alone. -/
theorem blanked_eq_self {cells : List Nat} {trail : List (Option Nat)}
    (absent : ∀ cell ∈ cells, cell ∉ trail.reduceOption) : blanked cells trail = trail := by
  induction trail with
  | nil => rfl
  | cons entry earlier inductionHypothesis =>
      cases entry with
      | none => rw [blanked_cons_none, inductionHypothesis absent]
      | some cell =>
          simp only [List.reduceOption_cons_of_some, List.mem_cons, not_or] at absent
          have kept : cell ∉ cells := fun blank => (absent cell blank).1 rfl
          rw [blanked_cons_some, if_neg kept,
            inductionHypothesis fun other blank => (absent other blank).2]

/-- Blanking cells one after another is blanking them all. -/
theorem blanked_blanked (first second : List Nat) (trail : List (Option Nat)) :
    blanked second (blanked first trail) = blanked (first ++ second) trail := by
  induction trail with
  | nil => rfl
  | cons entry earlier inductionHypothesis =>
      cases entry with
      | none => simpa using inductionHypothesis
      | some other =>
          by_cases blank : other ∈ first <;> simp [blank, inductionHypothesis]

/-- There is a commit to take back for exactly the cells that the trail names. -/
theorem blankLatest?_eq_none_iff (cell : Nat) (trail : List (Option Nat)) :
    blankLatest? cell trail = none ↔ cell ∉ trail.reduceOption := by
  induction trail with
  | nil => simp [blankLatest?]
  | cons entry earlier inductionHypothesis =>
      rw [blankLatest?, List.reduceOption_mem_iff, List.mem_cons, not_or]
      split
      · next same => simp [same]
      · next different =>
          rw [Option.map_eq_none_iff, inductionHypothesis, List.reduceOption_mem_iff]
          simp [Ne.symm different]

/-- On a trail that names each cell once, blanking the latest commit to a cell blanks
the cell. -/
theorem blankLatest?_eq_some {trail : List (Option Nat)} (nodup : trail.reduceOption.Nodup)
    (member : cell ∈ trail.reduceOption) :
    blankLatest? cell trail = some (blanked [cell] trail) := by
  induction trail with
  | nil => simp at member
  | cons entry earlier inductionHypothesis =>
      cases entry with
      | none =>
          rw [blankLatest?, if_neg (by simp), inductionHypothesis nodup member]
          rfl
      | some other =>
          rw [List.reduceOption_cons_of_some] at nodup member
          obtain ⟨otherAbsent, earlierNodup⟩ := List.nodup_cons.1 nodup
          rw [blankLatest?, blanked_cons_some]
          by_cases same : other = cell
          · subst same
            have rest : blanked [other] earlier = earlier :=
              blanked_eq_self (by simpa using otherAbsent)
            simp [rest]
          · have found := inductionHypothesis earlierNodup
              ((List.mem_cons.1 member).resolve_left (Ne.symm same))
            simp [same, found]

/-- Undoing a cell that is not on the trail fails. -/
theorem undo_eq_error (board : Board alphabet) (absent : cell ∉ board.committedCells) :
    board.undo cell =
      .error (.internal (.uncommittedCell (board.layout.positionOf cell))) := by
  unfold undo
  rw [(blankLatest?_eq_none_iff cell board.trail).2 absent]

/-! ### Tracked boards -/

/-- A coherent board whose trail names, once each, the cells that hold a value without
being given one, and which still has the given values. -/
structure Tracked (layout : Layout) (given : Grid alphabet) (board : Board alphabet) :
    Prop where
  coherent : Coherent layout given board
  nodup : board.committedCells.Nodup
  mem_iff : ∀ cell, cell ∈ board.committedCells ↔
    board.assignedAt cell ≠ none ∧ given.valueAt cell = none
  keeps : ∀ cell symbol, given.valueAt cell = some symbol →
    board.grid.valueAt cell = some symbol

/-- A board that was made from a grid is tracked. -/
theorem tracked_of_ofGrid (sound : layout.Sound) (wellFormed : given.WellFormed)
    (made : ofGrid layout given = .ok board) : Tracked layout given board := by
  obtain ⟨fits, checked, unique, rfl⟩ := ofGrid_eq_ok_iff.1 made
  have respected : layout.Respected given := by
    rcases Layout.checkUnique_eq sound fits with
      ⟨respected, _⟩ | ⟨_, _, _, _, _, _, _, _, conflicting⟩
    · exact respected
    · rw [unique] at conflicting
      simp at conflicting
  refine ⟨coherent_initial sound wellFormed fits checked respected, .nil, ?_, ?_⟩
  · intro cell
    rw [assignedAt_initial fits wellFormed]
    apply iff_of_false (by simp [committedCells, initial])
    rintro ⟨isAssigned, missing⟩
    simp [missing] at isAssigned
  · intro cell symbol held
    exact held

/-- A coherent board is coherent with any trail. -/
theorem Coherent.withTrail (coherent : Coherent layout given board)
    (trail : List (Option Nat)) : Coherent layout given { board with trail } :=
  { coherent with }

/-- The index of a cell is known from its value. -/
theorem Coherent.assignedAt_eq_of_valueAt_eq {first second : Board alphabet}
    (firstCoherent : Coherent layout given first)
    (secondCoherent : Coherent layout given second)
    (same : first.grid.valueAt cell = second.grid.valueAt cell) :
    first.assignedAt cell = second.assignedAt cell := by
  cases firstAssigned : first.assignedAt cell with
  | none =>
      rw [← firstCoherent.valueAt_eq_none_iff, same, secondCoherent.valueAt_eq_none_iff]
        at firstAssigned
      exact firstAssigned.symm
  | some index =>
      obtain ⟨symbol, named, held⟩ := firstCoherent.exists_valueAt firstAssigned
      cases secondAssigned : second.assignedAt cell with
      | none =>
          rw [← secondCoherent.valueAt_eq_none_iff, ← same, held] at secondAssigned
          simp at secondAssigned
      | some other =>
          obtain ⟨otherSymbol, otherNamed, otherHeld⟩ :=
            secondCoherent.exists_valueAt secondAssigned
          rw [← same, held, Option.some.injEq] at otherHeld
          rw [otherHeld] at named
          rw [Domain.index_eq_of_value? named otherNamed]

namespace Tracked

/-- No value is given for an open cell. -/
theorem given_eq_none (tracked : Tracked layout given board)
    (isOpen : board.assignedAt cell = none) : given.valueAt cell = none := by
  cases held : given.valueAt cell with
  | none => rfl
  | some symbol =>
      have kept := tracked.keeps cell symbol held
      rw [tracked.coherent.value, isOpen] at kept
      simp at kept

/-- A tracked board stays tracked under changes of the cells that it was not given values
for, if the trail follows them. -/
theorem of_assignedAt (tracked : Tracked layout given board)
    (coherent : Coherent layout given next)
    (kept : ∀ other, given.valueAt other ≠ none →
      next.assignedAt other = board.assignedAt other)
    (nodup : next.committedCells.Nodup)
    (mem_iff : ∀ other, other ∈ next.committedCells ↔
      next.assignedAt other ≠ none ∧ given.valueAt other = none) :
    Tracked layout given next where
  coherent := coherent
  nodup := nodup
  mem_iff := mem_iff
  keeps other symbol held := by
    rw [coherent.value, kept other (by simp [held]), ← tracked.coherent.value]
    exact tracked.keeps other symbol held

/-- A commit keeps a board tracked. -/
theorem commit (tracked : Tracked layout given board)
    (success : board.commit cell value = .ok (next, signals)) :
    Tracked layout given next := by
  have committed := tracked.coherent.committed success
  have isOpen := committed.isOpen tracked.coherent
  have assignedAt := committed.assignedAt tracked.coherent
  have ungiven := tracked.given_eq_none isOpen
  have cells : next.committedCells = cell :: board.committedCells := by
    unfold committedCells
    rw [committed.trail, List.reduceOption_cons_of_some]
  apply tracked.of_assignedAt committed.coherent
  · intro other isGiven
    rw [assignedAt, if_neg]
    rintro rfl
    exact isGiven ungiven
  · rw [cells, List.nodup_cons, tracked.mem_iff]
    exact ⟨fun onTrail => onTrail.1 isOpen, tracked.nodup⟩
  · intro other
    rw [cells, List.mem_cons, tracked.mem_iff, assignedAt]
    by_cases same : other = cell
    · simp [same, ungiven]
    · simp [same]

/-- Commits keep a board tracked. -/
theorem of_descends (tracked : Tracked layout given board) (descends : Descends board next) :
    Tracked layout given next := by
  induction descends with
  | refl => exact tracked
  | tail _ step inductionHypothesis =>
      obtain ⟨cell, value, signals, success⟩ := step
      exact inductionHypothesis.commit success

/-- Taking a cell off the trail and releasing it succeeds, opens it, and keeps the board
tracked. -/
theorem exists_release (tracked : Tracked layout given board)
    (committed : cell ∈ board.committedCells) {trail : List (Option Nat)}
    (nodup : trail.reduceOption.Nodup)
    (others : ∀ other, other ∈ trail.reduceOption ↔
      other ∈ board.committedCells ∧ other ≠ cell) :
    ∃ next, ({ board with trail } : Board alphabet).release cell = .ok next ∧
      Tracked layout given next ∧ next.trail = trail ∧
      ∀ other, next.assignedAt other =
        if other = cell then none else board.assignedAt other := by
  obtain ⟨isAssigned, ungiven⟩ := (tracked.mem_iff cell).1 committed
  obtain ⟨value, isAssigned⟩ := Option.ne_none_iff_exists'.1 isAssigned
  obtain ⟨released, success, coherent, assigned, _⟩ :=
    tracked.coherent.exists_release isAssigned
  have assignedAt : ∀ other, ({ released with trail } : Board alphabet).assignedAt other =
      if other = cell then none else board.assignedAt other :=
    assignedAt_of_assigned_eq assigned (lt_size_of_assignedAt isAssigned)
  refine ⟨{ released with trail }, ?_, ?_, rfl, assignedAt⟩
  · rw [release_withTrail, success]
    rfl
  · apply tracked.of_assignedAt (coherent.withTrail trail)
    · intro other isGiven
      rw [assignedAt, if_neg]
      rintro rfl
      exact isGiven ungiven
    · exact nodup
    · intro other
      unfold committedCells
      rw [others, tracked.mem_iff, assignedAt]
      by_cases same : other = cell
      · simp [same]
      · simp [same]

/-- Undoing a cell on the trail succeeds, opens the cell, and blanks it on the trail. -/
theorem exists_undo (tracked : Tracked layout given board)
    (committed : cell ∈ board.committedCells) :
    ∃ next, board.undo cell = .ok next ∧ Tracked layout given next ∧
      next.trail = blanked [cell] board.trail ∧
      ∀ other, next.assignedAt other =
        if other = cell then none else board.assignedAt other := by
  have remaining := reduceOption_blanked [cell] board.trail
  unfold undo
  rw [blankLatest?_eq_some tracked.nodup committed]
  apply tracked.exists_release committed
  · rw [remaining]
    exact tracked.nodup.filter _
  · intro other
    rw [remaining]
    simp [committedCells]

/-- Dropping the latest entry of the trail and releasing its cell, if it has one,
succeeds. -/
theorem exists_releaseEntry (tracked : Tracked layout given board) {entry : Option Nat}
    {earlier : List (Option Nat)} (trail : board.trail = entry :: earlier) :
    ∃ next, ({ board with trail := earlier } : Board alphabet).releaseEntry entry = .ok next ∧
      Tracked layout given next ∧ next.trail = earlier ∧
      ∀ other, entry ≠ some other → next.assignedAt other = board.assignedAt other := by
  have nodup := tracked.nodup
  have mem_iff := tracked.mem_iff
  unfold committedCells at nodup mem_iff
  rw [trail] at nodup mem_iff
  cases entry with
  | none =>
      refine ⟨{ board with trail := earlier }, rfl, ?_, rfl, fun _ _ => rfl⟩
      exact tracked.of_assignedAt (tracked.coherent.withTrail earlier) (fun _ _ => rfl)
        nodup mem_iff
  | some cell =>
      rw [List.reduceOption_cons_of_some, List.nodup_cons] at nodup
      have committed : board.committedCells = cell :: earlier.reduceOption := by
        rw [committedCells, trail, List.reduceOption_cons_of_some]
      have others (other : Nat) : other ∈ earlier.reduceOption ↔
          other ∈ board.committedCells ∧ other ≠ cell := by
        rw [committed, List.mem_cons]
        constructor
        · intro member
          exact ⟨.inr member, fun same => nodup.1 (same ▸ member)⟩
        · rintro ⟨same | member, different⟩
          · exact absurd same different
          · exact member
      obtain ⟨next, released, nextTracked, nextTrail, assignedAt⟩ :=
        tracked.exists_release (by simp [committed]) nodup.2 others
      refine ⟨next, released, nextTracked, nextTrail, ?_⟩
      intro other different
      rw [assignedAt, if_neg fun same => different (by rw [same])]

end Tracked

/-! ### Rolling back -/

/-- Rolling back to a mark that is not earlier than the present does nothing. -/
theorem rollback_of_le {mark : Nat} (present : board.mark ≤ mark) :
    board.rollback mark = .ok board := by
  unfold Board.mark at present
  rw [rollback, Nat.sub_eq_zero_of_le present]
  rfl

/-- Releasing an entry does not look at the trail and leaves it alone. -/
theorem releaseEntry_withTrail (board : Board alphabet) (trail : List (Option Nat))
    (entry : Option Nat) :
    ({ board with trail } : Board alphabet).releaseEntry entry =
      (board.releaseEntry entry).map fun next => { next with trail } := by
  cases entry with
  | none => rfl
  | some cell => exact release_withTrail board trail cell

/-- Rolling back drops the latest entry of the trail and goes on from there. -/
theorem rollback_cons {entry : Option Nat} {earlier : List (Option Nat)}
    (trail : board.trail = entry :: earlier) {mark : Nat} (before : mark ≤ earlier.length)
    (released : ({ board with trail := earlier } : Board alphabet).releaseEntry entry =
      .ok next) :
    board.rollback mark = next.rollback mark := by
  have count : board.trail.length - mark = earlier.length - mark + 1 := by
    rw [trail, List.length_cons]
    omega
  rw [releaseEntry_withTrail] at released
  cases success : board.releaseEntry entry with
  | error error => simp [success, Except.map] at released
  | ok middle =>
      rw [success, Except.map, Except.ok.injEq] at released
      rw [rollback, count, trail, List.take_succ_cons, List.drop_succ_cons, List.foldlM_cons,
        releaseEntry_withTrail, success, ← released]
      rfl

end Board
end Sudoku
