import Sudoku.Proofs.Board.InPlace
import Sudoku.Proofs.Grid.Completion

/-!
# Sequences of calls

A board may be called in any order: to commit, to undo a cell, to roll back to any
mark, and to propagate. The calls work on the board in place, and what follows a call
finds the board that it left, also when it failed on the way. Whatever the calls, the
board stays tracked, so that its candidates, its working grid and its trail follow
from its assigned indices and the grid that it was made from, and a call that fails
leaves the board as it was. Rolling back to the mark of an earlier board restores that
board, but for the commits on its trail that were undone in the meantime.
-/

namespace Sudoku
namespace Board

variable {alphabet : Alphabet} {layout : Layout} {given : Grid alphabet}
  {board next base first : Board alphabet} {cell value mark : Nat} {undone : List Nat}

/-- What a board can be called for. -/
inductive Call
  | commit (cell value : Nat)
  | undo (cell : Nat)
  | rollback (mark : Nat)
  | propagate
  deriving DecidableEq

/-- The cells that a call undoes by name. -/
def Call.undoes : Call → List Nat
  | .undo cell => [cell]
  | .commit _ _ | .rollback _ | .propagate => []

/-- The board that a call makes of a board, unless it fails. -/
def answer (board : Board alphabet) : Call → Except Error (Board alphabet)
  | .commit cell value => (board.commit cell value).map Prod.fst
  | .undo cell => board.undo cell
  | .rollback mark => board.rollback mark
  | .propagate => board.propagate.map Prod.fst

/-- The work that a call asks for. -/
def Call.work : Call → Work alphabet Unit
  | .commit cell value => (fun _ => ()) <$> Work.commit cell value
  | .undo cell => Work.undo cell
  | .rollback mark => Work.rollback mark
  | .propagate => (fun _ => ()) <$> Work.propagate

/-- The board that a call leaves behind, whether it succeeds or fails. -/
def after (board : Board alphabet) (call : Call) : Board alphabet :=
  InPlace.left call.work board

/-- The board after a sequence of calls. -/
def follow (board : Board alphabet) (calls : List Call) : Board alphabet :=
  calls.foldl after board

/-- A board accepts the commit of a candidate, the undoing of a cell on its trail, and
every rollback and propagation. Everything else is refused before anything changes. -/
def Accepts (board : Board alphabet) : Call → Prop
  | .commit cell value => (board.candidatesAt cell).contains value = true
  | .undo cell => cell ∈ board.committedCells
  | .rollback _ | .propagate => True

/-! ### What became of a board -/

/-- What calls made of a tracked board, given the cells that they undid: the bottom of
the trail is that of the base with the undone cells blanked, and the other commits of
the base still stand. -/
structure Since (layout : Layout) (given : Grid alphabet) (base : Board alphabet)
    (undone : List Nat) (board : Board alphabet) : Prop where
  tracked : Tracked layout given board
  trail : ∃ recent, board.trail = recent ++ blanked undone base.trail
  assignedAt : ∀ cell ∈ base.committedCells, cell ∉ undone →
    board.assignedAt cell = base.assignedAt cell

/-- At first nothing became of a board. -/
theorem Tracked.since (tracked : Tracked layout given base) :
    Since layout given base [] base where
  tracked := tracked
  trail := ⟨[], by rw [blanked_eq_self (by simp), List.nil_append]⟩
  assignedAt _ _ _ := rfl

/-- Nothing can become of a base without a trail. -/
theorem Tracked.since_of_trail_eq_nil (tracked : Tracked layout given board)
    (bare : base.trail = []) : Since layout given base [] board where
  tracked := tracked
  trail := ⟨board.trail, by simp [bare, blanked]⟩
  assignedAt cell committed := by simp [committedCells, bare] at committed

namespace Since

/-- The commits of the base that were not undone are still on the trail. -/
theorem mem_committedCells (since : Since layout given base undone board)
    (committed : cell ∈ base.committedCells) (kept : cell ∉ undone) :
    cell ∈ board.committedCells := by
  obtain ⟨recent, trail⟩ := since.trail
  unfold committedCells at committed ⊢
  rw [trail, List.reduceOption_append, reduceOption_blanked]
  simp [committed, kept]

/-- A commit goes on top of the trail and leaves the commits of the base alone. -/
theorem commit (since : Since layout given base undone board) {signals : List Signal}
    (success : board.commit cell value = .ok (next, signals)) :
    Since layout given base undone next := by
  have committed := since.tracked.coherent.committed success
  have isOpen := committed.isOpen since.tracked.coherent
  obtain ⟨recent, trail⟩ := since.trail
  refine ⟨since.tracked.commit success,
    ⟨some cell :: recent, by rw [committed.trail, trail, List.cons_append]⟩, ?_⟩
  intro other onTrail kept
  have isAssigned := (since.tracked.mem_iff other).1 (since.mem_committedCells onTrail kept)
  rw [committed.assignedAt since.tracked.coherent, if_neg, since.assignedAt other onTrail kept]
  rintro rfl
  exact isAssigned.1 isOpen

/-- Forced commits leave the commits of the base alone. -/
theorem forcedRun (since : Since layout given base undone board) {count : Nat}
    (run : ForcedRun board count next) : Since layout given base undone next := by
  induction run with
  | rest board => exact since
  | force _ success _ inductionHypothesis => exact inductionHypothesis (since.commit success)

/-- Rolling back to a mark that is not earlier than that of the base succeeds, at that
mark, and leaves the commits of the base alone. -/
theorem exists_rollback (since : Since layout given base undone board)
    (later : base.mark ≤ mark) :
    ∃ next, board.rollback mark = .ok next ∧ Since layout given base undone next ∧
      next.mark = min mark board.mark := by
  induction excess : board.mark - mark generalizing board with
  | zero =>
      have present : board.mark ≤ mark := by omega
      exact ⟨board, rollback_of_le present, since, by omega⟩
  | succ count inductionHypothesis =>
      obtain ⟨recent, trail⟩ := since.trail
      have length := congrArg List.length trail
      rw [List.length_append, length_blanked] at length
      unfold Board.mark at excess later
      -- The base has fewer entries than the trail, so the latest entry is a recent one.
      cases recent with
      | nil => rw [List.length_nil] at length; omega
      | cons entry recent =>
          rw [List.cons_append] at trail
          obtain ⟨next, released, tracked, nextTrail, assignedAt⟩ :=
            since.tracked.exists_releaseEntry trail
          have nextLength := congrArg List.length nextTrail
          rw [List.length_append, length_blanked] at nextLength
          rw [List.length_cons] at length
          have nextSince : Since layout given base undone next := by
            refine ⟨tracked, ⟨recent, nextTrail⟩, ?_⟩
            intro other onTrail kept
            rw [assignedAt, since.assignedAt other onTrail kept]
            rintro rfl
            have nodup := since.tracked.nodup
            unfold committedCells at nodup onTrail
            rw [trail, List.reduceOption_cons_of_some, List.reduceOption_append,
              reduceOption_blanked, List.nodup_cons] at nodup
            exact nodup.1 (by simp [onTrail, kept])
          obtain ⟨last, rolledBack, lastSince, lastMark⟩ :=
            inductionHypothesis nextSince (by unfold Board.mark; omega)
          refine ⟨last, ?_, lastSince, ?_⟩
          · rw [rollback_cons trail (by rw [List.length_append, length_blanked]; omega) released,
              rolledBack]
          · rw [lastMark]
            unfold Board.mark
            omega

end Since

/-! ### Calls in place -/

/-- A tracked board can be rolled back to any mark. -/
theorem Tracked.exists_rollback (tracked : Tracked layout given board) (mark : Nat) :
    ∃ next, board.rollback mark = .ok next ∧ Tracked layout given next ∧
      next.mark = min mark board.mark := by
  have since : Since layout given { board with trail := [] } [] board :=
    tracked.since_of_trail_eq_nil rfl
  obtain ⟨next, success, after, marks⟩ := since.exists_rollback (Nat.zero_le mark)
  exact ⟨next, success, after.tracked, marks⟩

/-- On a tracked board, what a call does in place is what it answers, or nothing. -/
theorem Tracked.allOrNothing (tracked : Tracked layout given board) (call : Call) :
    AllOrNothing call.work board ((board.answer call).map fun next => (next, ())) := by
  cases call with
  | commit cell value =>
      have inPlace := (tracked.coherent.commit_allOrNothing cell value).map fun _ => ()
      rw [answer]
      cases success : board.commit cell value with
      | ok result | error error =>
          rw [success] at inPlace
          exact inPlace
  | undo cell => exact tracked.undo_allOrNothing cell
  | rollback mark =>
      obtain ⟨next, success, _⟩ := tracked.exists_rollback mark
      rw [answer, success]
      exact tracked.rollback_eq success
  | propagate =>
      obtain ⟨⟨next, propagation⟩, success, _⟩ := tracked.coherent.exists_propagate
      rw [answer, success]
      exact InPlace.bind_of_ok (tracked.coherent.propagate_eq success) _

/-- A call that succeeds on a tracked board leaves the board that it answers with. -/
theorem Tracked.after_of_ok (tracked : Tracked layout given board) (call : Call)
    (answered : board.answer call = .ok next) : board.after call = next := by
  have inPlace := tracked.allOrNothing call
  rw [answered] at inPlace
  exact InPlace.left_of_ok inPlace

/-- A call that fails on a tracked board leaves the board as it was. -/
theorem Tracked.after_of_error (tracked : Tracked layout given board) (call : Call)
    {error : Error} (failed : board.answer call = .error error) : board.after call = board := by
  have inPlace := tracked.allOrNothing call
  rw [failed] at inPlace
  exact InPlace.left_of_error inPlace.1

namespace Since

/-- An undone cell counts as undone from then on. -/
theorem undo (since : Since layout given base undone board) (cell : Nat) :
    Since layout given base (undone ++ [cell]) (board.after (.undo cell)) := by
  obtain ⟨recent, trail⟩ := since.trail
  by_cases committed : cell ∈ board.committedCells
  · obtain ⟨next, success, tracked, nextTrail, assignedAt⟩ := since.tracked.exists_undo committed
    rw [since.tracked.after_of_ok (.undo cell) success]
    refine ⟨tracked, ⟨blanked [cell] recent, ?_⟩, ?_⟩
    · rw [nextTrail, trail, blanked_append, blanked_blanked]
    · intro other onTrail kept
      rw [List.mem_append, List.mem_singleton, not_or] at kept
      rw [assignedAt, if_neg kept.2, since.assignedAt other onTrail kept.1]
  · rw [since.tracked.after_of_error (.undo cell) (undo_eq_error board committed)]
    have absent : cell ∉ (blanked undone base.trail).reduceOption := by
      unfold committedCells at committed
      rw [trail, List.reduceOption_append, List.mem_append, not_or] at committed
      exact committed.2
    refine ⟨since.tracked, ⟨recent, ?_⟩, ?_⟩
    · rw [← blanked_blanked, blanked_eq_self (by simpa using absent), trail]
    · intro other onTrail kept
      rw [List.mem_append, not_or] at kept
      exact since.assignedAt other onTrail kept.1

/-- What became of a board after one more call. -/
theorem after (since : Since layout given base undone board) (call : Call)
    (later : ∀ mark, call = .rollback mark → base.mark ≤ mark) :
    Since layout given base (undone ++ call.undoes) (board.after call) := by
  cases call with
  | commit cell value =>
      rw [Call.undoes, List.append_nil]
      cases success : board.commit cell value with
      | error error =>
          rw [since.tracked.after_of_error _ (by rw [answer, success]; rfl)]
          exact since
      | ok result =>
          rw [since.tracked.after_of_ok _ (by rw [answer, success]; rfl)]
          exact since.commit success
  | undo cell => exact since.undo cell
  | rollback mark =>
      rw [Call.undoes, List.append_nil]
      obtain ⟨next, success, nextSince, _⟩ := since.exists_rollback (later mark rfl)
      rw [since.tracked.after_of_ok (.rollback mark) success]
      exact nextSince
  | propagate =>
      rw [Call.undoes, List.append_nil]
      obtain ⟨⟨next, propagation⟩, success, settled⟩ :=
        since.tracked.coherent.exists_propagate
      rw [since.tracked.after_of_ok _ (by rw [answer, success]; rfl)]
      cases settled with
      | rest run | dead run => exact since.forcedRun run

/-- What became of a board after a sequence of calls. -/
theorem follow (since : Since layout given base undone board) (calls : List Call)
    (later : ∀ mark, .rollback mark ∈ calls → base.mark ≤ mark) :
    Since layout given base (undone ++ calls.flatMap Call.undoes) (board.follow calls) := by
  induction calls generalizing board undone with
  | nil => simpa [Board.follow] using since
  | cons call rest inductionHypothesis =>
      have afterCall := since.after call fun mark same => later mark (by simp [same])
      have afterRest := inductionHypothesis afterCall fun mark member =>
        later mark (List.mem_cons_of_mem _ member)
      rwa [List.append_assoc] at afterRest

end Since

/-- A tracked board accepts just the calls that do not fail. -/
theorem Tracked.accepts_iff (tracked : Tracked layout given board) (call : Call) :
    board.Accepts call ↔ ∃ next, board.answer call = .ok next := by
  cases call with
  | commit cell value =>
      constructor
      · intro candidate
        have inside : cell < layout.cellCount := by
          by_contra outside
          rw [← tracked.coherent.candidates_size] at outside
          simp [Accepts, candidatesAt, outside] at candidate
        obtain ⟨next, signals, success, _⟩ := tracked.coherent.exists_commit inside candidate
        exact ⟨next, by rw [answer, success]; rfl⟩
      · rintro ⟨next, success⟩
        rw [answer] at success
        cases committed : board.commit cell value with
        | error error => simp [committed, Except.map] at success
        | ok result => exact (tracked.coherent.candidate_of_commit committed).2
  | undo cell =>
      constructor
      · intro committed
        obtain ⟨next, success, _⟩ := tracked.exists_undo committed
        exact ⟨next, success⟩
      · rintro ⟨next, success⟩
        by_contra absent
        rw [answer, undo_eq_error board absent] at success
        simp at success
  | rollback mark =>
      obtain ⟨next, success, _⟩ := tracked.exists_rollback mark
      exact iff_of_true trivial ⟨next, success⟩
  | propagate =>
      obtain ⟨⟨next, propagation⟩, success, _⟩ := tracked.coherent.exists_propagate
      exact iff_of_true trivial ⟨next, by rw [answer, success]; rfl⟩

/-- A call that is accepted leaves the board that it answers with, and any other leaves the
board as it was. -/
theorem Tracked.after_cases (tracked : Tracked layout given board) (call : Call) :
    (board.Accepts call → board.answer call = .ok (board.after call)) ∧
      (¬board.Accepts call → board.after call = board) := by
  rw [tracked.accepts_iff]
  constructor
  · rintro ⟨next, answered⟩
    rw [tracked.after_of_ok call answered, answered]
  · intro refused
    cases failed : board.answer call with
    | ok next => exact absurd ⟨next, failed⟩ refused
    | error error => exact tracked.after_of_error call failed

/-- Rolling back to the mark of the base gives the base without the commits that were
undone. -/
theorem Since.exists_rollback_mark (since : Since layout given base undone board)
    (tracked : Tracked layout given base) :
    ∃ last, board.rollback base.mark = .ok last ∧ Tracked layout given last ∧
      last.trail = blanked undone base.trail ∧
      ∀ cell, last.assignedAt cell =
        if cell ∈ base.committedCells ∧ cell ∈ undone then none
        else base.assignedAt cell := by
  obtain ⟨last, success, lastSince, lastMark⟩ := since.exists_rollback (Nat.le_refl base.mark)
  obtain ⟨recent, trail⟩ := lastSince.trail
  have bottom : last.trail = blanked undone base.trail := by
    have length := congrArg List.length trail
    rw [List.length_append, length_blanked] at length
    unfold Board.mark at lastMark
    have nothing : recent = [] := List.length_eq_zero_iff.1 (by omega)
    rw [trail, nothing, List.nil_append]
  refine ⟨last, success, lastSince.tracked, bottom, ?_⟩
  intro cell
  have onTrail : cell ∈ last.committedCells ↔ cell ∈ base.committedCells ∧ cell ∉ undone := by
    unfold committedCells
    rw [bottom, reduceOption_blanked]
    simp
  by_cases committed : cell ∈ base.committedCells
  · by_cases isUndone : cell ∈ undone
    · rw [if_pos ⟨committed, isUndone⟩]
      by_contra isAssigned
      have member := (lastSince.tracked.mem_iff cell).2
        ⟨isAssigned, ((tracked.mem_iff cell).1 committed).2⟩
      exact (onTrail.1 member).2 isUndone
    · rw [if_neg fun both => isUndone both.2]
      exact lastSince.assignedAt cell committed isUndone
  · rw [if_neg fun both => committed both.1]
    cases held : given.valueAt cell with
    | none =>
        have lastOpen : last.assignedAt cell = none := by
          by_contra isAssigned
          have member := (lastSince.tracked.mem_iff cell).2 ⟨isAssigned, held⟩
          exact committed (onTrail.1 member).1
        have baseOpen : base.assignedAt cell = none := by
          by_contra isAssigned
          exact committed ((tracked.mem_iff cell).2 ⟨isAssigned, held⟩)
        rw [lastOpen, baseOpen]
    | some symbol =>
        apply lastSince.tracked.coherent.assignedAt_eq_of_valueAt_eq tracked.coherent
        rw [lastSince.tracked.keeps cell symbol held, tracked.keeps cell symbol held]

/-- A coherent board is determined by its assigned indices and its trail. -/
theorem Coherent.eq_of_assignedAt_eq {second : Board alphabet}
    (firstCoherent : Coherent layout given first)
    (secondCoherent : Coherent layout given second)
    (indices : ∀ cell, first.assignedAt cell = second.assignedAt cell)
    (trails : first.trail = second.trail) : first = second := by
  have assigned : first.assigned = second.assigned := by
    apply Array.ext (firstCoherent.assigned_size.trans secondCoherent.assigned_size.symm)
    intro cell inFirst inSecond
    simpa [assignedAt, inFirst, inSecond] using indices cell
  rw [firstCoherent.eq_withTrail secondCoherent assigned, trails]

/-! ### Boards on their way -/

section

variable {shapes : Alphabet} {shaped : Grid shapes}

/-- A new board has nothing on its trail. -/
theorem mark_of_ofGrid (made : ofGrid layout given = .ok first) : first.mark = 0 := by
  obtain ⟨_, _, _, rfl⟩ := ofGrid_eq_ok_iff.1 made
  rfl

/-- A board made from a built grid, over the layout of any grid of its dimensions, is
tracked, and stays so under all calls. -/
theorem tracked_follow (divided : Layout.ofGrid shaped = .ok layout) (built : given.Built)
    (made : ofGrid layout given = .ok first) (calls : List Call) :
    Tracked layout given first ∧ Tracked layout given (first.follow calls) := by
  have tracked :=
    tracked_of_ofGrid (Layout.sound_of_ofGrid divided) built.wellFormed made
  refine ⟨tracked, (tracked.since.follow calls fun mark _ => ?_).tracked⟩
  rw [mark_of_ofGrid made]
  exact Nat.zero_le mark

/-- After any calls, the candidates of an open cell are the indices that no peer is
assigned, and an assigned cell has none; the working grid writes out the assigned
indices and has the frame of the given grid; no two peers are assigned the same index;
the given values are still there; and the trail names, once each, the assigned cells
without a given value. A call fails only if it is refused for its argument, and then it
leaves the board as it was. -/
theorem follow_invariant (divided : Layout.ofGrid shaped = .ok layout) (built : given.Built)
    (made : ofGrid layout given = .ok first) (calls : List Call)
    (followed : first.follow calls = board) :
    (∀ cell < layout.cellCount,
      (board.assignedAt cell = none → ∀ value,
        (board.candidatesAt cell).contains value = true ↔
          value < given.domain.size ∧
            ∀ peer ∈ layout.peersOf cell, board.assignedAt peer ≠ some value) ∧
      (board.assignedAt cell ≠ none → board.candidatesAt cell = .empty given.domain.size)) ∧
    (board.grid.frame = given.frame ∧
      (∀ cell, board.grid.valueAt cell = none ↔ board.assignedAt cell = none) ∧
      ∀ cell value, board.assignedAt cell = some value →
        ∃ symbol, given.domain.value? value = some symbol ∧
          board.grid.valueAt cell = some symbol) ∧
    (∀ cell, ∀ peer ∈ layout.peersOf cell, ∀ value,
      board.assignedAt cell = some value → board.assignedAt peer ≠ some value) ∧
    (∀ cell symbol, given.valueAt cell = some symbol →
      board.grid.valueAt cell = some symbol) ∧
    (board.committedCells.Nodup ∧
      ∀ cell, cell ∈ board.committedCells ↔
        board.assignedAt cell ≠ none ∧ given.valueAt cell = none) ∧
    (∀ call, board.Accepts call ↔ ∃ next, board.answer call = .ok next) ∧
    ∀ call, (board.Accepts call → board.answer call = .ok (board.after call)) ∧
      (¬board.Accepts call → board.after call = board) := by
  have tracked : Tracked layout given board := by
    rw [← followed]
    exact (tracked_follow divided built made calls).2
  have coherent := tracked.coherent
  refine ⟨?_, ⟨coherent.frame_eq, coherent.valueAt_eq_none_iff,
    fun _ _ => coherent.exists_valueAt⟩, coherent.distinct, tracked.keeps,
    ⟨tracked.nodup, tracked.mem_iff⟩, tracked.accepts_iff, tracked.after_cases⟩
  intro cell inside
  constructor
  · intro isOpen value
    rw [coherent.candidates cell inside, and_iff_right isOpen]
  · intro isAssigned
    apply CandidateSet.eq_of_contains_eq (coherent.capacity cell inside)
    intro value
    rw [CandidateSet.contains_empty, ← Bool.not_eq_true, coherent.candidates cell inside]
    exact fun candidate => isAssigned candidate.1

/-- The layout of the band: each of its cells is a peer of three others in its row and box, of
one more in its column, and of one more in its box. -/
def bandLayout : Layout where
  height := 2
  width := 4
  boxOf := #[0, 0, 1, 1, 0, 0, 1, 1]
  boxes := #[[0, 1, 4, 5], [2, 3, 6, 7]]
  peers := #[[1, 2, 3, 4, 5], [0, 2, 3, 4, 5], [0, 1, 3, 6, 7], [0, 1, 2, 6, 7],
    [0, 1, 5, 6, 7], [0, 1, 4, 6, 7], [2, 3, 4, 5, 7], [2, 3, 4, 5, 6]]

/-- The band is divided by that layout. -/
theorem layout_openBand : Layout.ofGrid Grid.openBand = .ok bandLayout := by
  decide +kernel

/-- The band has a board over that layout. -/
theorem ofGrid_openBand :
    ofGrid bandLayout Grid.openBand = .ok (initial bandLayout Grid.openBand) :=
  ofGrid_eq_ok_iff.2 ⟨rfl, by decide +kernel, by decide +kernel, rfl⟩

/-- On the band, calls in any order leave each committed cell on the trail once, also when one of
them is for a given cell or for a cell beyond the grid. -/
theorem follow_openBand :
    ((initial bandLayout Grid.openBand).follow
      [.commit 0 0, .commit 6 0, .undo 0, .undo 1, .undo 9, .rollback 1, .propagate,
        .undo 6]).committedCells.Nodup :=
  (follow_invariant layout_openBand Grid.built_openBand ofGrid_openBand _
    rfl).2.2.2.2.1.1

/-- Rolling back to the mark of a board that calls made, after further calls that did not
roll back beyond it, succeeds at that mark. Of the commits of that board, those that were
undone by name are gone and all others stand, and the other parts of the board agree with
that. If none was undone, it is that board again. Rolling back to the beginning always
gives the new board. -/
theorem rollback_mark_follow (divided : Layout.ofGrid shaped = .ok layout)
    (built : given.Built) (made : ofGrid layout given = .ok first)
    (earlier calls : List Call) (followed : first.follow earlier = base)
    (later : ∀ mark, .rollback mark ∈ calls → base.mark ≤ mark) :
    (∃ last, (base.follow calls).rollback base.mark = .ok last ∧
      last.mark = base.mark ∧
      (∀ cell, last.assignedAt cell =
        if cell ∈ base.committedCells ∧ .undo cell ∈ calls then none
        else base.assignedAt cell) ∧
      last.trail = blanked (calls.flatMap Call.undoes) base.trail ∧
      Coherent layout given last ∧
      ((∀ cell ∈ base.committedCells, .undo cell ∉ calls) → last = base)) ∧
    base.rollback 0 = .ok first := by
  obtain ⟨firstTracked, baseTracked⟩ := tracked_follow divided built made earlier
  rw [followed] at baseTracked
  have mem_undone (cell : Nat) (calls : List Call) :
      cell ∈ calls.flatMap Call.undoes ↔ .undo cell ∈ calls := by
    rw [List.mem_flatMap]
    constructor
    · rintro ⟨call, member, isUndone⟩
      cases call with
      | undo other => rwa [List.mem_singleton.1 isUndone]
      | commit | rollback | propagate => simp [Call.undoes] at isUndone
    · intro member
      exact ⟨.undo cell, member, by simp [Call.undoes]⟩
  constructor
  · obtain ⟨last, success, tracked, trail, assignedAt⟩ :=
      (baseTracked.since.follow calls later).exists_rollback_mark baseTracked
    rw [List.nil_append] at trail assignedAt
    simp only [mem_undone] at assignedAt
    refine ⟨last, success, ?_, assignedAt, trail, tracked.coherent, ?_⟩
    · unfold Board.mark
      rw [trail, length_blanked]
    · intro kept
      apply tracked.coherent.eq_of_assignedAt_eq baseTracked.coherent
      · intro cell
        rw [assignedAt, if_neg fun both => kept cell both.1 both.2]
      · rw [trail, blanked_eq_self]
        intro cell isUndone committed
        exact kept cell committed ((mem_undone cell calls).1 isUndone)
  · obtain ⟨last, success, tracked, trail, assignedAt⟩ :=
      (firstTracked.since.follow earlier fun mark _ => by
        rw [mark_of_ofGrid made]
        exact Nat.zero_le mark).exists_rollback_mark firstTracked
    have bare : first.trail = [] := List.length_eq_zero_iff.1 (mark_of_ofGrid made)
    rw [followed, mark_of_ofGrid made] at success
    rw [success, tracked.coherent.eq_of_assignedAt_eq firstTracked.coherent]
    · intro cell
      rw [assignedAt, if_neg]
      simp [committedCells, bare]
    · rw [trail, bare]
      rfl

end

/-- On the band, rolling back to the mark of two commits keeps the one of them that was not
undone. -/
theorem rollback_mark_openBand :
    ∃ base last,
      (initial bandLayout Grid.openBand).follow [.commit 0 0, .commit 6 0] = base ∧
      (base.follow [.undo 0, .commit 3 3, .commit 0 0, .rollback 2]).rollback 2 = .ok last ∧
      last.assignedAt 0 = none ∧ last.assignedAt 6 = some 0 := by
  have mark : ((initial bandLayout Grid.openBand).follow
      [.commit 0 0, .commit 6 0]).mark = 2 := by
    decide +kernel
  obtain ⟨⟨last, success, _, assignedAt, _⟩, _⟩ := rollback_mark_follow layout_openBand
    Grid.built_openBand ofGrid_openBand [.commit 0 0, .commit 6 0]
    [.undo 0, .commit 3 3, .commit 0 0, .rollback 2] rfl
    (by rw [mark]; rintro mark member; simp at member; omega)
  rw [mark] at success
  refine ⟨_, last, rfl, success, ?_, ?_⟩
  · rw [assignedAt]
    decide +kernel
  · rw [assignedAt]
    decide +kernel

end Board
end Sudoku
