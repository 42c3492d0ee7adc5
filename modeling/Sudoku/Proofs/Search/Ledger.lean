import Sudoku.Proofs.Board.Calls
import Sudoku.Proofs.Search.Bounds
import Sudoku.Proofs.Search.Move

/-!
# The calls of a search

A search works on its board by calls: it propagates, rolls back to the mark of a choice
point and commits an option. The calls of a run can be read off its searches, and played
again on the first board. Then the counters of a search can be compared with what the
calls did. Each commit of an option is counted, and so is every value that was committed
by propagation that came to rest. The values committed by propagation that ended at a
dead cell are counted nowhere.
-/

namespace Sudoku

variable {alphabet : Alphabet} {layout : Layout} {given : Grid alphabet}
  {initial board : Board alphabet}

namespace Board

/-! ### Entries of the trail -/

/-- A call that commits a value. -/
def commits (_ : Board alphabet) : Call → Bool
  | .commit _ _ => true
  | .undo _ | .rollback _ | .propagate => false

/-- A call that propagates. -/
def propagates (_ : Board alphabet) : Call → Bool
  | .propagate => true
  | .commit _ _ | .undo _ | .rollback _ => false

/-- Whether propagation of a board comes to rest. -/
def settles (board : Board alphabet) : Bool :=
  match board.propagate with
  | .ok (_, .fixpoint _) => true
  | .ok (_, .contradiction _) | .error _ => false

/-- The entries that the calls of a kind put on the trail, when a board is called for them
in their order. -/
def gain (kind : Board alphabet → Call → Bool) (board : Board alphabet) : List Call → Nat
  | [] => 0
  | call :: calls =>
      (if kind board call then (board.after call).mark - board.mark else 0) +
        gain kind (board.after call) calls

/-- The calls of a list may be played in two parts. -/
theorem follow_append (board : Board alphabet) (earlier later : List Call) :
    board.follow (earlier ++ later) = (board.follow earlier).follow later :=
  List.foldl_append

/-- What the parts of a list of calls put on the trail adds up. -/
theorem gain_append (kind : Board alphabet → Call → Bool) (board : Board alphabet)
    (earlier later : List Call) :
    gain kind board (earlier ++ later) =
      gain kind board earlier + gain kind (board.follow earlier) later := by
  induction earlier generalizing board with
  | nil => rw [List.nil_append, gain, Nat.zero_add]; rfl
  | cons call calls inductionHypothesis =>
      rw [List.cons_append, gain, inductionHypothesis, gain, Nat.add_assoc]
      rfl

/-- A call that propagates up to rest. -/
def propagatesToRest (board : Board alphabet) (call : Call) : Bool :=
  board.propagates call && board.settles

/-- A call that propagates up to a dead cell. -/
def propagatesInVain (board : Board alphabet) (call : Call) : Bool :=
  board.propagates call && !board.settles

/-- Propagation puts entries on the trail whether it comes to rest or not. -/
theorem gain_propagates (board : Board alphabet) (calls : List Call) :
    gain propagates board calls =
      gain propagatesToRest board calls + gain propagatesInVain board calls := by
  induction calls generalizing board with
  | nil => rfl
  | cons call calls inductionHypothesis =>
      simp only [gain, inductionHypothesis, propagatesToRest, propagatesInVain]
      by_cases asked : board.propagates call = true <;>
        by_cases settled : board.settles = true <;> simp [asked, settled] <;> omega

/-- Whether the commit of a value reports a cell without candidates, or fails. -/
def refutes (board : Board alphabet) (cell value : Nat) : Bool :=
  match board.commit cell value with
  | .ok (_, signals) => (signals.findSome? Signal.dead?).isSome
  | .error _ => true

end Board

namespace Search

open Board

variable {search next : Search alphabet} {goal : Goal} {isCancelled : Nat → Bool}
  {calls : List Call} {count : Nat}

/-! ### The calls of a step -/

/-- The calls of a try: to roll back to the mark of the innermost choice point, to commit
its next option if it has one left, and to propagate unless the commit is refuted. -/
def tryCalls (search : Search alphabet) : List Call :=
  match search.choices with
  | [] => []
  | point :: _ =>
      match point.options.popFirst? with
      | none => [.rollback point.mark]
      | some (value, _) =>
          .rollback point.mark :: .commit point.cell value ::
            if (search.board.after (.rollback point.mark)).refutes point.cell value then []
            else [.propagate]

/-- The calls that a step makes on the board of a search. Choosing makes none. -/
def stepCalls (isCancelled : Bool) (search : Search alphabet) : List Call :=
  match search.phase with
  | .trying => if isCancelled then [.rollback 0] else search.tryCalls
  | .choosing | .solved | .unsatisfiable | .cancelled => []

/-- A search comes from another by calls on its board. Its counters have grown by the
entries of the trail that the commits of options and the propagations up to rest added. -/
structure Tallies (calls : List Call) (search next : Search alphabet) : Prop where
  board : next.board = search.board.follow calls
  branches : next.statistics.branches =
    search.statistics.branches + gain commits search.board calls
  forcedMoves : next.statistics.forcedMoves =
    search.statistics.forcedMoves + gain propagatesToRest search.board calls

namespace Tallies

/-- No calls change nothing. -/
theorem nil (board : next.board = search.board)
    (branches : next.statistics.branches = search.statistics.branches)
    (forcedMoves : next.statistics.forcedMoves = search.statistics.forcedMoves) :
    Tallies [] search next :=
  ⟨board, branches, forcedMoves⟩

/-- Calls may follow calls. -/
theorem append {last : Search alphabet} {later : List Call}
    (tallies : Tallies calls search next) (further : Tallies later next last) :
    Tallies (calls ++ later) search last where
  board := by rw [further.board, tallies.board, follow_append]
  branches := by
    rw [further.branches, tallies.branches, tallies.board, gain_append, Nat.add_assoc]
  forcedMoves := by
    rw [further.forcedMoves, tallies.forcedMoves, tallies.board, gain_append, Nat.add_assoc]

/-- A rollback counts nothing. -/
theorem rollback {mark : Nat} {base : Board alphabet}
    (tracked : Tracked layout given search.board)
    (rolledBack : search.board.rollback mark = .ok base) (board : next.board = base)
    (branches : next.statistics.branches = search.statistics.branches)
    (forcedMoves : next.statistics.forcedMoves = search.statistics.forcedMoves) :
    Tallies [.rollback mark] search next where
  board := by
    rw [board]
    exact (tracked.after_of_ok (.rollback mark) rolledBack).symm
  branches := branches
  forcedMoves := forcedMoves

/-- The commit of an option adds one entry to the trail, which is counted as a branch. -/
theorem commit {cell value : Nat} {signals : List Signal}
    (tracked : Tracked layout given search.board)
    (success : search.board.commit cell value = .ok (board, signals))
    (point : ChoicePoint) (outer : List ChoicePoint) :
    Tallies [.commit cell value] search (search.advanced board point outer) := by
  have after : search.board.after (.commit cell value) = board :=
    tracked.after_of_ok _ (by rw [answer, success]; rfl)
  refine ⟨after.symm, ?_, rfl⟩
  have longer := congrArg List.length (tracked.coherent.committed success).trail
  rw [List.length_cons] at longer
  simp only [advanced, gain, commits, after, if_true, mark]
  omega

/-- Propagation counts the entries that it adds to the trail when it comes to rest, and
none when it ends at a dead cell. -/
theorem propagate (tracked : Tracked layout given search.board)
    (propagated : search.propagate = .ok next) : Tallies [.propagate] search next := by
  rcases tracked.coherent.rests_or_halts with ⟨last, forced, rests⟩ | ⟨last, forced, cell, halts⟩
  · have after : search.board.after .propagate = last :=
      tracked.after_of_ok _ (by rw [answer, rests.propagated]; rfl)
    have settles : search.board.settles = true := by rw [Board.settles, rests.propagated]
    have longer := rests.run.mark_eq tracked.coherent
    rw [propagate_of_rests _ rests, Except.ok.injEq] at propagated
    rw [← propagated]
    refine ⟨after.symm, rfl, ?_⟩
    simp only [rested, gain, propagatesToRest, propagates, settles, after, Bool.and_self, if_true]
    omega
  · have after : search.board.after .propagate = last :=
      tracked.after_of_ok _ (by rw [answer, halts.propagated]; rfl)
    have settles : search.board.settles = false := by rw [Board.settles, halts.propagated]
    rw [propagate_of_halts _ halts, Except.ok.injEq] at propagated
    rw [← propagated]
    refine ⟨after.symm, rfl, ?_⟩
    simp [gain, propagatesToRest, propagates, settles]

end Tallies

/-- What becomes of a search after a commit is by propagation, unless the commit was
refuted. -/
theorem Aftermath.tallies {signals : List Signal}
    (aftermath : Aftermath layout given signals search next)
    (tracked : Tracked layout given search.board) :
    Tallies (if (signals.findSome? Signal.dead?).isSome then [] else [.propagate]) search
      next := by
  cases aftermath with
  | refuted reported =>
      rw [reported, if_pos rfl]
      exact .nil rfl rfl rfl
  | halted unreported halts =>
      rw [unreported, if_neg Bool.false_ne_true]
      exact .propagate tracked (search.propagate_of_halts halts)
  | rested unreported rests =>
      rw [unreported, if_neg Bool.false_ne_true]
      exact .propagate tracked (search.propagate_of_rests rests)

/-- The calls of a move lead to its board, and its counters grow by what they added. -/
theorem Move.tallies {raised : Bool} (move : Move layout given initial goal search raised next)
    (tracked : Tracked layout given search.board) :
    Tallies (search.stepCalls raised) search next := by
  cases move with
  | branch choosing atRest chosen =>
      rw [stepCalls, choosing]
      exact .nil rfl rfl rfl
  | accept choosing full =>
      rw [stepCalls, choosing]
      exact .nil rfl rfl rfl
  | exhaust trying choices =>
      rw [stepCalls, trying, tryCalls, choices]
      exact .nil rfl rfl rfl
  | giveUp returns popped =>
      simp only [stepCalls, returns.trying, tryCalls, returns.choices, popped]
      exact .rollback tracked returns.rolledBack rfl rfl rfl
  | @attempt base board point outer _ value options signals _ tries aftermath =>
      have back : search.board.after (.rollback point.mark) = base :=
        tracked.after_of_ok _ tries.rolledBack
      simp only [stepCalls, tries.trying, tryCalls, tries.choices, tries.popped, back, refutes,
        tries.success]
      have baseTracked : Tracked layout given base := by
        obtain ⟨next, rolledBack, nextTracked, _⟩ := tracked.exists_rollback point.mark
        rw [tries.rolledBack, Except.ok.injEq] at rolledBack
        rwa [rolledBack]
      have returned : Tallies [.rollback point.mark] search { search with board := base } :=
        .rollback tracked tries.rolledBack rfl rfl rfl
      have advanced : Tallies [.commit point.cell value] { search with board := base }
          (search.advanced board { point with options } outer) :=
        .commit baseTracked tries.success { point with options } outer
      exact (returned.append advanced).append
        (aftermath.tallies (baseTracked.commit tries.success))
  | abandon trying rolledBack =>
      rw [stepCalls, trying]
      exact .rollback tracked rolledBack rfl rfl rfl
  | stay final =>
      cases phase : search.phase with
      | choosing | trying => simp [phase, Phase.isFinal] at final
      | solved | unsatisfiable | cancelled =>
          rw [stepCalls, phase]
          exact .nil rfl rfl rfl

/-! ### The calls of a run -/

/-- A run on a board has made so many steps and these calls, under a token that may be
cancelled at any of the steps. -/
inductive Traced (goal : Goal) (isCancelled : Nat → Bool) (initial : Board alphabet) :
    Nat → List Call → Search alphabet → Prop
  | start {first : Search alphabet} (started : start initial = .ok first) :
      Traced goal isCancelled initial 0 [.propagate] first
  | step {search next : Search alphabet} {count : Nat} {calls : List Call}
      (traced : Traced goal isCancelled initial count calls search)
      (active : search.phase.isFinal = false)
      (stepped : search.step goal (isCancelled count) = .ok next) :
      Traced goal isCancelled initial (count + 1)
        (calls ++ search.stepCalls (isCancelled count)) next

/-- What a run reaches is reached by calls. -/
theorem Reaches.exists_traced {first : Search alphabet}
    (reaches : Reaches goal isCancelled first count search)
    (started : Search.start initial = .ok first) :
    ∃ calls, Traced goal isCancelled initial count calls search := by
  induction reaches with
  | start => exact ⟨_, .start started⟩
  | step _ active stepped inductionHypothesis =>
      obtain ⟨calls, traced⟩ := inductionHypothesis
      exact ⟨_, traced.step active stepped⟩

namespace Traced

/-- What calls lead to is sound. -/
theorem sound (traced : Traced goal isCancelled initial count calls search)
    (coherent : Coherent layout given initial) (fresh : initial.mark = 0) :
    Sound initial search := by
  induction traced with
  | start started => exact .of_start coherent started
  | step _ _ stepped inductionHypothesis =>
      exact inductionHypothesis.of_step coherent fresh stepped

/-- The counters of a search tell what its calls have added to the trail of its board. -/
theorem tallies (traced : Traced goal isCancelled initial count calls search)
    (tracked : Tracked layout given initial) (fresh : initial.mark = 0) :
    Tallies calls { phase := .choosing, board := initial } search := by
  induction traced with
  | start started =>
      obtain ⟨propagated, success, ended⟩ := (Error.bind_eq_ok_iff _ _ _).1 started
      have tallies := Tallies.propagate tracked success
      split at ended
      · rw [← Except.ok.inj ended]
        exact ⟨tallies.board, tallies.branches, tallies.forcedMoves⟩
      · rw [← Except.ok.inj ended]
        exact tallies
  | step traced _ stepped inductionHypothesis =>
      have sound := traced.sound tracked.coherent fresh
      have move := sound.move_of_step tracked.coherent fresh stepped
      exact inductionHypothesis.append
        (move.tallies (tracked.of_descends sound.stacked.descends))

end Traced
end Search
end Sudoku
