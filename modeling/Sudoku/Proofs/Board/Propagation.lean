import Sudoku.Board.Propagation
import Sudoku.Proofs.Board.Rollback

/-!
# Propagation

Propagation commits single candidates of open cells. Its queue always has every
open cell with fewer than two candidates, so when the queue calls for nothing, no
such cell is left, and when propagation halts, it is at an open cell without
candidates. It never fails on a coherent board.
-/

namespace Sudoku
namespace Board

variable {alphabet : Alphabet} {layout : Layout} {given : Grid alphabet}
  {board next last : Board alphabet} {cell value : Nat} {signals : List Signal}

/-- No open cell has fewer than two candidates. -/
def AtRest (board : Board alphabet) : Prop :=
  ∀ cell < board.layout.cellCount, board.assignedAt cell = none →
    2 ≤ (board.candidatesAt cell).size

/-- An open cell without candidates. -/
structure Dead (board : Board alphabet) (cell : Nat) : Prop where
  inside : cell < board.layout.cellCount
  isOpen : board.assignedAt cell = none
  noCandidate : ∀ value, (board.candidatesAt cell).contains value = false

/-- A board at rest has no dead cell. -/
theorem AtRest.not_dead (atRest : board.AtRest) (cell : Nat) : ¬board.Dead cell := by
  intro dead
  have size := atRest cell dead.inside dead.isOpen
  rw [CandidateSet.size_eq_length_toList] at size
  obtain ⟨value, member⟩ := List.exists_mem_of_length_pos (by omega :
    0 < (board.candidatesAt cell).toList.length)
  rw [CandidateSet.mem_toList, dead.noCandidate] at member
  simp at member

/-- A board arises from another by so many commits of single candidates. -/
inductive ForcedRun : Board alphabet → Nat → Board alphabet → Prop
  | rest (board : Board alphabet) : ForcedRun board 0 board
  | force {board next last : Board alphabet} {cell value count : Nat}
      {signals : List Signal} (single : (board.candidatesAt cell).toList = [value])
      (committed : board.commit cell value = .ok (next, signals))
      (run : ForcedRun next count last) : ForcedRun board (count + 1) last

/-- Forced commits are commits. -/
theorem ForcedRun.descends {count : Nat} (run : ForcedRun board count last) :
    Descends board last := by
  induction run with
  | rest board => exact .refl
  | force _ committed _ inductionHypothesis =>
      exact .head ⟨_, _, _, committed⟩ inductionHypothesis

/-- Each forced commit adds one entry to the trail. -/
theorem ForcedRun.mark_eq (coherent : Coherent layout given board) {count : Nat}
    (run : ForcedRun board count last) : last.mark = board.mark + count := by
  induction run with
  | rest board => rfl
  | force _ success _ inductionHypothesis =>
      have committed := coherent.committed success
      have longer := congrArg List.length committed.trail
      rw [inductionHypothesis committed.coherent]
      rw [List.length_cons] at longer
      unfold mark
      omega

/-- Each forced commit closes one open cell. -/
theorem ForcedRun.openCount_eq {count : Nat} (run : ForcedRun board count last) :
    last.openCount + count = board.openCount := by
  induction run with
  | rest board => rfl
  | force _ success _ inductionHypothesis =>
      have closed := openCount_commit success
      omega

/-! ### Signals -/

/-- A commit has something to report of a peer when the peer had the value and at most
one other candidate. -/
theorem signal?_eq_some_iff (board : Board alphabet) (value peer : Nat) (signal : Signal) :
    board.signal? value peer = some signal ↔
      (board.candidatesAt peer).contains value = true ∧
        (((board.candidatesAt peer).size = 1 ∧ signal = .contradiction peer) ∨
          ((board.candidatesAt peer).size = 2 ∧ signal = .forced peer)) := by
  unfold signal?
  by_cases candidate : (board.candidatesAt peer).contains value = true
  · rw [if_pos candidate]
    split
    · next size => simp [candidate, size, eq_comm]
    · next size => simp [candidate, size, eq_comm]
    · next notOne notTwo =>
        apply iff_of_false (by simp)
        rintro ⟨_, ⟨one, _⟩ | ⟨two, _⟩⟩
        · exact notOne one
        · exact notTwo two
  · simp [candidate]

/-- A commit takes the last candidate of a peer that had no other. -/
theorem signal?_eq_contradiction_iff (board : Board alphabet) (value peer dead : Nat) :
    board.signal? value peer = some (.contradiction dead) ↔
      dead = peer ∧ (board.candidatesAt peer).contains value = true ∧
        (board.candidatesAt peer).size = 1 := by
  rw [signal?_eq_some_iff]
  simp only [Signal.contradiction.injEq, reduceCtorEq, and_false, or_false]
  tauto

/-- A commit leaves one candidate to a peer that had two. -/
theorem signal?_eq_forced_iff (board : Board alphabet) (value peer forced : Nat) :
    board.signal? value peer = some (.forced forced) ↔
      forced = peer ∧ (board.candidatesAt peer).contains value = true ∧
        (board.candidatesAt peer).size = 2 := by
  rw [signal?_eq_some_iff]
  simp only [Signal.forced.injEq, reduceCtorEq, and_false, false_or]
  tauto

@[simp] theorem dead?_eq_some_iff (signal : Signal) (cell : Nat) :
    signal.dead? = some cell ↔ signal = .contradiction cell := by
  cases signal <;> simp [Signal.dead?]

@[simp] theorem forced?_eq_some_iff (signal : Signal) (cell : Nat) :
    signal.forced? = some cell ↔ signal = .forced cell := by
  cases signal <;> simp [Signal.forced?]

namespace Committed

/-- A commit that reports a contradiction leaves a dead cell. -/
theorem dead (coherent : Coherent layout given board)
    (committed : Committed layout given board cell value next signals) {dead : Nat}
    (reported : signals.findSome? Signal.dead? = some dead) : next.Dead dead := by
  obtain ⟨signal, member, isDead⟩ := List.exists_of_findSome?_eq_some reported
  rw [dead?_eq_some_iff] at isDead
  rw [committed.signals_eq, List.mem_filterMap, isDead] at member
  obtain ⟨peer, peerMember, signalled⟩ := member
  obtain ⟨rfl, candidate, single⟩ := (board.signal?_eq_contradiction_iff _ _ _).1 signalled
  have isPeer := peerMember
  rw [mem_openPeers_iff, coherent.layout_eq] at isPeer
  have inside := coherent.sound.lt_cellCount cell dead isPeer.1
  have different := coherent.sound.ne_of_mem isPeer.1
  constructor
  · rw [committed.coherent.layout_eq]
    exact inside
  · rw [committed.assignedAt coherent, if_neg different, isPeer.2]
  · intro other
    apply CandidateSet.contains_eq_false_of_size_eq_zero
    rw [committed.candidatesAt dead inside, if_neg different, if_pos peerMember]
    have smaller := CandidateSet.size_erase candidate
    omega

/-- A commit that reports no contradiction leaves each open cell its candidates, or
two of them, or a single one that it reports. -/
theorem candidatesAt_cases (coherent : Coherent layout given board)
    (committed : Committed layout given board cell value next signals)
    (unreported : signals.findSome? Signal.dead? = none) {other : Nat}
    (inside : other < layout.cellCount) (isOpen : next.assignedAt other = none) :
    next.candidatesAt other = board.candidatesAt other ∨
      2 ≤ (next.candidatesAt other).size ∨
      other ∈ signals.filterMap Signal.forced? := by
  have different : other ≠ cell := by
    rintro rfl
    rw [committed.assignedAt coherent, if_pos rfl] at isOpen
    simp at isOpen
  rw [committed.candidatesAt other inside, if_neg different]
  by_cases member : other ∈ board.openPeers cell
  swap
  · exact .inl (if_neg member)
  rw [if_pos member]
  by_cases candidate : (board.candidatesAt other).contains value = true
  swap
  · exact .inl (CandidateSet.erase_of_not_contains candidate)
  right
  have smaller := CandidateSet.size_erase candidate
  have notDead : (board.candidatesAt other).size ≠ 1 := by
    intro single
    have signalled : Signal.contradiction other ∈ signals := by
      rw [committed.signals_eq, List.mem_filterMap]
      exact ⟨other, member,
        (board.signal?_eq_contradiction_iff _ _ _).2 ⟨rfl, candidate, single⟩⟩
    have reported := List.findSome?_eq_none_iff.1 unreported _ signalled
    simp [Signal.dead?] at reported
  by_cases pair : (board.candidatesAt other).size = 2
  · right
    rw [List.mem_filterMap]
    refine ⟨.forced other, ?_, rfl⟩
    rw [committed.signals_eq, List.mem_filterMap]
    exact ⟨other, member, (board.signal?_eq_forced_iff _ _ _).2 ⟨rfl, candidate, pair⟩⟩
  · left
    omega

end Committed

/-! ### Moves -/

/-- What a queue calls for: the cells before the one it turns to are assigned or
have two candidates. -/
inductive Calls (board : Board alphabet) (queue : List Nat) : Move → Prop
  | rest (settled : ∀ cell ∈ queue, board.assignedAt cell = none →
      2 ≤ (board.candidatesAt cell).size) : Calls board queue .rest
  | halt {cell : Nat} (member : cell ∈ queue) (isOpen : board.assignedAt cell = none)
      (noCandidate : (board.candidatesAt cell).toList = []) :
      Calls board queue (.halt cell)
  | force {cell value : Nat} {skipped remaining : List Nat}
      (queue_eq : queue = skipped ++ cell :: remaining)
      (settled : ∀ other ∈ skipped, board.assignedAt other = none →
        2 ≤ (board.candidatesAt other).size)
      (single : (board.candidatesAt cell).toList = [value]) :
      Calls board queue (.force cell value remaining)

/-- A cell that calls for nothing can be put in front of a queue. -/
theorem Calls.cons {queue : List Nat} {move : Move} (calls : Calls board queue move)
    (settled : board.assignedAt cell = none → 2 ≤ (board.candidatesAt cell).size) :
    Calls board (cell :: queue) move := by
  cases calls with
  | rest others => exact .rest (List.forall_mem_cons.2 ⟨settled, others⟩)
  | halt member isOpen noCandidate =>
      exact .halt (List.mem_cons_of_mem _ member) isOpen noCandidate
  | force queue_eq others single =>
      exact .force (by rw [queue_eq, List.cons_append])
        (List.forall_mem_cons.2 ⟨settled, others⟩) single

/-- The move of a board is what the queue calls for. -/
theorem calls_move (board : Board alphabet) (queue : List Nat) :
    Calls board queue (board.move queue) := by
  fun_induction board.move queue with
  | case1 => exact .rest (by simp)
  | case2 cell queue isOpen noCandidate =>
      exact .halt (by simp) ((board.isOpen_iff cell).1 isOpen) noCandidate
  | case3 cell queue _ value single =>
      exact .force (List.nil_append _).symm (by simp) single
  | case4 cell queue _ first second rest candidates inductionHypothesis =>
      apply inductionHypothesis.cons
      intro _
      rw [CandidateSet.size_eq_length_toList, candidates]
      simp
  | case5 cell queue isAssigned inductionHypothesis =>
      apply inductionHypothesis.cons
      intro isOpen
      exact absurd ((board.isOpen_iff cell).2 isOpen) isAssigned

/-! ### Settling -/

/-- How the work on a queue ends: after forced commits, at rest or at a dead cell. -/
inductive Settled (board : Board alphabet) (forced : Nat) :
    Board alphabet × Propagation → Prop
  | rest {last : Board alphabet} {count : Nat} (run : ForcedRun board count last)
      (atRest : last.AtRest) : Settled board forced (last, .fixpoint (forced + count))
  | dead {last : Board alphabet} {count cell : Nat} (run : ForcedRun board count last)
      (dead : last.Dead cell) : Settled board forced (last, .contradiction cell)

/-- A forced commit may come first. -/
theorem Settled.force {forced : Nat} {result : Board alphabet × Propagation}
    (settled : Settled next (forced + 1) result)
    (single : (board.candidatesAt cell).toList = [value])
    (committed : board.commit cell value = .ok (next, signals)) :
    Settled board forced result := by
  cases settled with
  | @rest last count run atRest =>
      rw [show forced + 1 + count = forced + (count + 1) by omega]
      exact .rest (.force single committed run) atRest
  | dead run dead => exact .dead (.force single committed run) dead

/-- Every open cell with fewer than two candidates is in the queue, and the queue
has cells of the board only. -/
structure Covers (board : Board alphabet) (queue : List Nat) : Prop where
  inside : ∀ cell ∈ queue, cell < board.layout.cellCount
  pending : ∀ cell < board.layout.cellCount, board.assignedAt cell = none →
    (board.candidatesAt cell).size ≤ 1 → cell ∈ queue

/-- After a forced commit, the queue is covered by what is left of it and the cells
that the commit reports. -/
theorem Covers.force {skipped remaining : List Nat}
    (covers : Covers board (skipped ++ cell :: remaining))
    (coherent : Coherent layout given board)
    (settled : ∀ other ∈ skipped, board.assignedAt other = none →
      2 ≤ (board.candidatesAt other).size)
    (committed : Committed layout given board cell value next signals)
    (unreported : signals.findSome? Signal.dead? = none) :
    Covers next ((signals.filterMap Signal.forced?).reverse ++ remaining) := by
  have layouts : next.layout = board.layout :=
    committed.coherent.layout_eq.trans coherent.layout_eq.symm
  constructor
  · intro other member
    rw [layouts]
    rcases List.mem_append.1 member with reported | waiting
    · rw [List.mem_reverse, List.mem_filterMap] at reported
      obtain ⟨signal, signalMember, isForced⟩ := reported
      rw [forced?_eq_some_iff] at isForced
      rw [committed.signals_eq, List.mem_filterMap, isForced] at signalMember
      obtain ⟨peer, peerMember, signalled⟩ := signalMember
      obtain ⟨rfl, _⟩ := (board.signal?_eq_forced_iff _ _ _).1 signalled
      rw [mem_openPeers_iff, coherent.layout_eq] at peerMember
      rw [coherent.layout_eq]
      exact coherent.sound.lt_cellCount cell other peerMember.1
    · exact covers.inside other (by simp [waiting])
  · intro other inside isOpen few
    have different : other ≠ cell := by
      rintro rfl
      rw [committed.assignedAt coherent, if_pos rfl] at isOpen
      simp at isOpen
    have wasOpen : board.assignedAt other = none := by
      rw [committed.assignedAt coherent, if_neg different] at isOpen
      exact isOpen
    rw [committed.coherent.layout_eq] at inside
    rcases committed.candidatesAt_cases coherent unreported inside isOpen with
      same | many | reported
    · rw [same] at few
      have waiting := covers.pending other (by rw [coherent.layout_eq]; exact inside)
        wasOpen few
      have notSkipped : other ∉ skipped := fun member => by
        have := settled other member wasOpen
        omega
      have inRemaining : other ∈ remaining := by
        simpa [notSkipped, different] using waiting
      exact List.mem_append_right _ inRemaining
    · omega
    · exact List.mem_append_left _ (List.mem_reverse.2 reported)

/-- Working off a queue that covers a coherent board succeeds, with forced commits
up to rest or a dead cell. -/
theorem Coherent.exists_settle (coherent : Coherent layout given board)
    {queue : List Nat} (covers : Covers board queue) (forced : Nat) :
    ∃ result, board.settle queue forced = .ok result ∧ Settled board forced result := by
  fun_induction board.settle queue forced with
  | case1 board queue forced moved =>
      have calls := board.calls_move queue
      rw [moved] at calls
      cases calls with
      | rest settled =>
          have atRest : board.AtRest := by
            intro cell inside isOpen
            by_contra few
            exact few (settled cell (covers.pending cell inside isOpen (by omega)) isOpen)
          have rested : Settled board forced (board, .fixpoint (forced + 0)) :=
            .rest (.rest board) atRest
          exact ⟨_, rfl, rested⟩
  | case2 board queue forced cell moved =>
      have calls := board.calls_move queue
      rw [moved] at calls
      cases calls with
      | halt member isOpen noCandidate =>
          refine ⟨_, rfl, .dead (.rest board)
            ⟨covers.inside cell member, isOpen, fun value => ?_⟩⟩
          rw [← Bool.not_eq_true, ← CandidateSet.mem_toList, noCandidate]
          simp
  | case3 board queue forced cell value remaining moved error failed =>
      have calls := board.calls_move queue
      rw [moved] at calls
      cases calls with
      | force queue_eq settled single =>
          have inside := covers.inside cell (by rw [queue_eq]; simp)
          rw [coherent.layout_eq] at inside
          have candidate := (CandidateSet.contains_iff_of_toList_eq_singleton single _).2 rfl
          obtain ⟨_, _, success, _⟩ := coherent.exists_commit inside candidate
          rw [failed] at success
          simp at success
  | case4 board queue forced cell value remaining moved next signals success dead reported =>
      have calls := board.calls_move queue
      rw [moved] at calls
      cases calls with
      | force queue_eq settled single =>
          exact ⟨_, rfl, .dead (.force single success (.rest next))
            ((coherent.committed success).dead coherent reported)⟩
  | case5 board queue forced cell value remaining moved next signals success unreported
      inductionHypothesis =>
      have calls := board.calls_move queue
      rw [moved] at calls
      cases calls with
      | force queue_eq settled single =>
          have committed := coherent.committed success
          rw [queue_eq] at covers
          obtain ⟨result, finished, afterwards⟩ := inductionHypothesis committed.coherent
            (covers.force coherent settled committed unreported)
          exact ⟨result, finished, afterwards.force single success⟩

/-- Propagation of a coherent board succeeds, with forced commits up to rest or a
dead cell. -/
theorem Coherent.exists_propagate (coherent : Coherent layout given board) :
    ∃ result, board.propagate = .ok result ∧ Settled board 0 result := by
  apply coherent.exists_settle
  have sizes : board.assigned.size = board.layout.cellCount := by
    rw [coherent.assigned_size, coherent.layout_eq]
  constructor
  · intro cell member
    simp only [pending, List.mem_reverse, List.mem_filter, List.mem_range] at member
    rw [← sizes]
    exact member.1
  · intro cell inside isOpen few
    simp only [pending, List.mem_reverse, List.mem_filter, List.mem_range,
      Bool.and_eq_true, decide_eq_true_eq, isOpen_iff]
    rw [sizes]
    exact ⟨inside, isOpen, few⟩

/-! ### Propagation -/

/-- Propagation of a board comes to rest. -/
structure Rests (layout : Layout) (given : Grid alphabet) (board last : Board alphabet)
    (forced : Nat) : Prop where
  propagated : board.propagate = .ok (last, .fixpoint forced)
  run : ForcedRun board forced last
  coherent : Coherent layout given last
  atRest : last.AtRest

/-- Propagation of a board ends at a dead cell. -/
structure Halts (layout : Layout) (given : Grid alphabet) (board last : Board alphabet)
    (forced cell : Nat) : Prop where
  propagated : board.propagate = .ok (last, .contradiction cell)
  run : ForcedRun board forced last
  coherent : Coherent layout given last
  dead : last.Dead cell

/-- Propagation of a coherent board comes to rest or ends at a dead cell. -/
theorem Coherent.rests_or_halts (coherent : Coherent layout given board) :
    (∃ last forced, Rests layout given board last forced) ∨
      ∃ last forced cell, Halts layout given board last forced cell := by
  obtain ⟨result, propagated, settled⟩ := coherent.exists_propagate
  cases settled with
  | @rest last count run atRest =>
      rw [Nat.zero_add] at propagated
      exact .inl ⟨last, count, propagated, run, coherent.of_descends run.descends, atRest⟩
  | @dead last count cell run dead =>
      exact .inr ⟨last, count, cell, propagated, run,
        coherent.of_descends run.descends, dead⟩

/-- A dead cell stays dead under further commits. -/
theorem Committed.dead_of_dead (coherent : Coherent layout given board)
    (committed : Committed layout given board cell value next signals) {dead : Nat}
    (isDead : board.Dead dead) : next.Dead dead := by
  have inside := isDead.inside
  rw [coherent.layout_eq] at inside
  have different : dead ≠ cell := by
    rintro rfl
    have candidate := committed.candidate
    rw [isDead.noCandidate] at candidate
    simp at candidate
  constructor
  · rw [committed.coherent.layout_eq]
    exact inside
  · rw [committed.assignedAt coherent, if_neg different, isDead.isOpen]
  · intro other
    rw [committed.candidatesAt dead inside, if_neg different]
    split
    · rw [CandidateSet.contains_erase, isDead.noCandidate, Bool.false_and]
    · exact isDead.noCandidate other

/-- A dead cell stays dead under forced commits. -/
theorem Dead.of_forcedRun (dead : board.Dead cell)
    (coherent : Coherent layout given board) {count : Nat}
    (run : ForcedRun board count last) : last.Dead cell := by
  induction run with
  | rest board => exact dead
  | force _ success _ inductionHypothesis =>
      have committed := coherent.committed success
      exact inductionHypothesis (committed.dead_of_dead coherent dead) committed.coherent

/-- Propagation of a board with a dead cell does not come to rest. -/
theorem Rests.not_dead (coherent : Coherent layout given board) {forced : Nat}
    (rests : Rests layout given board last forced) (cell : Nat) : ¬board.Dead cell :=
  fun dead => rests.atRest.not_dead cell (dead.of_forcedRun coherent rests.run)

end Board
end Sudoku
