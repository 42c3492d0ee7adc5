import Sudoku.Proofs.Board.Calls

/-!
# What commits and undos change and report

A commit closes its cell and strikes its value from the open peers, and it reports those
of them that had no other candidate, or one. An undo opens its cell and gives the value
back to the open peers that no other peer keeps it from. Neither changes anything else,
an undo takes a commit back, and what is refused changes nothing at all.
-/

namespace Sudoku

/-- The cell that a signal is about. -/
def Signal.cell : Signal → Nat
  | .contradiction cell => cell
  | .forced cell => cell

namespace Board

variable {alphabet shapes : Alphabet} {layout : Layout} {given : Grid alphabet}
  {shaped : Grid shapes} {board next first : Board alphabet} {cell value : Nat}
  {signals : List Signal}

/-! ### One cell -/

/-- Two boards hold the same but for one cell, in their assigned indices and in their
working grids. -/
structure DiffersAt (cell : Nat) (entry : Option Nat) (board next : Board alphabet) :
    Prop where
  layout_eq : next.layout = board.layout
  frame_eq : next.grid.frame = board.grid.frame
  assignedAt : ∀ other, next.assignedAt other =
    if other = cell then entry else board.assignedAt other
  valueAt : ∀ other, next.grid.valueAt other =
    if other = cell then entry.bind board.grid.domain.value? else board.grid.valueAt other

/-- The working grids of coherent boards follow their assigned indices. -/
theorem Coherent.differsAt (coherent : Coherent layout given board)
    (nextCoherent : Coherent layout given next) {entry : Option Nat}
    (assignedAt : ∀ other, next.assignedAt other =
      if other = cell then entry else board.assignedAt other) :
    DiffersAt cell entry board next where
  layout_eq := nextCoherent.layout_eq.trans coherent.layout_eq.symm
  frame_eq := nextCoherent.frame_eq.trans coherent.frame_eq.symm
  assignedAt := assignedAt
  valueAt other := by
    rw [nextCoherent.value, assignedAt, coherent.value, coherent.domain_eq]
    split <;> rfl

/-- A cell beyond the layout has no candidates. -/
theorem Coherent.candidatesAt_of_le (coherent : Coherent layout given board)
    (beyond : layout.cellCount ≤ cell) :
    board.candidatesAt cell = .empty given.domain.size := by
  rw [← coherent.candidates_size] at beyond
  simp [candidatesAt, domainSize, coherent.domain_eq, Nat.not_lt_of_le beyond]

/-! ### Commits -/

/-- The effect of a commit. Of the candidates, those of the cell are gone, and the open
peers have lost the value. The open peers that had no other candidate are reported as
contradictions, those that had one other as forced, in ascending order and no other
cell. -/
structure CommitEffect (cell value : Nat) (board next : Board alphabet)
    (signals : List Signal) : Prop where
  differs : DiffersAt cell (some value) board next
  trail : next.trail = some cell :: board.trail
  own : next.candidatesAt cell = .empty board.domainSize
  struck : ∀ peer ∈ board.openPeers cell,
    next.candidatesAt peer = (board.candidatesAt peer).erase value
  kept : ∀ other, other ≠ cell → other ∉ board.openPeers cell →
    next.candidatesAt other = board.candidatesAt other
  ascending : (signals.map Signal.cell).Pairwise (· < ·)
  contradiction_iff : ∀ peer, .contradiction peer ∈ signals ↔
    peer ∈ board.openPeers cell ∧
      ∀ index, (board.candidatesAt peer).contains index = true ↔ index = value
  forced_iff : ∀ peer, .forced peer ∈ signals ↔
    peer ∈ board.openPeers cell ∧ ∃ other, other ≠ value ∧
      ∀ index, (board.candidatesAt peer).contains index = true ↔ index = value ∨ index = other

/-- A signal is about the peer that gave rise to it. -/
theorem cell_of_signal? {peer : Nat} {signal : Signal}
    (signalled : board.signal? value peer = some signal) : signal.cell = peer := by
  obtain ⟨_, ⟨_, rfl⟩ | ⟨_, rfl⟩⟩ := (board.signal?_eq_some_iff value peer signal).1 signalled
  · rfl
  · rfl

namespace Committed

variable (committed : Committed layout given board cell value next signals)

include committed

/-- A commit reports its signals in ascending order. -/
theorem ascending (coherent : Coherent layout given board) :
    (signals.map Signal.cell).Pairwise (· < ·) := by
  have peers : (board.openPeers cell).Pairwise (· < ·) := by
    unfold openPeers
    rw [coherent.layout_eq]
    exact (coherent.sound.ascending cell).filter _
  rw [committed.signals_eq, List.pairwise_map, List.pairwise_filterMap]
  apply peers.imp
  intro first second before firstSignal signalled secondSignal signalledToo
  rw [cell_of_signal? signalled, cell_of_signal? signalledToo]
  exact before

/-- The open peers without another candidate are reported as contradictions. -/
theorem contradiction_iff (peer : Nat) :
    .contradiction peer ∈ signals ↔ peer ∈ board.openPeers cell ∧
      ∀ index, (board.candidatesAt peer).contains index = true ↔ index = value := by
  rw [committed.signals_eq, List.mem_filterMap]
  simp only [signal?_eq_contradiction_iff]
  constructor
  · rintro ⟨_, member, rfl, candidate, single⟩
    exact ⟨member, (CandidateSet.size_eq_one_iff candidate).1 single⟩
  · rintro ⟨member, isValue⟩
    have candidate := (isValue value).2 rfl
    exact ⟨peer, member, rfl, candidate, (CandidateSet.size_eq_one_iff candidate).2 isValue⟩

/-- The open peers with one other candidate are reported as forced. -/
theorem forced_iff (peer : Nat) :
    .forced peer ∈ signals ↔ peer ∈ board.openPeers cell ∧ ∃ other, other ≠ value ∧
      ∀ index, (board.candidatesAt peer).contains index = true ↔
        index = value ∨ index = other := by
  rw [committed.signals_eq, List.mem_filterMap]
  simp only [signal?_eq_forced_iff]
  constructor
  · rintro ⟨_, member, rfl, candidate, pair⟩
    exact ⟨member, (CandidateSet.size_eq_two_iff candidate).1 pair⟩
  · rintro ⟨member, other, different, isEither⟩
    have candidate := (isEither value).2 (.inl rfl)
    exact ⟨peer, member, rfl, candidate,
      (CandidateSet.size_eq_two_iff candidate).2 ⟨other, different, isEither⟩⟩

/-- A successful commit has the effect of a commit. -/
theorem effect (coherent : Coherent layout given board) :
    CommitEffect cell value board next signals := by
  have inside {peer : Nat} (member : peer ∈ board.openPeers cell) :
      peer < layout.cellCount ∧ peer ≠ cell := by
    rw [mem_openPeers_iff, coherent.layout_eq] at member
    exact ⟨coherent.sound.lt_cellCount cell peer member.1, coherent.sound.ne_of_mem member.1⟩
  refine {
    differs := coherent.differsAt committed.coherent (committed.assignedAt coherent)
    trail := committed.trail
    own := ?_
    struck := ?_
    kept := ?_
    ascending := committed.ascending coherent
    contradiction_iff := committed.contradiction_iff
    forced_iff := committed.forced_iff }
  · rw [committed.candidatesAt cell committed.inside, if_pos rfl, domainSize, coherent.domain_eq]
  · intro peer member
    rw [committed.candidatesAt peer (inside member).1, if_neg (inside member).2, if_pos member]
  · intro other different away
    by_cases stored : other < layout.cellCount
    · rw [committed.candidatesAt other stored, if_neg different, if_neg away]
    · rw [coherent.candidatesAt_of_le (Nat.le_of_not_lt stored),
        committed.coherent.candidatesAt_of_le (Nat.le_of_not_lt stored)]

/-- Undoing the cell of a commit restores the board from before it, with a blank on top of
its trail. -/
theorem undo_eq (coherent : Coherent layout given board) :
    next.undo cell = .ok { board with trail := none :: board.trail } := by
  have latest : blankLatest? cell next.trail = some (none :: board.trail) := by
    rw [committed.trail, blankLatest?, if_pos rfl]
  simp only [Board.undo, latest]
  rw [release_withTrail, committed.release_eq coherent]
  rfl

end Committed

/-! ### Undos -/

/-- The effect of an undo, which blanks its cell on the trail. The candidates of the cell
are the values that none of its peers holds. Of the open peers those have the value as a
candidate none of whose peers holds it, and they have the other candidates they had. All
other cells have theirs. -/
structure UndoEffect (cell value : Nat) (board next : Board alphabet) : Prop where
  differs : DiffersAt cell none board next
  trail : next.trail = blanked [cell] board.trail
  own : ∀ index, (next.candidatesAt cell).contains index = true ↔
    index < board.domainSize ∧
      ∀ peer ∈ board.layout.peersOf cell, next.assignedAt peer ≠ some index
  returned : ∀ peer ∈ next.openPeers cell, (next.candidatesAt peer).contains value = true ↔
    ∀ other ∈ board.layout.peersOf peer, next.assignedAt other ≠ some value
  others : ∀ peer ∈ next.openPeers cell, ∀ index, index ≠ value →
    (next.candidatesAt peer).contains index = (board.candidatesAt peer).contains index
  kept : ∀ other, other ≠ cell → other ∉ next.openPeers cell →
    next.candidatesAt other = board.candidatesAt other

/-- A board on which a cell was opened again has the effect of an undo. -/
theorem Coherent.undoEffect (coherent : Coherent layout given board)
    (isAssigned : board.assignedAt cell = some value) (nextCoherent : Coherent layout given next)
    (trail : next.trail = blanked [cell] board.trail)
    (assignedAt : ∀ other, next.assignedAt other =
      if other = cell then none else board.assignedAt other) :
    UndoEffect cell value board next := by
  have inside := coherent.lt_of_assignedAt isAssigned
  have isOpen : next.assignedAt cell = none := by rw [assignedAt, if_pos rfl]
  -- Seen from the later board, the earlier one is the same with the cell assigned.
  have before (other : Nat) : board.assignedAt other =
      if other = cell then some value else next.assignedAt other := by
    rw [assignedAt]
    split
    · next same => rw [same, isAssigned]
    · rfl
  have avoids := forall_assignedAt_ne_iff isOpen before
  have peerOf {peer : Nat} (member : peer ∈ next.openPeers cell) :
      peer < layout.cellCount ∧ peer ≠ cell ∧ next.assignedAt peer = none := by
    rw [mem_openPeers_iff, nextCoherent.layout_eq] at member
    exact ⟨coherent.sound.lt_cellCount cell peer member.1, coherent.sound.ne_of_mem member.1,
      member.2⟩
  refine {
    differs := coherent.differsAt nextCoherent assignedAt
    trail
    own := ?_
    returned := ?_
    others := ?_
    kept := ?_ }
  · intro index
    rw [nextCoherent.candidates cell inside, domainSize, coherent.domain_eq, coherent.layout_eq,
      and_iff_right isOpen]
  · intro peer member
    obtain ⟨peerInside, _, peerOpen⟩ := peerOf member
    rw [nextCoherent.candidates peer peerInside, coherent.layout_eq, and_iff_right peerOpen,
      and_iff_right (coherent.assigned_lt cell value isAssigned)]
  · intro peer member index different
    obtain ⟨peerInside, notCell, peerOpen⟩ := peerOf member
    rw [Bool.eq_iff_iff, nextCoherent.candidates peer peerInside,
      coherent.candidates peer peerInside, before, if_neg notCell, avoids]
    simp [different]
  · intro other notCell away
    by_cases stored : other < layout.cellCount
    swap
    · rw [coherent.candidatesAt_of_le (Nat.le_of_not_lt stored),
        nextCoherent.candidatesAt_of_le (Nat.le_of_not_lt stored)]
    apply CandidateSet.eq_of_contains_eq
    · rw [coherent.capacity other stored, nextCoherent.capacity other stored]
    intro index
    rw [Bool.eq_iff_iff, nextCoherent.candidates other stored, coherent.candidates other stored,
      before, if_neg notCell, avoids]
    apply and_congr_right
    intro otherOpen
    have apart : cell ∉ layout.peersOf other := by
      intro near
      apply away
      rw [mem_openPeers_iff, nextCoherent.layout_eq]
      exact ⟨coherent.sound.comm other cell near, otherOpen⟩
    simp [apart]

/-! ### Both calls -/

/-- On a board that calls led to, a cell accepts the commit of a value just when it is open
and no peer holds the value, and an undo just when it is assigned without being given. What
they change and report is the effect of a commit or an undo, and the undo of a commit gives
the board from before it, but for a blank on the trail. Done in place, both are all or
nothing: what fails does so with an internal fault, and leaves every part of the board as it
was. That goes for undoing a cell beyond the board too. -/
theorem commit_undo_effects (divided : Layout.ofGrid shaped = .ok layout)
    (built : given.Built) (made : ofGrid layout given = .ok first) (calls : List Call)
    (followed : first.follow calls = board) (cell : Nat) :
    (cell < layout.cellCount → ∀ value,
      (∃ next signals, board.commit cell value = .ok (next, signals)) ↔
        board.assignedAt cell = none ∧ value < given.domain.size ∧
          ∀ peer ∈ layout.peersOf cell, board.assignedAt peer ≠ some value) ∧
    (∀ value next signals, board.commit cell value = .ok (next, signals) →
      CommitEffect cell value board next signals ∧
      next.undo cell = .ok { board with trail := none :: board.trail }) ∧
    ((∃ next, board.undo cell = .ok next) ↔
      board.assignedAt cell ≠ none ∧ given.valueAt cell = none) ∧
    (∀ next, board.undo cell = .ok next →
      ∃ value, board.assignedAt cell = some value ∧ UndoEffect cell value board next) ∧
    (∀ value, AllOrNothing (Work.commit cell value) board (board.commit cell value)) ∧
    AllOrNothing (Work.undo cell) board ((board.undo cell).map fun next => (next, ())) ∧
    (layout.cellCount ≤ cell →
      ∃ fault, Work.undo cell board = .error (.internal fault) board) := by
  have tracked : Tracked layout given board := by
    rw [← followed]
    exact (tracked_follow divided built made calls).2
  have coherent := tracked.coherent
  have undo_iff : (∃ next, board.undo cell = .ok next) ↔
      board.assignedAt cell ≠ none ∧ given.valueAt cell = none := by
    rw [← tracked.mem_iff]
    exact (tracked.accepts_iff (.undo cell)).symm
  have undoInPlace := tracked.undo_allOrNothing cell
  refine ⟨?_, ?_, undo_iff, ?_, coherent.commit_allOrNothing cell, undoInPlace, ?_⟩
  · intro inside value
    rw [← coherent.candidates cell inside]
    constructor
    · rintro ⟨next, signals, success⟩
      exact (coherent.candidate_of_commit success).2
    · intro candidate
      obtain ⟨next, signals, success, _⟩ := coherent.exists_commit inside candidate
      exact ⟨next, signals, success⟩
  · intro value next signals success
    have committed := coherent.committed success
    exact ⟨committed.effect coherent, committed.undo_eq coherent⟩
  · intro next success
    obtain ⟨isAssigned, ungiven⟩ := undo_iff.1 ⟨next, success⟩
    obtain ⟨value, isAssigned⟩ := Option.ne_none_iff_exists'.1 isAssigned
    have onTrail := (tracked.mem_iff cell).2 ⟨by simp [isAssigned], ungiven⟩
    obtain ⟨other, successToo, nextTracked, trail, assignedAt⟩ := tracked.exists_undo onTrail
    rw [success, Except.ok.injEq] at successToo
    subst successToo
    exact ⟨value, isAssigned, coherent.undoEffect isAssigned nextTracked.coherent trail assignedAt⟩
  · intro beyond
    cases undone : board.undo cell with
    | ok next =>
        obtain ⟨isAssigned, _⟩ := undo_iff.1 ⟨next, undone⟩
        obtain ⟨value, isAssigned⟩ := Option.ne_none_iff_exists'.1 isAssigned
        exact absurd (coherent.lt_of_assignedAt isAssigned) (Nat.not_lt_of_le beyond)
    | error error =>
        rw [undone] at undoInPlace
        obtain ⟨failed, fault, rfl⟩ := undoInPlace
        exact ⟨fault, failed⟩

/-- With the last cell of the band filled in, a commit to the first takes the last candidates of
both others, one of which it meets in its row and one in its box only, and undoing a cell
beyond the grid is refused. -/
theorem commit_undo_effects_openBand :
    ∃ next,
      ((initial bandLayout Grid.openBand).follow [.commit 6 0]).commit 0 3 =
        .ok (next, [.contradiction 3, .contradiction 5]) ∧
      CommitEffect 0 3 ((initial bandLayout Grid.openBand).follow [.commit 6 0]) next
        [.contradiction 3, .contradiction 5] ∧
      ∃ fault, Work.undo 9 ((initial bandLayout Grid.openBand).follow [.commit 6 0]) =
        .error (.internal fault) ((initial bandLayout Grid.openBand).follow [.commit 6 0]) := by
  have reported : (((initial bandLayout Grid.openBand).follow [.commit 6 0]).commit 0 3).map
      Prod.snd = .ok [.contradiction 3, .contradiction 5] := by
    decide +kernel
  have opposite := commit_undo_effects layout_openBand Grid.built_openBand
    ofGrid_openBand [.commit 6 0] rfl 0
  have beyond := commit_undo_effects layout_openBand Grid.built_openBand
    ofGrid_openBand [.commit 6 0] rfl 9
  cases committed : ((initial bandLayout Grid.openBand).follow [.commit 6 0]).commit 0 3 with
  | error error => simp [committed, Except.map] at reported
  | ok result =>
      obtain ⟨next, signals⟩ := result
      simp only [committed, Except.map, Except.ok.injEq] at reported
      subst reported
      exact ⟨next, rfl, (opposite.2.1 3 next _ committed).1,
        beyond.2.2.2.2.2.2 (by decide)⟩

end Board
end Sudoku
