import Sudoku.Proofs.Board.Propagation
import Sudoku.Proofs.Board.Trail
import Sudoku.Proofs.InPlace

/-!
# Boards that change in place

A commit writes to the parts of a board one after another: the working grid, the assigned
index, the candidates of the cell, the trail, and then the candidates of the peers in turn.
An undo blanks the trail before it takes back anything else, a rollback takes one entry off
the trail after another, and propagation commits as it goes. Work in place that fails on
the way leaves the board as it was at that moment. On a tracked board nothing fails on the
way: either the whole work is done, or it is refused before anything was written.
-/

namespace Sudoku

/-- What there is to tell of a peer that has so many candidates left. -/
def Signal.ofCount? (peer : Nat) : Nat → Option Signal
  | 0 => some (.contradiction peer)
  | 1 => some (.forced peer)
  | _ => none

namespace Board

variable {alphabet : Alphabet} {layout : Layout} {given : Grid alphabet}
  {board next : Board alphabet} {cell value : Nat} {signals : List Signal}

/-- Work on a board in place. -/
abbrev Work (alphabet : Alphabet) (outcome : Type) : Type :=
  InPlace (Board alphabet) outcome

namespace Work

open InPlace

/-- Strike a value from the candidates of a peer, unless the peer is assigned or does not
have it. Tell if it was the last of them, or the last but one. -/
def strike (value peer : Nat) : Work alphabet (List Signal) := do
  let board ← get
  if board.isOpen peer && (board.candidatesAt peer).contains value then
    let remaining := (board.candidatesAt peer).erase value
    set { board with candidates := board.candidates.setIfInBounds peer remaining }
    return (Signal.ofCount? peer remaining.size).toList
  else return []

/-- Strike a value from the candidates of peers, one after another. -/
def strikeAll (value : Nat) : List Nat → Work alphabet (List Signal)
  | [] => return []
  | peer :: peers => do
      let signals ← strike value peer
      let others ← strikeAll value peers
      return signals ++ others

/-- Commit a candidate to an open cell, and tell which open peers it left with one
candidate or none. -/
def commit (cell value : Nat) : Work alphabet (List Signal) := do
  let board ← get
  let position := board.layout.positionOf cell
  match board.assigned[cell]? with
  | none => throw (.internal (.unknownCell cell))
  | some (some _) => throw (.internal (.assignedCell position))
  | some none =>
      if (board.candidatesAt cell).contains value then
        match board.grid.domain.value? value with
        | none => throw (.internal (.nonCandidate value position))
        | some symbol =>
            let grid ← attempt (board.grid.commit position symbol)
            modify fun board => { board with grid }
            modify fun board =>
              { board with assigned := board.assigned.setIfInBounds cell (some value) }
            modify fun board =>
              { board with
                candidates := board.candidates.setIfInBounds cell (.empty board.domainSize) }
            modify fun board => { board with trail := some cell :: board.trail }
            strikeAll value (board.layout.peersOf cell)
      else throw (.internal (.nonCandidate value position))

/-- Give a value back to the candidates of a peer, unless the peer is assigned or another
of its own peers keeps the value from it. -/
def giveBack (value peer : Nat) : Work alphabet Unit :=
  modify fun board =>
    if (board.assigned.getD peer none).isNone &&
        !isExcluded board.layout board.assigned peer value then
      { board with candidates := board.candidates.modify peer (·.insert value) }
    else board

/-- Give a value back to the candidates of peers, one after another. -/
def giveBackAll (value : Nat) : List Nat → Work alphabet Unit
  | [] => return
  | peer :: peers => do
      giveBack value peer
      giveBackAll value peers

/-- Take back the value of an assigned cell. The assigned index is gone before the working
grid is asked to follow. -/
def release (cell : Nat) : Work alphabet Unit := do
  let board ← get
  let position := board.layout.positionOf cell
  match board.assignedAt cell with
  | none => throw (.internal (.openCell position))
  | some value =>
      modify fun board => { board with assigned := board.assigned.setIfInBounds cell none }
      let grid ← attempt (board.grid.clear position)
      modify fun board => { board with grid }
      giveBackAll value (board.layout.peersOf cell)
      modify fun board =>
        { board with
          candidates := board.candidates.setIfInBounds cell
            (freeValues board.layout board.domainSize board.assigned cell) }

/-- Undo the commit to a cell. The trail is blanked before the cell is released. -/
def undo (cell : Nat) : Work alphabet Unit := do
  let board ← get
  match blankLatest? cell board.trail with
  | none => throw (.internal (.uncommittedCell (board.layout.positionOf cell)))
  | some trail => do
      set { board with trail }
      release cell

/-- Take the latest entry off the trail, and release its cell unless it is a blank. -/
def pop : Work alphabet Unit := do
  let board ← get
  match board.trail with
  | [] => return
  | entry :: earlier => do
      set { board with trail := earlier }
      match entry with
      | none => return
      | some cell => release cell

/-- Take so many entries off the trail, the latest first. -/
def popMany : Nat → Work alphabet Unit
  | 0 => return
  | count + 1 => do
      pop
      popMany count

/-- Undo all commits since a mark was taken. Each entry goes before its cell is released. -/
def rollback (mark : Nat) : Work alphabet Unit := do
  let board ← get
  popMany (board.trail.length - mark)

/-- Striking a value from peers assigns no cell. -/
theorem assigned_of_strikeAll {value : Nat} {peers : List Nat} {board next : Board alphabet}
    {signals : List Signal} (struck : strikeAll value peers board = .ok signals next) :
    next.assigned = board.assigned := by
  induction peers generalizing board signals with
  | nil =>
      rw [strikeAll] at struck
      cases struck
      rfl
  | cons peer peers inductionHypothesis =>
      have atPeer : ∃ first middle, strike value peer board = .ok first middle ∧
          middle.assigned = board.assigned := by
        unfold strike
        rw [get_bind]
        split
        · exact ⟨_, _, rfl, rfl⟩
        · exact ⟨_, _, rfl, rfl⟩
      obtain ⟨first, middle, success, same⟩ := atPeer
      rw [strikeAll, bind_of_ok success] at struck
      cases others : strikeAll value peers middle with
      | error error last =>
          rw [bind_of_error others] at struck
          cases struck
      | ok signals last =>
          rw [bind_of_ok others] at struck
          cases struck
          rw [inductionHypothesis others, same]

/-- A commit in place closes one open cell. -/
theorem openCount_of_commit {cell value : Nat} {board next : Board alphabet}
    {signals : List Signal} (committed : commit cell value board = .ok signals next) :
    next.openCount + 1 = board.openCount := by
  simp only [commit, get_bind] at committed
  cases stored : board.assigned[cell]? with
  | none =>
      rw [stored] at committed
      cases committed
  | some entry =>
      cases entry with
      | some held =>
          rw [stored] at committed
          cases committed
      | none =>
          by_cases candidate : (board.candidatesAt cell).contains value = true
          swap
          · simp only [stored, candidate] at committed
            cases committed
          cases named : board.grid.domain.value? value with
          | none =>
              simp only [stored, candidate, named] at committed
              cases committed
          | some symbol =>
              simp only [stored, candidate, named, if_true] at committed
              cases written : board.grid.commit (board.layout.positionOf cell) symbol with
              | error error =>
                  rw [written] at committed
                  cases committed
              | ok grid =>
                  simp only [written, attempt_ok_bind, modify_bind] at committed
                  rw [openCount, assigned_of_strikeAll committed]
                  exact openCount_assign board grid cell value stored

/-- Work off a queue of cells, after a number of forced commits. What was committed stays
when a later commit fails. -/
def settle (queue : List Nat) (forced : Nat) (board : Board alphabet) :
    EStateM.Result Error (Board alphabet) Propagation :=
  match board.move queue with
  | .rest => .ok (.fixpoint forced) board
  | .halt cell => .ok (.contradiction cell) board
  | .force cell value queue =>
      match _committed : commit cell value board with
      | .error error next => .error error next
      | .ok signals next =>
          match signals.findSome? Signal.dead? with
          | some dead => .ok (.contradiction dead) next
          | none =>
              settle ((signals.filterMap Signal.forced?).reverse ++ queue) (forced + 1) next
termination_by board.openCount
decreasing_by
  have := openCount_of_commit ‹commit cell value board = .ok signals next›
  omega

/-- Commit single candidates for as long as there are any and no open cell is without
candidates. -/
def propagate : Work alphabet Propagation := fun board =>
  settle board.pending 0 board

end Work

/-- Work is all or nothing on a board: it succeeds with the outcome and the board of a
call, or it fails as the call does, with an internal fault, and the board is as it was. -/
def AllOrNothing {outcome : Type} (work : Work alphabet outcome) (board : Board alphabet)
    (call : Except Error (Board alphabet × outcome)) : Prop :=
  match call with
  | .ok (next, result) => work board = .ok result next
  | .error error => work board = .error error board ∧ ∃ fault, error = .internal fault

/-- Work whose outcome is changed or dropped is as all or nothing as before. -/
theorem AllOrNothing.map {outcome other : Type} {work : Work alphabet outcome}
    {call : Except Error (Board alphabet × outcome)} (done : AllOrNothing work board call)
    (change : outcome → other) :
    AllOrNothing (change <$> work) board
      (call.map fun (next, result) => (next, change result)) := by
  cases call with
  | ok answer => exact InPlace.bind_of_ok done _
  | error error => exact ⟨InPlace.bind_of_error done.1 _, done.2⟩

/-! ### Committing -/

/-- Changing an entry is setting it to what it is changed to. -/
theorem setIfInBounds_eq_modify {entry : Type} (entries : Array entry) (number : Nat)
    (fallback : entry) (change : entry → entry) :
    entries.setIfInBounds number (change (entries.getD number fallback)) =
      entries.modify number change := by
  apply Array.ext_getElem?
  intro other
  rw [Array.getElem?_setIfInBounds, Array.getElem?_modify]
  split
  · next same =>
      subst same
      split
      · next inside => simp [inside]
      · next outside => simp [outside]
  · rfl

/-- The board after a value was struck from the candidates of some cells. -/
def struck (board : Board alphabet) (value : Nat) (cells : List Nat) : Board alphabet :=
  { board with
    candidates := cells.foldl
      (fun candidates peer => candidates.modify peer (·.erase value)) board.candidates }

/-- What a commit tells of an open peer is known from the candidates that it leaves. -/
theorem signal?_eq_ofCount? {peer : Nat}
    (candidate : (board.candidatesAt peer).contains value = true) :
    board.signal? value peer =
      Signal.ofCount? peer ((board.candidatesAt peer).erase value).size := by
  have smaller := CandidateSet.size_erase candidate
  rw [signal?, if_pos candidate, ← smaller]
  cases ((board.candidatesAt peer).erase value).size with
  | zero => rfl
  | succ count => cases count <;> rfl

/-- An assigned peer is left alone. -/
theorem strike_of_assigned {peer : Nat} (isAssigned : ¬board.isOpen peer = true) :
    Work.strike value peer board = .ok [] board := by
  simp only [Work.strike, InPlace.get_bind, isAssigned, Bool.false_and]
  rfl

/-- Striking a value from a peer that does not have it changes nothing. -/
theorem struck_of_not_candidate {peer : Nat}
    (missing : ¬(board.candidatesAt peer).contains value = true) :
    board.struck value [peer] = board := by
  have entries : board.candidates.modify peer (·.erase value) = board.candidates := by
    apply Array.ext_getElem?
    intro other
    rw [Array.getElem?_modify]
    split
    · next same =>
        subst same
        by_cases inside : peer < board.candidates.size
        · have stored : board.candidatesAt peer = board.candidates[peer] := by
            simp [candidatesAt, inside]
          rw [stored] at missing
          rw [Array.getElem?_eq_getElem inside, Option.map_some,
            CandidateSet.erase_of_not_contains missing]
        · simp [inside]
    · rfl
  rw [struck, List.foldl_cons, List.foldl_nil, entries]

/-- Striking a value from an open peer tells what a commit reports of it. -/
theorem strike_of_open {peer : Nat} (isOpen : board.isOpen peer = true) :
    Work.strike value peer board =
      .ok (board.signal? value peer).toList (board.struck value [peer]) := by
  simp only [Work.strike, InPlace.get_bind, isOpen, Bool.true_and]
  by_cases candidate : (board.candidatesAt peer).contains value = true
  · have change := setIfInBounds_eq_modify board.candidates peer (.empty board.domainSize)
      (·.erase value)
    rw [if_pos candidate, signal?_eq_ofCount? candidate, struck, List.foldl_cons,
      List.foldl_nil, ← change]
    rfl
  · rw [if_neg candidate, signal?, if_neg candidate, struck_of_not_candidate candidate]
    rfl

/-- Striking a value from a peer leaves what a commit tells of the others. -/
theorem signal?_struck {peer other : Nat} (different : other ≠ peer) :
    (board.struck value [peer]).signal? value other = board.signal? value other := by
  have candidates : (board.struck value [peer]).candidatesAt other = board.candidatesAt other := by
    simp only [candidatesAt, struck, List.foldl_cons, List.foldl_nil,
      Array.getD_eq_getD_getElem?, Array.getElem?_modify, if_neg (Ne.symm different)]
    rfl
  unfold signal?
  rw [candidates]

/-- Striking from one peer after another strikes from those that are open, and tells what
a commit reports of them. -/
theorem strikeAll_eq {peers : List Nat} (nodup : peers.Nodup) (board : Board alphabet) :
    Work.strikeAll value peers board =
      .ok ((peers.filter board.isOpen).filterMap (board.signal? value))
        (board.struck value (peers.filter board.isOpen)) := by
  induction peers generalizing board with
  | nil => rfl
  | cons peer peers inductionHypothesis =>
      obtain ⟨absent, others⟩ := List.nodup_cons.1 nodup
      rw [Work.strikeAll]
      by_cases isOpen : board.isOpen peer = true
      swap
      · rw [InPlace.bind_of_ok (strike_of_assigned isOpen),
          InPlace.bind_of_ok (inductionHypothesis others board), List.filter_cons_of_neg isOpen]
        rfl
      have unchanged : (peers.filter board.isOpen).filterMap
            ((board.struck value [peer]).signal? value) =
          (peers.filter board.isOpen).filterMap (board.signal? value) := by
        apply List.filterMap_congr
        intro other member
        apply signal?_struck
        rintro rfl
        exact absent (List.mem_of_mem_filter member)
      have openToo : (board.struck value [peer]).isOpen = board.isOpen := rfl
      rw [InPlace.bind_of_ok (strike_of_open isOpen),
        InPlace.bind_of_ok (inductionHypothesis others _), openToo, unchanged,
        List.filter_cons_of_pos isOpen, List.filterMap_cons]
      cases board.signal? value peer <;> rfl

/-- Setting an entry and changing others can be done in either order. -/
theorem setIfInBounds_foldl_modify {entry : Type} (entries : Array entry)
    (change : entry → entry) (value : entry) {cells : List Nat} (nodup : cells.Nodup)
    (absent : cell ∉ cells) :
    cells.foldl (fun entries cell => entries.modify cell change)
        (entries.setIfInBounds cell value) =
      (cells.foldl (fun entries cell => entries.modify cell change) entries).setIfInBounds cell
        value := by
  apply Array.ext_getElem?
  intro other
  rw [getElem?_foldl_modify _ _ nodup, Array.getElem?_setIfInBounds, Array.getElem?_setIfInBounds,
    size_foldl_modify, getElem?_foldl_modify _ _ nodup]
  by_cases same : cell = other
  · subst same
    rw [if_neg absent, if_pos rfl, if_pos rfl]
  · rw [if_neg same, if_neg same]

/-- A board on which one cell was assigned, but no peer of it knows yet. -/
def assignedOnly (board : Board alphabet) (grid : Grid alphabet) (cell value : Nat) :
    Board alphabet :=
  { board with
    grid
    assigned := board.assigned.setIfInBounds cell (some value)
    candidates := board.candidates.setIfInBounds cell (.empty grid.domain.size)
    trail := some cell :: board.trail }

/-- The peers of a cell that was assigned only are as they were. -/
theorem assignedOnly_of_ne {grid : Grid alphabet} (domains : grid.domain = board.grid.domain)
    {peer : Nat} (different : peer ≠ cell) :
    (board.assignedOnly grid cell value).isOpen peer = board.isOpen peer ∧
      (board.assignedOnly grid cell value).signal? value peer = board.signal? value peer := by
  have assignedAt : (board.assignedOnly grid cell value).assignedAt peer =
      board.assignedAt peer := by
    simp [Board.assignedAt, assignedOnly, Ne.symm different]
  have candidatesAt : (board.assignedOnly grid cell value).candidatesAt peer =
      board.candidatesAt peer := by
    simp [Board.candidatesAt, assignedOnly, domainSize, domains, Ne.symm different]
  constructor
  · rw [isOpen, assignedAt, isOpen]
  · rw [signal?, candidatesAt, signal?]

/-- Striking the value of an assigned cell from its peers in turn gives what a commit makes
of the board, and tells what it reports. -/
theorem Coherent.strikeAll_assignedOnly (coherent : Coherent layout given board)
    (cell value : Nat) {grid : Grid alphabet} (domains : grid.domain = board.grid.domain) :
    Work.strikeAll value (board.layout.peersOf cell) (board.assignedOnly grid cell value) =
      .ok ((board.openPeers cell).filterMap (board.signal? value))
        (board.assign grid cell value) := by
  have nodup := coherent.sound.nodup cell
  have irrefl := coherent.sound.irrefl cell
  rw [← coherent.layout_eq] at nodup irrefl
  have ne_cell {peer : Nat} (member : peer ∈ board.layout.peersOf cell) : peer ≠ cell := by
    rintro rfl
    exact irrefl member
  have openPeers : (board.layout.peersOf cell).filter
      (board.assignedOnly grid cell value).isOpen = board.openPeers cell :=
    List.filter_congr fun peer member => (assignedOnly_of_ne domains (ne_cell member)).1
  have signals : (board.openPeers cell).filterMap
        ((board.assignedOnly grid cell value).signal? value) =
      (board.openPeers cell).filterMap (board.signal? value) :=
    List.filterMap_congr fun peer member =>
      (assignedOnly_of_ne domains (ne_cell (List.mem_of_mem_filter member))).2
  have candidates := setIfInBounds_foldl_modify board.candidates (·.erase value)
    (.empty grid.domain.size) (coherent.nodup_openPeers cell)
    fun member => irrefl (List.mem_of_mem_filter member)
  rw [strikeAll_eq nodup, openPeers, signals, struck, Board.assign, domainSize,
    ← domains, ← candidates]
  rfl

/-- A commit that nothing speaks against assigns the cell before it turns to the peers. -/
theorem commit_of_symbol (isOpen : board.assigned[cell]? = some none)
    (candidate : (board.candidatesAt cell).contains value = true) {symbol : Symbol alphabet}
    (named : board.grid.domain.value? value = some symbol) {grid : Grid alphabet}
    (written : board.grid.commit (board.layout.positionOf cell) symbol = .ok grid) :
    Work.commit cell value board =
      Work.strikeAll value (board.layout.peersOf cell) (board.assignedOnly grid cell value) := by
  simp only [Work.commit, InPlace.get_bind, isOpen, candidate, named, written, if_true,
    InPlace.attempt_ok_bind, InPlace.modify_bind]
  rfl

/-- Committing in place does what a commit does, and fails before anything was written. -/
theorem Coherent.commit_allOrNothing (coherent : Coherent layout given board)
    (cell value : Nat) : AllOrNothing (Work.commit cell value) board (board.commit cell value) := by
  by_cases accepted : cell < layout.cellCount ∧ (board.candidatesAt cell).contains value = true
  · obtain ⟨inside, candidate⟩ := accepted
    obtain ⟨symbol, named, success⟩ := coherent.commit_eq inside candidate
    have isOpen := getElem?_assigned_of_open (by rw [coherent.assigned_size]; exact inside)
      (coherent.isOpen_of_candidate inside candidate)
    have written : board.grid.commit (board.layout.positionOf cell) symbol =
        .ok (board.grid.setValueAt cell (some symbol)) :=
      coherent.setValue_positionOf inside (some symbol)
    have domains : (board.grid.setValueAt cell (some symbol)).domain = board.grid.domain :=
      Grid.domain_eq_of_frame_eq (Grid.frame_setValueAt _ _ _)
    rw [← coherent.domain_eq] at named
    rw [success, AllOrNothing, commit_of_symbol isOpen candidate named written,
      coherent.strikeAll_assignedOnly cell value domains]
  · unfold AllOrNothing Work.commit Board.commit
    simp only [InPlace.get_bind]
    cases stored : board.assigned[cell]? with
    | none => exact ⟨rfl, _, rfl⟩
    | some entry =>
        cases entry with
        | some held => exact ⟨rfl, _, rfl⟩
        | none =>
            obtain ⟨inside, _⟩ := Array.getElem?_eq_some_iff.1 stored
            rw [coherent.assigned_size] at inside
            have missing : ¬(board.candidatesAt cell).contains value = true :=
              fun candidate => accepted ⟨inside, candidate⟩
            simp only [missing]
            exact ⟨rfl, _, rfl⟩

/-! ### Undoing -/

/-- Giving a value back to one peer after another gives it to those that are open and that
no other peer keeps it from. -/
theorem giveBackAll_eq (value : Nat) (peers : List Nat) (board : Board alphabet) :
    Work.giveBackAll value peers board =
      .ok () { board with
        candidates := (peers.filter fun peer => (board.assigned.getD peer none).isNone &&
            !isExcluded board.layout board.assigned peer value).foldl
          (fun candidates peer => candidates.modify peer (·.insert value)) board.candidates } := by
  induction peers generalizing board with
  | nil => rfl
  | cons peer peers inductionHypothesis =>
      simp only [Work.giveBackAll, Work.giveBack, InPlace.modify_bind, inductionHypothesis,
        List.filter_cons]
      split <;> rfl

/-- Releasing a cell in place does what a release does on a coherent board. -/
theorem Coherent.release_eq (coherent : Coherent layout given board)
    (released : board.release cell = .ok next) : Work.release cell board = .ok () next := by
  cases isAssigned : board.assignedAt cell with
  | none => simp [Board.release, isAssigned] at released
  | some value =>
      have inside := coherent.lt_of_assignedAt isAssigned
      have cleared : board.grid.clear (board.layout.positionOf cell) =
          .ok (board.grid.setValueAt cell none) := coherent.setValue_positionOf inside none
      simp only [Board.release, isAssigned, cleared, Except.map, Except.ok.injEq] at released
      simp only [Work.release, InPlace.get_bind, isAssigned, InPlace.modify_bind, cleared,
        InPlace.attempt_ok_bind, InPlace.bind_of_ok (giveBackAll_eq value _ _)]
      rw [← released]
      rfl

/-- Undoing in place does what an undo does, and fails before the trail was blanked. -/
theorem Tracked.undo_allOrNothing (tracked : Tracked layout given board) (cell : Nat) :
    AllOrNothing (Work.undo cell) board ((board.undo cell).map fun next => (next, ())) := by
  by_cases committed : cell ∈ board.committedCells
  · have latest := blankLatest?_eq_some tracked.nodup committed
    obtain ⟨next, success, _⟩ := tracked.exists_undo committed
    have released := success
    rw [Board.undo, latest] at released
    have inPlace := (tracked.coherent.withTrail (blanked [cell] board.trail)).release_eq released
    rw [success]
    simp only [AllOrNothing, Except.map, Work.undo, InPlace.get_bind, latest,
      InPlace.set_bind, inPlace]
  · have absent := (blankLatest?_eq_none_iff cell board.trail).2 committed
    rw [undo_eq_error board committed]
    simp only [AllOrNothing, Except.map, Work.undo, InPlace.get_bind, absent]
    exact ⟨rfl, _, rfl⟩

/-! ### Rolling back -/

/-- Popping in place drops the latest entry of the trail and releases its cell. -/
theorem Coherent.pop_eq (coherent : Coherent layout given board) {entry : Option Nat}
    {earlier : List (Option Nat)} (trail : board.trail = entry :: earlier)
    (released : ({ board with trail := earlier } : Board alphabet).releaseEntry entry =
      .ok next) :
    Work.pop board = .ok () next := by
  simp only [Work.pop, InPlace.get_bind, trail, InPlace.set_bind]
  cases entry with
  | none =>
      rw [releaseEntry, Except.ok.injEq] at released
      rw [← released]
      rfl
  | some cell => exact (coherent.withTrail earlier).release_eq released

/-- Rolling back in place does what a rollback does. -/
theorem Tracked.rollback_eq (tracked : Tracked layout given board) {mark : Nat}
    (rolledBack : board.rollback mark = .ok next) : Work.rollback mark board = .ok () next := by
  rw [Work.rollback, InPlace.get_bind]
  induction excess : board.trail.length - mark generalizing board with
  | zero =>
      rw [rollback_of_le (by unfold Board.mark; omega), Except.ok.injEq] at rolledBack
      rw [← rolledBack]
      rfl
  | succ count inductionHypothesis =>
      cases trail : board.trail with
      | nil => simp [trail] at excess
      | cons entry earlier =>
          rw [trail, List.length_cons] at excess
          obtain ⟨middle, released, middleTracked, middleTrail, _⟩ :=
            tracked.exists_releaseEntry trail
          rw [rollback_cons trail (by omega) released] at rolledBack
          rw [Work.popMany, InPlace.bind_of_ok (tracked.coherent.pop_eq trail released)]
          exact inductionHypothesis middleTracked rolledBack (by rw [middleTrail]; omega)

/-! ### Propagation -/

/-- After a forced commit in place, it is the turn of the cells that it reports. -/
theorem Work.settle_of_force {queue remaining : List Nat} {forced : Nat}
    (moved : board.move queue = .force cell value remaining)
    (committed : Work.commit cell value board = .ok signals next) :
    Work.settle queue forced board =
      match signals.findSome? Signal.dead? with
      | some dead => .ok (.contradiction dead) next
      | none =>
          Work.settle ((signals.filterMap Signal.forced?).reverse ++ remaining) (forced + 1)
            next := by
  rw [Work.settle]
  simp only [moved]
  split
  · next failed =>
      rw [committed] at failed
      cases failed
  · next success =>
      rw [committed] at success
      cases success
      rfl

/-- Working off a queue in place does what it does otherwise. -/
theorem Coherent.settle_eq (coherent : Coherent layout given board) {queue : List Nat}
    {forced : Nat} {propagation : Propagation}
    (settled : board.settle queue forced = .ok (next, propagation)) :
    Work.settle queue forced board = .ok propagation next := by
  fun_induction board.settle queue forced with
  | case1 board queue forced moved | case2 board queue forced cell moved =>
      cases settled
      rw [Work.settle, moved]
  | case3 board queue forced cell value remaining moved error failed => cases settled
  | case4 board queue forced cell value remaining moved middle signals success dead reported =>
      have inPlace := coherent.commit_allOrNothing cell value
      rw [success, AllOrNothing] at inPlace
      cases settled
      rw [Work.settle_of_force moved inPlace, reported]
  | case5 board queue forced cell value remaining moved middle signals success unreported
      inductionHypothesis =>
      have inPlace := coherent.commit_allOrNothing cell value
      rw [success, AllOrNothing] at inPlace
      rw [Work.settle_of_force moved inPlace, unreported]
      exact inductionHypothesis (coherent.committed success).coherent settled

/-- Propagation in place does what propagation does. -/
theorem Coherent.propagate_eq (coherent : Coherent layout given board)
    {propagation : Propagation} (propagated : board.propagate = .ok (next, propagation)) :
    Work.propagate board = .ok propagation next :=
  coherent.settle_eq propagated

end Board
end Sudoku
