import Sudoku.Proofs.Board.Completion
import Sudoku.Proofs.Search.Selection
import Sudoku.Search.Basic

/-!
# The invariant of a search

Every choice point of a search was opened on a board at rest, from which the
boards of all later choice points and the present board descend. Rolling back to
its mark therefore restores that board, on which the options that are left can
still be committed. A later choice point is only opened once the cells of all
earlier ones hold options that were tried, so that no two are for the same cell.
So no step of a search fails, whether or not the token is cancelled, and a search
that is cancelled ends on the board it started from.
-/

namespace Sudoku
namespace Search

variable {alphabet : Alphabet} {layout : Layout} {given : Grid alphabet}
  {initial base board next : Board alphabet} {search : Search alphabet}
  {point : ChoicePoint} {outer : List ChoicePoint}

open Board

/-- A choice point that was opened on a board at rest, with the options left after
some of the candidates were tried. -/
structure Opened (base : Board alphabet) (point : ChoicePoint) (tried : List Nat) :
    Prop where
  mark_eq : point.mark = base.mark
  atRest : base.AtRest
  chosen : base.fewest? = some point.cell
  candidates : (base.candidatesAt point.cell).toList = tried ++ point.options.toList

/-- The cell of a choice point holds an option that is not left to try. -/
def Taken (board : Board alphabet) (point : ChoicePoint) : Prop :=
  ∃ value, board.assignedAt point.cell = some value ∧ value ∉ point.options.toList

/-- The choice points of a search that started on one board and is on another now. -/
inductive Stacked (initial : Board alphabet) : List ChoicePoint → Board alphabet → Prop
  | root {board : Board alphabet} (descends : Descends initial board) :
      Stacked initial [] board
  | push {base board : Board alphabet} {point : ChoicePoint} {outer : List ChoicePoint}
      (tried : List Nat) (below : Stacked initial outer base)
      (taken : ∀ earlier ∈ outer, Taken base earlier)
      (opened : Opened base point tried) (descends : Descends base board) :
      Stacked initial (point :: outer) board

/-- What a choice point holds stays under commits. -/
theorem Taken.of_descends (taken : Taken base point) (coherent : Coherent layout given base)
    (descends : Descends base board) : Taken board point := by
  obtain ⟨value, isAssigned, tried⟩ := taken
  exact ⟨value, coherent.assignedAt_of_descends descends isAssigned, tried⟩

namespace Opened

variable {tried values : List Nat} {value : Nat}

/-- The first option that is left can be committed to the board of the choice
point. -/
theorem exists_commit (opened : Opened base point tried)
    (coherent : Coherent layout given base)
    (listed : point.options.toList = value :: values) :
    ∃ next signals, base.commit point.cell value = .ok (next, signals) ∧
      Committed layout given base point.cell value next signals := by
  have inside := (mem_openCells_of_fewest? opened.chosen).1
  rw [coherent.layout_eq] at inside
  apply coherent.exists_commit inside
  rw [← CandidateSet.mem_toList, opened.candidates, listed]
  simp

/-- A choice point has taken its first option once that is committed. -/
theorem taken (opened : Opened base point tried) {options : CandidateSet}
    (listed : point.options.toList = value :: values) (rest : options.toList = values)
    {signals : List Signal} (coherent : Coherent layout given base)
    (committed : Committed layout given base point.cell value next signals) :
    Taken next { point with options } := by
  refine ⟨value, by rw [committed.assignedAt coherent, if_pos rfl], ?_⟩
  have distinct := (base.candidatesAt point.cell).nodup_toList
  rw [opened.candidates, listed] at distinct
  rw [rest]
  exact (List.nodup_cons.1 (List.nodup_append.1 distinct).2.1).1

/-- The first option that is left can be taken from the choice point. -/
theorem take (opened : Opened base point tried) {options : CandidateSet}
    (listed : point.options.toList = value :: values) (rest : options.toList = values) :
    Opened base { point with options } (tried ++ [value]) := by
  refine ⟨opened.mark_eq, opened.atRest, opened.chosen, ?_⟩
  rw [opened.candidates, listed, List.append_assoc, List.singleton_append, rest]

end Opened

namespace Stacked

/-- The present board of a search descends from the one it started on. -/
theorem descends {choices : List ChoicePoint} (stacked : Stacked initial choices board) :
    Descends initial board := by
  induction stacked with
  | root descends => exact descends
  | push _ _ _ _ descends inductionHypothesis =>
      exact inductionHypothesis.trans descends

/-- Commits leave the choice points alone. -/
theorem of_descends {choices : List ChoicePoint} (stacked : Stacked initial choices board)
    (descends : Descends board next) : Stacked initial choices next := by
  cases stacked with
  | root earlier => exact .root (earlier.trans descends)
  | push tried below taken opened earlier =>
      exact .push tried below taken opened (earlier.trans descends)

end Stacked

/-- A search whose choice points are in order and which chooses only on boards at rest
where every choice point has taken an option. -/
structure Sound (initial : Board alphabet) (search : Search alphabet) : Prop where
  stacked : Stacked initial search.choices search.board
  atRest : search.phase = .choosing → search.board.AtRest
  taken : search.phase = .choosing → ∀ point ∈ search.choices, Taken search.board point

/-! ### Moves -/

/-- A search whose board came to rest after so many forced commits. -/
def rested (search : Search alphabet) (board : Board alphabet) (forced : Nat) :
    Search alphabet :=
  { search with
    board
    statistics := { search.statistics with
      forcedMoves := search.statistics.forcedMoves + forced }
    phase := .choosing }

/-- A search that came to rest goes on choosing. -/
theorem propagate_of_rests (search : Search alphabet) {forced : Nat}
    (rests : Rests layout given search.board next forced) :
    search.propagate = .ok (search.rested next forced) := by
  simp only [propagate, rests.propagated, bind, Except.bind]
  rfl

/-- A search that ended at a dead cell goes on trying. -/
theorem propagate_of_halts (search : Search alphabet) {forced cell : Nat}
    (halts : Halts layout given search.board next forced cell) :
    search.propagate = .ok { search with board := next, phase := .trying } := by
  simp only [propagate, halts.propagated, bind, Except.bind]

/-- A board without open cells has no flaw as a solution. -/
theorem solutionFlaw?_of_full (coherent : Coherent layout given board)
    (full : board.fewest? = none) : solutionFlaw? board = .ok none := by
  have closed := (fewest?_eq_none_iff board).1 full
  rw [coherent.layout_eq] at closed
  unfold solutionFlaw?
  rw [coherent.isFull_of_full closed, if_pos rfl, coherent.layout_eq,
    Layout.findConflict, coherent.fits_grid,
    (Layout.conflict?_eq_none_iff coherent.sound).2 coherent.respected]
  rfl

/-- On a board at rest without open cells, the working grid is accepted, whether or
not it is checked. -/
theorem choose_of_full (search : Search alphabet)
    (coherent : Coherent layout given search.board) (atRest : search.board.AtRest)
    (full : search.board.fewest? = none) (goal : Goal) :
    search.choose goal = .ok { search with
      solutions := search.board.grid :: search.solutions
      phase := if goal.wanted ≤ search.solutions.length + 1 then .solved else .trying } := by
  unfold choose
  rw [selectCell?_eq_fewest? atRest, full]
  simp only [accept, solutionFlaw?_of_full coherent full]
  cases goal.verify <;> rfl

/-- On a board at rest with open cells, a search branches on the one with the fewest
candidates. -/
theorem choose_of_chosen (search : Search alphabet) (atRest : search.board.AtRest)
    {cell : Nat} (chosen : search.board.fewest? = some cell) (goal : Goal) :
    search.choose goal = .ok (search.branchOn cell) := by
  unfold choose
  rw [selectCell?_eq_fewest? atRest, chosen]

/-- A search after an option of its innermost choice point was committed. -/
def advanced (search : Search alphabet) (next : Board alphabet) (point : ChoicePoint)
    (outer : List ChoicePoint) : Search alphabet :=
  { search with
    board := next
    choices := point :: outer
    statistics := { search.statistics with
      branches := search.statistics.branches + 1 } }

/-- Rolling back to the mark of a choice point restores the board it was opened
on. -/
theorem rollback_of_descends (coherent : Coherent layout given base)
    (descends : Descends base search.board) (mark_eq : point.mark = base.mark) :
    search.board.rollback point.mark = .ok base := by
  rw [mark_eq, rollback_mark_of_descends coherent descends]

/-- A choice point without options is given up. -/
theorem tryNext_of_exhausted (coherent : Coherent layout given base)
    (descends : Descends base search.board) (mark_eq : point.mark = base.mark)
    (choices : search.choices = point :: outer) (exhausted : point.options.toList = []) :
    search.tryNext = .ok (search.backtrack base outer) := by
  have none : point.options.popFirst? = none :=
    (CandidateSet.popFirst?_eq_none_iff _).2 exhausted
  simp only [tryNext, choices, rollback_of_descends coherent descends mark_eq, none, bind,
    Except.bind]

/-- The first option of a choice point is committed, and the board propagated unless
the commit took the last candidate of a peer. -/
theorem tryNext_of_option (coherent : Coherent layout given base)
    (descends : Descends base search.board) (mark_eq : point.mark = base.mark)
    (choices : search.choices = point :: outer) {value : Nat} {options : CandidateSet}
    (popped : point.options.popFirst? = some (value, options)) {signals : List Signal}
    (committed : base.commit point.cell value = .ok (next, signals)) :
    search.tryNext =
      if (signals.findSome? Signal.dead?).isSome then
        .ok (search.advanced next { point with options } outer)
      else (search.advanced next { point with options } outer).propagate := by
  simp only [tryNext, choices, rollback_of_descends coherent descends mark_eq, popped,
    attempt, committed, bind, Except.bind]
  rfl

/-- Dropping all choices gives the board that a search started on. -/
theorem abandon_of_descends (coherent : Coherent layout given initial)
    (fresh : initial.mark = 0) (descends : Descends initial search.board) :
    search.abandon = .ok { search with
      board := initial
      choices := []
      phase := .cancelled } := by
  have dropped := rollback_mark_of_descends coherent descends
  rw [fresh] at dropped
  unfold abandon
  rw [dropped]
  rfl

/-! ### Steps -/

/-- Propagation of a coherent board in a search succeeds and gives a sound search. -/
theorem Stacked.exists_propagate (stacked : Stacked initial search.choices search.board)
    (taken : ∀ point ∈ search.choices, Taken search.board point)
    (coherent : Coherent layout given search.board) :
    ∃ next, search.propagate = .ok next ∧ Sound initial next := by
  rcases coherent.rests_or_halts with ⟨last, forced, rests⟩ | ⟨last, forced, cell, halts⟩
  · refine ⟨_, search.propagate_of_rests rests,
      stacked.of_descends rests.run.descends, fun _ => rests.atRest, ?_⟩
    intro _ point member
    exact (taken point member).of_descends coherent rests.run.descends
  · exact ⟨_, search.propagate_of_halts halts,
      stacked.of_descends halts.run.descends, by simp, by simp⟩

namespace Sound

/-- Choosing on a board at rest succeeds and keeps the search sound. -/
theorem exists_choose (coherent : Coherent layout given search.board)
    (sound : Sound initial search) (choosing : search.phase = .choosing) (goal : Goal) :
    ∃ next, search.choose goal = .ok next ∧ Sound initial next := by
  have atRest := sound.atRest choosing
  cases chosen : search.board.fewest? with
  | none =>
      have notChoosing :
          (if goal.wanted ≤ search.solutions.length + 1 then Phase.solved else .trying) ≠
            .choosing := by
        split <;> simp
      exact ⟨_, search.choose_of_full coherent atRest chosen goal, sound.stacked,
        fun again => absurd again notChoosing, fun again => absurd again notChoosing⟩
  | some cell =>
      refine ⟨_, search.choose_of_chosen atRest chosen goal, ?_, by simp [branchOn],
        by simp [branchOn]⟩
      exact .push [] sound.stacked (sound.taken choosing) ⟨rfl, atRest, chosen, rfl⟩ .refl

/-- Trying the first option of a choice point succeeds and keeps the search sound. -/
theorem exists_tryOption (coherent : Coherent layout given base)
    (below : Stacked initial outer base) (taken : ∀ earlier ∈ outer, Taken base earlier)
    {tried : List Nat} (opened : Opened base point tried)
    (descends : Descends base search.board)
    (trying : search.phase = .trying) (choices : search.choices = point :: outer)
    {value : Nat} {values : List Nat} (listed : point.options.toList = value :: values) :
    ∃ next, search.tryNext = .ok next ∧ Sound initial next := by
  obtain ⟨options, popped, rest⟩ := CandidateSet.exists_popFirst? listed
  obtain ⟨next, signals, success, committed⟩ := opened.exists_commit coherent listed
  have commits : Descends base next := .single ⟨point.cell, value, signals, success⟩
  have stacked : Stacked initial ({ point with options } :: outer) next :=
    .push (tried ++ [value]) below taken (opened.take listed rest) commits
  have allTaken : ∀ held ∈ { point with options } :: outer, Taken next held := by
    rw [List.forall_mem_cons]
    exact ⟨opened.taken listed rest coherent committed,
      fun earlier member => (taken earlier member).of_descends coherent commits⟩
  rw [tryNext_of_option coherent descends opened.mark_eq choices popped success]
  split
  · exact ⟨_, rfl, stacked, by simp [advanced, trying], by simp [advanced, trying]⟩
  · exact Stacked.exists_propagate stacked allTaken committed.coherent

/-- The next try succeeds and keeps the search sound. -/
theorem exists_tryNext (coherent : Coherent layout given initial)
    (sound : Sound initial search) (trying : search.phase = .trying) :
    ∃ next, search.tryNext = .ok next ∧ Sound initial next := by
  have stacked := sound.stacked
  cases choices : search.choices with
  | nil =>
      have notChoosing : search.exhaust.phase ≠ .choosing := by
        simp only [exhaust]
        split <;> simp
      exact ⟨search.exhaust, by rw [tryNext, choices], stacked,
        fun again => absurd again notChoosing, fun again => absurd again notChoosing⟩
  | cons point outer =>
      rw [choices] at stacked
      cases stacked with
      | @push base _ _ _ tried below taken opened descends =>
          have baseCoherent := coherent.of_descends below.descends
          cases listed : point.options.toList with
          | nil =>
              exact ⟨_, tryNext_of_exhausted baseCoherent descends opened.mark_eq choices
                listed, below, by simp [backtrack, trying], by simp [backtrack, trying]⟩
          | cons value values =>
              exact exists_tryOption baseCoherent below taken opened descends trying choices
                listed

/-- No step of a sound search fails, and each keeps the search sound. -/
theorem exists_step (coherent : Coherent layout given initial) (fresh : initial.mark = 0)
    (sound : Sound initial search) (goal : Goal) (isCancelled : Bool) :
    ∃ next, search.step goal isCancelled = .ok next ∧ Sound initial next := by
  have descends := sound.stacked.descends
  unfold step
  cases phase : search.phase with
  | choosing => exact sound.exists_choose (coherent.of_descends descends) phase goal
  | trying =>
      cases isCancelled with
      | false => exact sound.exists_tryNext coherent phase
      | true =>
          exact ⟨_, abandon_of_descends coherent fresh descends, .root .refl, by simp,
            by simp⟩
  | solved | unsatisfiable | cancelled => exact ⟨search, rfl, sound⟩

/-- A step does not depend on whether solutions are checked. -/
theorem step_verify (coherent : Coherent layout given initial)
    (sound : Sound initial search) (wanted : Nat) (verify : Bool) (isCancelled : Bool) :
    search.step ⟨wanted, verify⟩ isCancelled = search.step ⟨wanted, true⟩ isCancelled := by
  unfold step
  cases phase : search.phase with
  | choosing =>
      have atRest := sound.atRest phase
      cases chosen : search.board.fewest? with
      | none =>
          have boardCoherent := coherent.of_descends sound.stacked.descends
          simp only [search.choose_of_full boardCoherent atRest chosen]
      | some cell => simp only [search.choose_of_chosen atRest chosen]
  | trying | solved | unsatisfiable | cancelled => rfl

/-- A run does not depend on whether solutions are checked. -/
theorem run_verify (coherent : Coherent layout given initial) (fresh : initial.mark = 0)
    (sound : Sound initial search) (wanted : Nat) (verify : Bool)
    (isCancelled : Nat → Bool) (budget taken : Nat) :
    run ⟨wanted, verify⟩ isCancelled budget taken search =
      run ⟨wanted, true⟩ isCancelled budget taken search := by
  induction budget generalizing taken search with
  | zero => rfl
  | succ budget inductionHypothesis =>
      obtain ⟨next, stepped, nextSound⟩ :=
        sound.exists_step coherent fresh ⟨wanted, true⟩ (isCancelled taken)
      unfold run
      rw [sound.step_verify coherent, stepped]
      split
      · rfl
      · exact inductionHypothesis nextSound (taken + 1)

end Sound
end Search
end Sudoku
