import Sudoku.Proofs.Search.Bounds
import Sudoku.Proofs.Search.Move

/-!
# Statistics of a search

The counters of a search fit the stack of its choice points. Every choice point has at
least two options, a branch is tried at once when one is opened, and it is given up once
when all of them were tried. Every value on the board of a search was either committed by
a branch or forced by propagation that came to rest, so the mark of that board is covered
by what was counted.
-/

namespace Sudoku

variable {alphabet : Alphabet} {layout : Layout} {given : Grid alphabet}
  {initial base board last : Board alphabet}

namespace Board

/-- A commit moves a cell from the open ones to the trail. -/
theorem Coherent.mark_add_openCount (coherent : Coherent layout given base)
    (descends : Descends base board) :
    board.mark + board.openCount = base.mark + base.openCount := by
  induction descends with
  | refl => rfl
  | tail earlier step inductionHypothesis =>
      obtain ⟨cell, value, signals, success⟩ := step
      have trail := congrArg List.length
        ((coherent.of_descends earlier).committed success).trail
      have closes := openCount_commit success
      rw [List.length_cons] at trail
      unfold mark at inductionHypothesis ⊢
      omega

/-- A board without open cells counts none. -/
theorem Coherent.openCount_eq_zero (coherent : Coherent layout given board)
    (full : board.fewest? = none) : board.openCount = 0 := by
  rw [← coherent.length_openCells, List.length_eq_zero_iff]
  exact List.argmin_eq_none.1 full

end Board

namespace Search

open Board

variable {search next : Search alphabet} {goal : Goal} {point : ChoicePoint}
  {choices : List ChoicePoint} {tried : List Nat} {openCells total : Nat}

/-! ### The values that were tried -/

/-- A choice point is opened with at least two options. -/
theorem Opened.two_le_length (opened : Opened base point tried) :
    2 ≤ tried.length + point.options.toList.length := by
  obtain ⟨inside, isOpen⟩ := mem_openCells_of_fewest? opened.chosen
  rw [← List.length_append, ← opened.candidates, ← CandidateSet.size_eq_length_toList]
  exact opened.atRest point.cell inside isOpen

/-- The number of options that were tried at choice points which are still open. -/
inductive Spent (alphabet : Alphabet) : List ChoicePoint → Nat → Prop
  | nil : Spent alphabet [] 0
  | cons {base : Board alphabet} {point : ChoicePoint} {outer : List ChoicePoint}
      {tried : List Nat} {total : Nat} (opened : Opened base point tried)
      (rest : Spent alphabet outer total) :
      Spent alphabet (point :: outer) (tried.length + total)

/-! ### Choice points and branches -/

/-- The counters of a search fit the number of its choice points and of the options tried
there. -/
structure Balanced (openCells : Nat) (search : Search alphabet) : Prop where
  length_le : search.choices.length ≤ search.statistics.maxDepth
  maxDepth_le : search.statistics.maxDepth ≤
    search.statistics.backtracks + search.choices.length
  maxDepth_le_openCells : search.statistics.maxDepth ≤ openCells
  branches_eq_zero : search.statistics.maxDepth = 0 → search.statistics.branches = 0
  spent : ∃ total, Spent alphabet search.choices total ∧
    2 * search.statistics.backtracks + total ≤ search.statistics.branches

/-- A search is about to try an option of its innermost choice point. -/
def Pending (search : Search alphabet) : Prop :=
  search.phase = .trying ∧
    ∃ point outer, search.choices = point :: outer ∧ point.options.popFirst? ≠ none

/-- Only the innermost choice point may be without a branch, and only until the next try. -/
def Prompt (search : Search alphabet) : Prop :=
  search.statistics.maxDepth ≤ search.statistics.branches ∨
    search.Pending ∧ search.statistics.maxDepth ≤ search.statistics.branches + 1

theorem Prompt.of_not_pending (prompt : search.Prompt) (notPending : ¬search.Pending) :
    search.statistics.maxDepth ≤ search.statistics.branches :=
  prompt.resolve_right fun both => notPending both.1

theorem not_pending_of_phase (notTrying : search.phase ≠ .trying) : ¬search.Pending :=
  fun pending => notTrying pending.1

/-- What becomes of a search after a commit leaves its choice points alone. -/
theorem Aftermath.choices_eq {signals : List Signal}
    (aftermath : Aftermath layout given signals search next) :
    next.choices = search.choices := by
  cases aftermath <;> rfl

/-- What becomes of a search after a commit adds nothing to what it has explored. -/
theorem Aftermath.exploration_eq {signals : List Signal}
    (aftermath : Aftermath layout given signals search next) :
    next.exploration = search.exploration := by
  cases aftermath <;> rfl

namespace Balanced

/-- The counters still fit when neither they nor the choice points change. -/
theorem of_eq (balanced : Balanced openCells search)
    (choices : next.choices = search.choices)
    (exploration : next.exploration = search.exploration) : Balanced openCells next := by
  have branches : next.statistics.branches = search.statistics.branches :=
    congrArg Exploration.branches exploration
  have backtracks : next.statistics.backtracks = search.statistics.backtracks :=
    congrArg Exploration.backtracks exploration
  have maxDepth : next.statistics.maxDepth = search.statistics.maxDepth :=
    congrArg Exploration.maxDepth exploration
  constructor
  · rw [choices, maxDepth]
    exact balanced.length_le
  · rw [choices, backtracks, maxDepth]
    exact balanced.maxDepth_le
  · rw [maxDepth]
    exact balanced.maxDepth_le_openCells
  · rw [branches, maxDepth]
    exact balanced.branches_eq_zero
  · rw [choices, backtracks, branches]
    exact balanced.spent

/-- Opening a choice point adds to the depth alone. -/
theorem branchOn (balanced : Balanced openCells search) {cell : Nat}
    (opened : Opened search.board ⟨cell, search.board.candidatesAt cell, search.board.mark⟩ [])
    (fits : search.choices.length + 1 ≤ openCells) :
    Balanced openCells (search.branchOn cell) := by
  have deep := balanced.maxDepth_le
  have shallow := balanced.maxDepth_le_openCells
  obtain ⟨total, spent, few⟩ := balanced.spent
  constructor
  · exact Nat.le_max_right _ _
  · simp only [Search.branchOn, List.length_cons]
    omega
  · simp only [Search.branchOn, List.length_cons]
    omega
  · simp [Search.branchOn]
  · refine ⟨_, .cons opened spent, ?_⟩
    rw [List.length_nil, Nat.zero_add]
    exact few

/-- Giving up a choice point counts a backtrack for the two options at least that were
tried there. -/
theorem backtrack (balanced : Balanced openCells search) {outer : List ChoicePoint}
    (choices : search.choices = point :: outer) (popped : point.options.popFirst? = none)
    (base : Board alphabet) : Balanced openCells (search.backtrack base outer) := by
  obtain ⟨length_le, maxDepth_le, maxDepth_le_openCells, branches_eq_zero,
    total, spent, few⟩ := balanced
  rw [choices, List.length_cons] at length_le maxDepth_le
  rw [choices] at spent
  cases spent with
  | @cons _ _ _ tried total opened rest =>
      have several := opened.two_le_length
      rw [(CandidateSet.popFirst?_eq_none_iff _).1 popped, List.length_nil] at several
      refine ⟨Nat.le_of_succ_le length_le, ?_, maxDepth_le_openCells, branches_eq_zero,
        total, rest, ?_⟩
      · simp only [Search.backtrack]
        omega
      · simp only [Search.backtrack]
        omega

/-- Committing an option counts a branch. -/
theorem advanced (balanced : Balanced openCells search) {outer : List ChoicePoint}
    (choices : search.choices = point :: outer) {value : Nat} {options : CandidateSet}
    (listed : point.options.toList = value :: options.toList) (board : Board alphabet) :
    Balanced openCells (search.advanced board { point with options } outer) := by
  obtain ⟨length_le, maxDepth_le, maxDepth_le_openCells, branches_eq_zero,
    total, spent, few⟩ := balanced
  rw [choices, List.length_cons] at length_le maxDepth_le
  rw [choices] at spent
  cases spent with
  | @cons _ _ _ tried total opened rest =>
      refine ⟨length_le, maxDepth_le, maxDepth_le_openCells, ?_,
        _, .cons (opened.take listed rfl) rest, ?_⟩
      · intro none
        simp only [Search.advanced] at none
        omega
      · simp only [Search.advanced, List.length_append, List.length_singleton]
        omega

/-- Every step keeps the counters fitting, unless it abandons the search. -/
theorem of_move (balanced : Balanced initial.openCount search)
    (sound : Sound initial next) (coherent : Coherent layout given initial)
    (move : Move layout given initial goal search false next) :
    Balanced initial.openCount next := by
  cases move with
  | branch choosing atRest chosen =>
      exact balanced.branchOn ⟨rfl, atRest, chosen, rfl⟩ (sound.stacked.length_le coherent)
  | accept choosing full => exact { balanced with }
  | exhaust trying choices => exact { balanced with }
  | giveUp returns popped => exact balanced.backtrack returns.choices popped _
  | attempt tries aftermath =>
      exact (balanced.advanced tries.choices tries.listed _).of_eq aftermath.choices_eq
        aftermath.exploration_eq
  | stay final => exact balanced

end Balanced

/-- Every step but one that opens a choice point leaves a branch for each level of depth. -/
theorem Prompt.of_move (prompt : search.Prompt) (balanced : Balanced openCells search)
    (move : Move layout given initial goal search false next) : next.Prompt := by
  cases move with
  | @branch _ cell choosing atRest chosen =>
      have settled := prompt.of_not_pending (not_pending_of_phase (by simp [choosing]))
      have shallow := balanced.length_le
      have opened : Opened search.board
          ⟨cell, search.board.candidatesAt cell, search.board.mark⟩ [] :=
        ⟨rfl, atRest, chosen, rfl⟩
      refine .inr ⟨⟨rfl, _, _, rfl, fun popped => ?_⟩, ?_⟩
      · have several := opened.two_le_length
        rw [(CandidateSet.popFirst?_eq_none_iff _).1 popped] at several
        simp at several
      · simp only [branchOn, List.length_cons]
        omega
  | accept choosing full =>
      exact .inl (prompt.of_not_pending (not_pending_of_phase (by simp [choosing])))
  | exhaust trying choices =>
      refine .inl (prompt.of_not_pending ?_)
      rintro ⟨_, point, outer, same, _⟩
      rw [choices] at same
      simp at same
  | @giveUp _ _ _ _ returns popped =>
      refine .inl (prompt.of_not_pending ?_)
      rintro ⟨_, point, outer, same, available⟩
      rw [returns.choices, List.cons.injEq] at same
      rw [← same.1] at available
      exact available popped
  | @attempt _ _ _ _ _ _ _ _ _ tries aftermath =>
      have branches : next.statistics.branches = search.statistics.branches + 1 :=
        congrArg Exploration.branches aftermath.exploration_eq
      have maxDepth : next.statistics.maxDepth = search.statistics.maxDepth :=
        congrArg Exploration.maxDepth aftermath.exploration_eq
      left
      rcases prompt with settled | ⟨_, late⟩ <;> omega
  | stay final => exact prompt

/-! ### Values on the board -/

/-- The number of values that a search has counted, committed by choice or forced. -/
def counted (search : Search alphabet) : Nat :=
  search.statistics.branches + search.statistics.forcedMoves

/-- The values on the board of a search were counted, and so were those on the boards of
its choice points, and as many as there are open cells when it has found a solution. -/
structure Covered (openCells : Nat) (search : Search alphabet) : Prop where
  points : ∀ point ∈ search.choices, point.mark ≤ search.counted
  board : search.phase = .choosing → search.board.mark ≤ search.counted
  solutions : search.solutions ≠ [] → openCells ≤ search.counted

namespace Covered

/-- Committing an option counts a branch for its value. -/
theorem advanced (covered : Covered openCells search) {outer : List ChoicePoint}
    (trying : search.phase = .trying) (choices : search.choices = point :: outer)
    (options : CandidateSet) (board : Board alphabet) :
    Covered openCells (search.advanced board { point with options } outer) := by
  have more : search.counted ≤ (search.advanced board { point with options } outer).counted := by
    simp only [counted, Search.advanced]
    omega
  have points := covered.points
  rw [choices, List.forall_mem_cons] at points
  refine ⟨List.forall_mem_cons.2 ⟨points.1.trans more, ?_⟩, ?_, ?_⟩
  · exact fun earlier member => (points.2 earlier member).trans more
  · simp [Search.advanced, trying]
  · exact fun found => (covered.solutions found).trans more

/-- Propagation counts the values of forced commits when it comes to rest. -/
theorem of_aftermath (covered : Covered openCells search) {signals : List Signal}
    (coherent : Coherent layout given search.board)
    (paid : search.board.mark ≤ search.counted)
    (aftermath : Aftermath layout given signals search next) : Covered openCells next := by
  cases aftermath with
  | refuted reported => exact covered
  | halted unreported halts => exact ⟨covered.points, by simp [halted], covered.solutions⟩
  | @rested last forced unreported rests =>
      have counts : (search.rested last forced).counted = search.counted + forced := by
        simp only [counted, rested]
        omega
      have more : search.counted ≤ (search.rested last forced).counted := by omega
      refine ⟨fun point member => (covered.points point member).trans more, fun _ => ?_,
        fun found => (covered.solutions found).trans more⟩
      have longer : (search.rested last forced).board.mark = search.board.mark + forced :=
        rests.run.mark_eq coherent
      omega

/-- Steps count every value that is on the board when it comes to rest. -/
theorem of_move (covered : Covered initial.openCount search)
    (sound : Sound initial search) (coherent : Coherent layout given initial)
    (fresh : initial.mark = 0) (move : Move layout given initial goal search false next) :
    Covered initial.openCount next := by
  cases move with
  | branch choosing atRest chosen =>
      refine ⟨?_, by simp [branchOn], covered.solutions⟩
      exact List.forall_mem_cons.2 ⟨covered.board choosing, covered.points⟩
  | accept choosing full =>
      have paid := covered.board choosing
      have descends := sound.stacked.descends
      have closed := (coherent.of_descends descends).openCount_eq_zero full
      have moved := coherent.mark_add_openCount descends
      have whole : initial.openCount = search.board.mark := by omega
      exact ⟨covered.points, fun _ => paid, fun _ => whole.trans_le paid⟩
  | exhaust trying choices =>
      refine ⟨covered.points, fun choosing => ?_, covered.solutions⟩
      simp only [exhaust] at choosing
      split at choosing <;> simp at choosing
  | giveUp returns popped =>
      have points := covered.points
      rw [returns.choices, List.forall_mem_cons] at points
      refine ⟨points.2, fun choosing => ?_, covered.solutions⟩
      simp [backtrack, returns.trying] at choosing
  | @attempt _ board point _ _ _ options _ _ tries aftermath =>
      have own := covered.points point (by simp [tries.choices])
      have longer := tries.mark_eq
      refine (covered.advanced tries.trying tries.choices options board).of_aftermath
        tries.committed.coherent ?_ aftermath
      simp only [Search.advanced, counted] at own ⊢
      omega
  | stay final => exact covered

end Covered

/-! ### Ends -/

/-- A search that is solved has found a solution, and one that is unsatisfiable has given
up all its choice points. -/
structure Concluded (search : Search alphabet) : Prop where
  solved : search.phase = .solved → search.solutions ≠ []
  unsatisfiable : search.phase = .unsatisfiable → search.choices = []

/-- A search that goes on has concluded nothing. -/
theorem concluded_of_active (active : search.phase.isFinal = false) : search.Concluded := by
  constructor <;> intro ended <;> simp [ended, Phase.isFinal] at active

/-- Steps conclude no more than they have found out. -/
theorem Concluded.of_move (concluded : search.Concluded)
    (move : Move layout given initial goal search false next) : next.Concluded := by
  cases move with
  | branch choosing atRest chosen => exact concluded_of_active rfl
  | accept choosing full =>
      refine ⟨fun _ => List.cons_ne_nil _ _, fun ended => ?_⟩
      simp only [accepted] at ended
      split at ended <;> simp at ended
  | exhaust trying choices =>
      refine ⟨fun ended nothing => ?_, fun _ => choices⟩
      simp only [exhaust] at ended nothing
      simp [nothing] at ended
  | giveUp returns popped =>
      apply concluded_of_active
      simp only [backtrack, returns.trying, Phase.isFinal]
  | attempt tries aftermath =>
      apply concluded_of_active
      cases aftermath with
      | refuted reported => simp only [advanced, tries.trying, Phase.isFinal]
      | halted | rested => rfl
  | stay final => exact concluded

/-! ### Runs -/

/-- What the counters of a search say of a search that was not abandoned. -/
structure Accounted (openCells : Nat) (search : Search alphabet) : Prop where
  balanced : Balanced openCells search
  prompt : search.Prompt
  covered : Covered openCells search
  concluded : search.Concluded

namespace Accounted

/-- A step that does not abandon the search keeps it accounted for. -/
theorem of_step (accounted : Accounted initial.openCount search)
    (sound : Sound initial search) (coherent : Coherent layout given initial)
    (fresh : initial.mark = 0) (stepped : search.step goal false = .ok next) :
    Accounted initial.openCount next := by
  have move := sound.move_of_step coherent fresh stepped
  have nextSound := sound.of_step coherent fresh stepped
  exact ⟨accounted.balanced.of_move nextSound coherent move,
    accounted.prompt.of_move accounted.balanced move,
    accounted.covered.of_move sound coherent fresh move, accounted.concluded.of_move move⟩

/-- So do any number of steps. -/
theorem of_steps {last : Search alphabet} {count : Nat}
    (accounted : Accounted initial.openCount search) (steps : Steps goal count search last)
    (sound : Sound initial search) (coherent : Coherent layout given initial)
    (fresh : initial.mark = 0) : Accounted initial.openCount last := by
  induction steps with
  | rest search => exact accounted
  | step _ stepped _ inductionHypothesis =>
      exact inductionHypothesis (accounted.of_step sound coherent fresh stepped)
        (sound.of_step coherent fresh stepped)

/-- A search is accounted for when it starts. -/
theorem of_start {first : Search alphabet} (started : start initial = .ok first)
    (coherent : Coherent layout given initial) (fresh : initial.mark = 0) :
    Accounted initial.openCount first := by
  have balanced : Balanced initial.openCount (untried initial 0) :=
    ⟨Nat.le_refl 0, Nat.le_refl 0, Nat.zero_le _, fun _ => rfl, 0, .nil, Nat.le_refl 0⟩
  rcases coherent.rests_or_halts with ⟨rest, forced, rests⟩ | ⟨rest, forced, cell, halts⟩
  · rw [start_of_rests rests, Except.ok.injEq] at started
    subst started
    have longer := rests.run.mark_eq coherent
    refine ⟨balanced.of_eq rfl rfl, .inl (Nat.le_refl 0), ?_, concluded_of_active rfl⟩
    refine ⟨by simp [untried], fun _ => ?_, by simp [untried]⟩
    simp only [untried, counted]
    omega
  · rw [start_of_halts halts, Except.ok.injEq] at started
    subst started
    exact ⟨balanced.of_eq rfl rfl, .inl (Nat.le_refl 0), ⟨by simp, by simp, by simp⟩,
      ⟨by simp, fun _ => rfl⟩⟩

/-- No more than half of the branches belong to choice points that were given up. -/
theorem twice_backtracks_le (accounted : Accounted openCells search) :
    2 * search.statistics.backtracks ≤ search.statistics.branches := by
  obtain ⟨total, _, few⟩ := accounted.balanced.spent
  omega

/-- At any time, at most one choice point is without a branch. -/
theorem maxDepth_le_succ (accounted : Accounted openCells search) :
    search.statistics.maxDepth ≤ search.statistics.branches + 1 := by
  rcases accounted.prompt with settled | ⟨_, late⟩ <;> omega

/-- In the end every choice point has had a branch. -/
theorem maxDepth_le_branches (accounted : Accounted openCells search)
    (final : search.phase.isFinal = true) :
    search.statistics.maxDepth ≤ search.statistics.branches := by
  apply accounted.prompt.of_not_pending (not_pending_of_phase _)
  intro trying
  simp [trying, Phase.isFinal] at final

/-- An exhausted search has given up as many choice points as it ever had at a time. -/
theorem exhausted (accounted : Accounted openCells search)
    (ended : search.phase = .unsatisfiable) :
    (search.statistics.branches = 0 ∧ search.statistics.backtracks = 0 ∧
      search.statistics.maxDepth = 0) ∨
    (1 ≤ search.statistics.maxDepth ∧
      search.statistics.maxDepth ≤ search.statistics.backtracks) := by
  have deep := accounted.balanced.maxDepth_le
  rw [accounted.concluded.unsatisfiable ended, List.length_nil] at deep
  rcases Nat.eq_zero_or_pos search.statistics.maxDepth with flat | positive
  · have none := accounted.balanced.branches_eq_zero flat
    have few := accounted.twice_backtracks_le
    exact .inl ⟨none, by omega, flat⟩
  · exact .inr ⟨positive, deep⟩

end Accounted
end Search
end Sudoku
