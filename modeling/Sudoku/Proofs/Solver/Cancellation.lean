import Sudoku.Proofs.Search.Cancellation
import Sudoku.Proofs.Solver.Outcome

/-!
# Cancelled solvers

A solver whose token is cancelled in the middle of a search gives no grid, and the search
is back on the board of the grid it was given. A solver that is cancelled before it
begins, or that has no time at all, still propagates: it answers what propagation alone
decides, and it rejects the grids that every solver rejects.
-/

namespace Sudoku
namespace Solver

variable {alphabet : Alphabet} {grid : Grid alphabet} {layout : Layout} {solver other : Solver}
  {watch calm : Watch} {wanted : Nat}

/-- The search of a grid is that of its board. -/
theorem search_eq_complete (loads : grid.Loads layout) (solver : Solver) (watch : Watch)
    (wanted : Nat) :
    solver.search watch wanted grid =
      Search.complete ⟨wanted, solver.configuration.verifySolutions⟩
        (watch.cancels (solver.tokenAt watch.start)) (.initial layout grid) := by
  simp only [search, loads.divided, loads.board, bind, Except.bind]

/-- What a solver tells of the search for one solution. -/
theorem solveWithStatistics_of_search {search : Search alphabet}
    (searched : solver.search watch 1 grid = .ok search) :
    solver.solveWithStatistics watch grid = .ok (solutionOf search, search.statistics) := by
  rw [solveWithStatistics, searched]
  rfl

/-- What a solver tells of the search for two solutions. -/
theorem checkUniqueness_of_search {search : Search alphabet}
    (searched : solver.search watch 2 grid = .ok search) :
    solver.checkUniqueness watch grid = .ok (uniquenessOf search) := by
  rw [checkUniqueness, searched]
  rfl

/-! ### Cancelled on the way -/

/-- A search of a valid grid that is interrupted at a try, wherever its own steps have
led, is back on the board of the grid with nothing committed and no choice points. Then
it ends, and the solver gives no grid whatever the search has found. -/
theorem interruption_restores (built : grid.Built) (valid : grid.Valid) :
    ∃ layout board first, Layout.ofGrid grid = .ok layout ∧
      Board.ofGrid layout grid = .ok board ∧ board.grid = grid ∧ board.mark = 0 ∧
      Search.start board = .ok first ∧
      (∀ goal count search, Search.Steps goal count first search →
        search.abandon = .ok (search.withdrawn board) ∧
        (search.phase = .trying → search.step goal true = .ok (search.withdrawn board))) ∧
      ∀ (solver : Solver) (watch : Watch) (wanted count : Nat) (search : Search alphabet),
        Search.Interrupted ⟨wanted, solver.configuration.verifySolutions⟩
          (watch.cancels (solver.tokenAt watch.start)) first count search →
        solver.search watch wanted grid = .ok (search.withdrawn board) ∧
        (wanted = 1 → solver.solveWithStatistics watch grid =
          .ok (.cancelled, search.statistics)) ∧
        (wanted = 2 → solver.checkUniqueness watch grid = .ok .cancelled) := by
  rcases Grid.loads_or_rejects built.wellFormed with ⟨_, layout, loads⟩ | ⟨invalid, _⟩
  swap
  · exact absurd valid invalid
  have fresh : (Board.initial layout grid).mark = 0 := rfl
  obtain ⟨first, _, started, sound, _⟩ :=
    Search.exists_start ⟨1, true⟩ loads.coherent Nat.one_pos
  refine ⟨layout, .initial layout grid, first, loads.divided, loads.board, rfl, fresh,
    started, ?_, ?_⟩
  · intro goal count search steps
    have reached := steps.sound loads.coherent fresh sound
    exact ⟨reached.abandon_eq loads.coherent fresh,
      reached.step_of_cancelled loads.coherent fresh⟩
  · intro solver watch wanted count search interrupted
    have searched : solver.search watch wanted grid =
        .ok (search.withdrawn (.initial layout grid)) := by
      rw [search_eq_complete loads]
      exact interrupted.complete_eq loads.coherent fresh started
    refine ⟨searched, ?_, ?_⟩
    · rintro rfl
      exact solveWithStatistics_of_search searched
    · rintro rfl
      exact checkUniqueness_of_search searched

/-- A search of the band for two solutions that is interrupted after it has found one of them. -/
theorem interruption_restores_openBand :
    ∃ (board : Board .unsigned8) (search : Search .unsigned8),
      board.grid = Grid.openBand ∧ board.mark = 0 ∧ search.solutions.length = 1 ∧
      ({} : Solver).search ⟨0, fun step => decide (3 ≤ step), fun _ => 0⟩ 2
        Grid.openBand = .ok (search.withdrawn board) ∧
      ({} : Solver).checkUniqueness ⟨0, fun step => decide (3 ≤ step), fun _ => 0⟩
        Grid.openBand = .ok .cancelled := by
  obtain ⟨layout, board, first, divided, loaded, same, fresh, started, _, searches⟩ :=
    interruption_restores Grid.built_openBand (by decide +kernel)
  have trace : (do
      let layout ← Layout.ofGrid Grid.openBand
      let board ← Board.ofGrid layout Grid.openBand
      let first ← Search.start board
      let second ← first.step ⟨2, true⟩ false
      let third ← second.step ⟨2, true⟩ false
      let fourth ← third.step ⟨2, true⟩ false
      .ok (first.phase.isFinal, second.phase.isFinal, third.phase.isFinal, fourth.phase,
        fourth.solutions.length)) = .ok (false, false, false, .trying, 1) := by
    decide +kernel
  simp only [divided, loaded, started, Error.bind_eq_ok_iff, Except.ok.injEq,
    Prod.mk.injEq, exists_eq_left'] at trace
  obtain ⟨second, chosen, third, tried, fourth, accepted, firstActive, secondActive,
    thirdActive, trying, found⟩ := trace
  have interrupted : Search.Interrupted ⟨2, true⟩
      (Watch.cancels ⟨0, fun step => decide (3 ≤ step), fun _ => 0⟩
        (({} : Solver).tokenAt 0)) first 3 fourth := by
    refine ⟨.step firstActive chosen (.step secondActive tried (.step thirdActive accepted
      (.rest fourth))), trying, ?_, by decide⟩
    intro step earlier before _ _
    simp [Watch.cancels, CancelToken.isCancelled, tokenAt, SolverConfiguration.timeLimit,
      Nat.not_le_of_lt before]
  obtain ⟨searched, _, checked⟩ := searches {} _ 2 3 fourth interrupted
  exact ⟨board, fourth, same, fresh, found, searched, checked rfl⟩

/-! ### Cancelled from the beginning -/

/-- A search of a solver is cancelled before it begins: the flag of its token is up, the
deadline of its token has passed, or it has no time while the clock does not run
backwards. -/
inductive Halted (solver : Solver) (watch : Watch) : Prop
  | raised (up : ∀ step, watch.raised step = true) : Halted solver watch
  | expired {deadline : Time} (carried : solver.token.deadline = some deadline)
      (passed : ∀ step, deadline ≤ watch.clock step) : Halted solver watch
  | noTime (limit : solver.configuration.timeLimitMs = some 0)
      (begins : watch.start ≤ Time.last) (forward : ∀ step, watch.start ≤ watch.clock step) :
      Halted solver watch

/-- A timeout does not postpone the deadline of a token. -/
theorem exists_deadline_withTimeout {token : CancelToken} {deadline : Time}
    (carried : token.deadline = some deadline) (now span : Time) :
    ∃ earlier, (token.withTimeout now span).deadline = some earlier ∧ earlier ≤ deadline := by
  unfold CancelToken.withTimeout
  split
  · refine ⟨min deadline (now + span), ?_, Nat.min_le_left _ _⟩
    simp [CancelToken.withDeadline, carried]
  · exact ⟨deadline, carried, Nat.le_refl _⟩

/-- A token whose deadline has passed counts as cancelled. -/
theorem cancels_of_deadline_le {token : CancelToken} {deadline : Time} {step : Nat}
    (carried : token.deadline = some deadline) (passed : deadline ≤ watch.clock step) :
    watch.cancels token step = true := by
  simp [Watch.cancels, CancelToken.isCancelled, carried, passed]

/-- A search that is cancelled before it begins is cancelled at each of its steps. -/
theorem Halted.cancels (halted : solver.Halted watch) (step : Nat) :
    watch.cancels (solver.tokenAt watch.start) step = true := by
  cases halted with
  | raised up => simp [Watch.cancels, CancelToken.isCancelled, up]
  | @expired deadline carried passed =>
      unfold tokenAt
      split
      · next limit _ =>
          obtain ⟨earlier, carriedToo, before⟩ :=
            exists_deadline_withTimeout carried watch.start limit
          exact cancels_of_deadline_le carriedToo (Nat.le_trans before (passed step))
      · exact cancels_of_deadline_le carried (passed step)
  | noTime limit begins forward =>
      have timeLimit : solver.configuration.timeLimit = some 0 := by
        rw [SolverConfiguration.timeLimit, limit]
        rfl
      have expires : ∃ earlier, (solver.tokenAt watch.start).deadline = some earlier ∧
          earlier ≤ watch.start := by
        simp only [tokenAt, timeLimit, CancelToken.withTimeout, Nat.add_zero, begins, if_true,
          CancelToken.withDeadline]
        cases solver.token.deadline with
        | none => exact ⟨_, rfl, Nat.le_refl _⟩
        | some deadline => exact ⟨_, rfl, Nat.min_le_right _ _⟩
      obtain ⟨earlier, carried, before⟩ := expires
      exact cancels_of_deadline_le carried (Nat.le_trans before (forward step))

/-! ### What propagation decides -/

section

variable {last : Board alphabet} {forced cell : Nat}

/-- A solver finds a grid unsatisfiable when propagation of its board ends in a
contradiction. -/
theorem solveWithStatistics_of_halts (loads : grid.Loads layout)
    (halts : Board.Halts layout grid (.initial layout grid) last forced cell)
    (solver : Solver) (watch : Watch) :
    solver.solveWithStatistics watch grid = .ok (.unsatisfiable, {}) :=
  solveWithStatistics_of_search ((search_eq_complete loads solver watch 1).trans
    (Search.complete_of_halts halts _ _))

/-- A solver finds a grid impossible when propagation of its board ends in a
contradiction. -/
theorem checkUniqueness_of_halts (loads : grid.Loads layout)
    (halts : Board.Halts layout grid (.initial layout grid) last forced cell)
    (solver : Solver) (watch : Watch) :
    solver.checkUniqueness watch grid = .ok .impossible :=
  checkUniqueness_of_search ((search_eq_complete loads solver watch 2).trans
    (Search.complete_of_halts halts _ _))

/-- A solver solves a grid by what propagation of its board fills. -/
theorem solveWithStatistics_of_full (loads : grid.Loads layout)
    (rests : Board.Rests layout grid (.initial layout grid) last forced)
    (full : last.grid.isFull = true) (solver : Solver) (watch : Watch) :
    solver.solveWithStatistics watch grid =
      .ok (.solved last.grid, { forcedMoves := forced }) :=
  have chosen := (Search.isFull_iff_fewest? rests.coherent).1 full
  solveWithStatistics_of_search ((search_eq_complete loads solver watch 1).trans
    (Search.complete_of_full rests chosen (Nat.le_refl 1) _))

namespace Halted

/-- A cancelled solver gives up a grid that propagation does not fill. -/
theorem solveWithStatistics_of_not_full (halted : solver.Halted watch)
    (loads : grid.Loads layout)
    (rests : Board.Rests layout grid (.initial layout grid) last forced)
    (notFull : ¬last.grid.isFull = true) :
    solver.solveWithStatistics watch grid =
      .ok (.cancelled, { forcedMoves := forced, maxDepth := 1 }) := by
  rw [Search.isFull_iff_fewest? rests.coherent] at notFull
  obtain ⟨cell, chosen⟩ := Option.ne_none_iff_exists'.1 notFull
  exact solveWithStatistics_of_search ((search_eq_complete loads solver watch 1).trans
    (Search.complete_of_chosen_of_cancelled loads.coherent rfl rests chosen
      (halted.cancels 1)))

/-- A cancelled solver never tells how many solutions a grid has that propagation does not
refute. -/
theorem checkUniqueness_of_rests (halted : solver.Halted watch) (loads : grid.Loads layout)
    (rests : Board.Rests layout grid (.initial layout grid) last forced) :
    solver.checkUniqueness watch grid = .ok .cancelled := by
  have searched := search_eq_complete loads solver watch 2
  have raised := halted.cancels 1
  cases chosen : last.fewest? with
  | none =>
      exact checkUniqueness_of_search (searched.trans (Search.complete_of_full_of_cancelled
        loads.coherent rfl rests chosen Nat.one_lt_two raised))
  | some cell =>
      exact checkUniqueness_of_search (searched.trans (Search.complete_of_chosen_of_cancelled
        loads.coherent rfl rests chosen raised))

end Halted

end

/-- A solver that is cancelled before it begins answers what propagation of the board of
a grid decides. It finds a grid unsatisfiable when propagation ends in a contradiction
and solved when propagation fills it, as every solver does, and is cancelled in all other
cases, before the first try. Two solutions it never finds. It fails as every solver
does. -/
theorem halted_answers_root (built : grid.Built) (halted : solver.Halted watch)
    (other : Solver) (calm : Watch) :
    (grid.Valid → ∃ layout board last propagation,
      Layout.ofGrid grid = .ok layout ∧ Board.ofGrid layout grid = .ok board ∧
      board.propagate = .ok (last, propagation) ∧
      match propagation with
      | .contradiction _ =>
          solver.solveWithStatistics watch grid = .ok (.unsatisfiable, {}) ∧
          other.solveWithStatistics calm grid = .ok (.unsatisfiable, {}) ∧
          solver.checkUniqueness watch grid = .ok .impossible
      | .fixpoint forced =>
          solver.checkUniqueness watch grid = .ok .cancelled ∧
          if last.grid.isFull then
            solver.solveWithStatistics watch grid =
              .ok (.solved last.grid, { forcedMoves := forced }) ∧
            other.solveWithStatistics calm grid =
              .ok (.solved last.grid, { forcedMoves := forced })
          else
            solver.solveWithStatistics watch grid =
              .ok (.cancelled, { forcedMoves := forced, maxDepth := 1 })) ∧
    (∀ error, solver.solveWithStatistics watch grid = .error error ↔
      other.solveWithStatistics calm grid = .error error) ∧
    (∀ error, solver.checkUniqueness watch grid = .error error ↔
      other.checkUniqueness calm grid = .error error) := by
  refine ⟨?_, ?_, ?_⟩
  · intro valid
    rcases Grid.loads_or_rejects built.wellFormed with ⟨_, layout, loads⟩ | ⟨invalid, _⟩
    swap
    · exact absurd valid invalid
    rcases loads.coherent.rests_or_halts with ⟨last, forced, rests⟩ | ⟨last, forced, cell, halts⟩
    swap
    · exact ⟨layout, _, last, _, loads.divided, loads.board, halts.propagated,
        solveWithStatistics_of_halts loads halts solver watch,
        solveWithStatistics_of_halts loads halts other calm,
        checkUniqueness_of_halts loads halts solver watch⟩
    refine ⟨layout, _, last, _, loads.divided, loads.board, rests.propagated,
      halted.checkUniqueness_of_rests loads rests, ?_⟩
    split
    · next full =>
        exact ⟨solveWithStatistics_of_full loads rests full solver watch,
          solveWithStatistics_of_full loads rests full other calm⟩
    · next notFull => exact halted.solveWithStatistics_of_not_full loads rests notFull
  · intro error
    rw [solveWithStatistics_eq_error_iff built.wellFormed,
      solveWithStatistics_eq_error_iff built.wellFormed]
  · intro error
    rw [checkUniqueness_eq_error_iff built.wellFormed,
      checkUniqueness_eq_error_iff built.wellFormed]

/-- A solver without time gives up the band before its first try. -/
theorem halted_answers_root_openBand :
    ({ configuration := { timeLimitMs := some 0 } } : Solver).solveWithStatistics
      (.still false 0) Grid.openBand = .ok (.cancelled, { maxDepth := 1 }) ∧
    ({ configuration := { timeLimitMs := some 0 } } : Solver).checkUniqueness
      (.still false 0) Grid.openBand = .ok .cancelled := by
  have halted : ({ configuration := { timeLimitMs := some 0 } } : Solver).Halted
      (.still false 0) := .noTime rfl (Nat.zero_le _) fun _ => Nat.le_refl _
  obtain ⟨layout, board, last, propagation, divided, loaded, propagated, answers⟩ :=
    (halted_answers_root Grid.built_openBand halted {} (.still false 0)).1
      (by decide +kernel)
  have root : (do
      let layout ← Layout.ofGrid Grid.openBand
      let board ← Board.ofGrid layout Grid.openBand
      let (last, propagation) ← board.propagate
      .ok (propagation, last.grid.isFull)) = .ok (.fixpoint 0, false) := by
    decide +kernel
  simp only [divided, loaded, propagated, bind, Except.bind, Except.ok.injEq,
    Prod.mk.injEq] at root
  obtain ⟨rfl, notFull⟩ := root
  simp only [notFull] at answers
  exact ⟨answers.2, answers.1⟩

end Solver
end Sudoku
