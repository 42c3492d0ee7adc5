import Sudoku.Proofs.Board.Calls

/-!
# The order of forced commits

Naive propagation commits the single candidate of any open cell that has no other, in any
order, until no open cell has fewer than two candidates or some open cell has none. All
that it commits is held by every board at rest that can be reached this way, so it ends at
rest in every order or in none, with the same values after as many commits. Propagation
with its queue is one of these orders when it comes to rest.
-/

namespace Sudoku
namespace Board

variable {alphabet shapes : Alphabet} {layout : Layout} {given : Grid alphabet}
  {shaped : Grid shapes} {board next first last rest : Board alphabet} {cell value : Nat}
  {signals : List Signal}

/-! ### Naive propagation -/

/-- So many commits of single candidates, in any order. It stops where an open cell has no
candidates. -/
inductive NaiveRun : Board alphabet → Nat → Board alphabet → Prop
  | rest (board : Board alphabet) : NaiveRun board 0 board
  | force {board next last : Board alphabet} {cell value count : Nat}
      {signals : List Signal} (alive : ∀ other, ¬board.Dead other)
      (single : (board.candidatesAt cell).toList = [value])
      (committed : board.commit cell value = .ok (next, signals))
      (run : NaiveRun next count last) : NaiveRun board (count + 1) last

/-- Naive propagation has ended: at rest, or with a contradiction. -/
def Ended (board : Board alphabet) : Prop :=
  board.AtRest ∨ ∃ cell, board.Dead cell

/-- The commits of naive propagation are forced. -/
theorem NaiveRun.forcedRun {count : Nat} (run : NaiveRun board count last) :
    ForcedRun board count last := by
  induction run with
  | rest board => exact .rest board
  | force _ single committed _ inductionHypothesis =>
      exact .force single committed inductionHypothesis

/-- Forced commits that come to rest have met no dead cell on the way. -/
theorem ForcedRun.naiveRun (coherent : Coherent layout given board) {count : Nat}
    (run : ForcedRun board count last) (atRest : last.AtRest) :
    NaiveRun board count last := by
  induction run with
  | rest board => exact .rest board
  | force single success further inductionHypothesis =>
      have whole := ForcedRun.force single success further
      refine .force (fun other dead => ?_) single success
        (inductionHypothesis (coherent.committed success).coherent atRest)
      exact atRest.not_dead other (dead.of_forcedRun coherent whole)

/-- An open cell with fewer than two candidates that is not dead has a single one. -/
theorem Coherent.exists_single (coherent : Coherent layout given board)
    (inside : cell < layout.cellCount) (isOpen : board.assignedAt cell = none)
    (few : (board.candidatesAt cell).size < 2) (alive : ¬board.Dead cell) :
    ∃ value, (board.candidatesAt cell).toList = [value] := by
  have length := CandidateSet.size_eq_length_toList (board.candidatesAt cell)
  cases listed : (board.candidatesAt cell).toList with
  | nil =>
      refine absurd ⟨?_, isOpen, fun value => ?_⟩ alive
      · rw [coherent.layout_eq]
        exact inside
      · rw [← Bool.not_eq_true, ← CandidateSet.mem_toList, listed]
        exact List.not_mem_nil
  | cons value others =>
      rw [listed, List.length_cons] at length
      have none : others = [] := List.length_eq_zero_iff.1 (by omega)
      exact ⟨value, by rw [none]⟩

/-- Naive propagation of a coherent board comes to an end. -/
theorem Coherent.exists_naiveRun (coherent : Coherent layout given board) :
    ∃ count last, NaiveRun board count last ∧ last.Ended := by
  generalize count : board.openCount = openCells
  induction openCells using Nat.strongRecOn generalizing board with
  | _ openCells inductionHypothesis =>
      by_cases ended : board.Ended
      · exact ⟨0, board, .rest board, ended⟩
      simp only [Ended, AtRest, not_or, not_forall, not_exists, Nat.not_le] at ended
      obtain ⟨⟨cell, inside, isOpen, few⟩, alive⟩ := ended
      rw [coherent.layout_eq] at inside
      obtain ⟨value, single⟩ := coherent.exists_single inside isOpen few (alive cell)
      have candidate := (CandidateSet.contains_iff_of_toList_eq_singleton single _).2 rfl
      obtain ⟨next, signals, success, committed⟩ := coherent.exists_commit inside candidate
      have closed := openCount_commit success
      obtain ⟨more, last, run, ended⟩ :=
        inductionHypothesis next.openCount (by omega) committed.coherent rfl
      exact ⟨more + 1, last, .force alive single success run, ended⟩

/-! ### Boards within a board -/

/-- One board holds all that another one does. -/
def Within (board rest : Board alphabet) : Prop :=
  ∀ cell value, board.assignedAt cell = some value → rest.assignedAt cell = some value

/-- Forced commits take nothing back. -/
theorem ForcedRun.within (coherent : Coherent layout given board) {count : Nat}
    (run : ForcedRun board count last) : Within board last :=
  fun _ _ => coherent.assignedAt_of_descends run.descends

namespace Within

variable (within : Within board rest) (coherent : Coherent layout given board)
  (restCoherent : Coherent layout given rest)

include within

/-- Values that no peer holds in the larger board are held by none in the smaller one. -/
theorem avoids {cells : List Nat}
    (avoided : ∀ peer ∈ cells, rest.assignedAt peer ≠ some value) :
    ∀ peer ∈ cells, board.assignedAt peer ≠ some value :=
  fun peer member isAssigned => avoided peer member (within peer value isAssigned)

include coherent restCoherent

/-- What an open cell holds in the larger board is one of its candidates. -/
theorem candidate_of_assigned (isOpen : board.assignedAt cell = none)
    (isAssigned : rest.assignedAt cell = some value) :
    (board.candidatesAt cell).contains value = true := by
  rw [coherent.candidates cell (restCoherent.lt_of_assignedAt isAssigned)]
  refine ⟨isOpen, restCoherent.assigned_lt cell value isAssigned, within.avoids ?_⟩
  intro peer member
  exact restCoherent.distinct cell peer member value isAssigned

/-- What is a candidate in the larger board is one in the smaller one. -/
theorem candidate_of_candidate (inside : cell < layout.cellCount)
    (candidate : (rest.candidatesAt cell).contains value = true) :
    (board.candidatesAt cell).contains value = true := by
  obtain ⟨isOpen, inDomain, avoided⟩ := (restCoherent.candidates cell inside value).1 candidate
  rw [coherent.candidates cell inside]
  refine ⟨?_, inDomain, within.avoids avoided⟩
  by_contra isAssigned
  obtain ⟨held, isAssigned⟩ := Option.ne_none_iff_exists'.1 isAssigned
  rw [within cell held isAssigned] at isOpen
  simp at isOpen

variable (atRest : rest.AtRest)

include atRest

/-- A board at rest holds the single candidates of the boards within it. -/
theorem assigned_of_single (inside : cell < layout.cellCount)
    (isOpen : board.assignedAt cell = none)
    (single : (board.candidatesAt cell).toList = [value]) :
    rest.assignedAt cell = some value := by
  have isSingle := CandidateSet.contains_iff_of_toList_eq_singleton single
  cases held : rest.assignedAt cell with
  | some index =>
      have candidate := within.candidate_of_assigned coherent restCoherent isOpen held
      rw [(isSingle index).1 candidate]
  | none =>
      -- At rest the open cell has two candidates, but each of them is the single one.
      have many := atRest cell (by rw [restCoherent.layout_eq]; exact inside) held
      rw [CandidateSet.size_eq_length_toList] at many
      have allSame : ∀ index ∈ (rest.candidatesAt cell).toList, index = value := by
        intro index member
        rw [CandidateSet.mem_toList] at member
        exact (isSingle index).1
          (within.candidate_of_candidate coherent restCoherent inside member)
      have distinct := (rest.candidatesAt cell).nodup_toList
      rw [List.eq_replicate_iff.2 ⟨rfl, allSame⟩, List.nodup_replicate] at distinct
      omega

/-- A board within one at rest has no dead cell. -/
theorem not_dead (cell : Nat) : ¬board.Dead cell := by
  intro dead
  have inside := dead.inside
  rw [coherent.layout_eq] at inside
  have lacks (index : Nat) : ¬(board.candidatesAt cell).contains index = true := by
    rw [dead.noCandidate]
    simp
  cases held : rest.assignedAt cell with
  | some index =>
      exact lacks index (within.candidate_of_assigned coherent restCoherent dead.isOpen held)
  | none =>
      apply atRest.not_dead cell
      refine ⟨by rw [restCoherent.layout_eq]; exact inside, held, fun index => ?_⟩
      rw [← Bool.not_eq_true]
      exact fun candidate => lacks index
        (within.candidate_of_candidate coherent restCoherent inside candidate)

/-- The commit of a single candidate stays within a board at rest. -/
theorem commit (single : (board.candidatesAt cell).toList = [value])
    (committed : Committed layout given board cell value next signals) :
    Within next rest := by
  have isOpen := committed.isOpen coherent
  intro other index isAssigned
  rw [committed.assignedAt coherent] at isAssigned
  split at isAssigned
  · next same =>
      rw [same, ← isAssigned]
      exact within.assigned_of_single coherent restCoherent atRest committed.inside isOpen
        single
  · exact within other index isAssigned

end Within

/-- Forced commits stay within every board at rest that they begin within. -/
theorem Within.forcedRun (within : Within board rest) (coherent : Coherent layout given board)
    (restCoherent : Coherent layout given rest) (atRest : rest.AtRest) {count : Nat}
    (run : ForcedRun board count last) : Within last rest := by
  induction run with
  | rest board => exact within
  | force single success _ inductionHypothesis =>
      have committed := coherent.committed success
      exact inductionHypothesis (within.commit coherent restCoherent atRest single committed)
        committed.coherent

/-- Boards that lie within each other differ in their trails only. -/
theorem Within.eq_withTrail (within : Within board rest) (contains : Within rest board)
    (coherent : Coherent layout given board) (restCoherent : Coherent layout given rest) :
    board = { rest with trail := board.trail } := by
  apply coherent.eq_of_assignedAt_eq (restCoherent.withTrail board.trail) _ rfl
  intro cell
  exact Option.ext fun value => ⟨within cell value, contains cell value⟩

/-- Forced commits that come to rest do so with the same values and after as many commits,
in whatever order they are made. -/
theorem ForcedRun.eq_of_atRest (coherent : Coherent layout given board) {count more : Nat}
    (run : ForcedRun board count last) (atRest : last.AtRest)
    (other : ForcedRun board more rest) (otherAtRest : rest.AtRest) :
    count = more ∧ last = { rest with trail := last.trail } := by
  have lastCoherent := coherent.of_descends run.descends
  have restCoherent := coherent.of_descends other.descends
  have within := (other.within coherent).forcedRun coherent restCoherent otherAtRest run
  have contains := (run.within coherent).forcedRun coherent lastCoherent atRest other
  have same := within.eq_withTrail contains lastCoherent restCoherent
  have counts : last.openCount = rest.openCount := by
    rw [same]
    rfl
  have closed := run.openCount_eq
  have otherClosed := other.openCount_eq
  exact ⟨by omega, same⟩

/-- Naive propagation that ended did so at rest, if any forced commits come to rest. -/
theorem NaiveRun.atRest_of_ended (coherent : Coherent layout given board) {count more : Nat}
    (run : NaiveRun board count last) (ended : last.Ended) (other : ForcedRun board more rest)
    (otherAtRest : rest.AtRest) : last.AtRest := by
  refine ended.resolve_right ?_
  rintro ⟨cell, dead⟩
  have restCoherent := coherent.of_descends other.descends
  have within :=
    (other.within coherent).forcedRun coherent restCoherent otherAtRest run.forcedRun
  exact within.not_dead (coherent.of_descends run.forcedRun.descends) restCoherent otherAtRest
    cell dead

/-- Rest in one order would keep propagation from its contradiction. -/
theorem Halts.not_atRest (coherent : Coherent layout given board) {forced count : Nat}
    (halts : Halts layout given board last forced cell) (run : ForcedRun board count rest) :
    ¬rest.AtRest := by
  intro atRest
  have restCoherent := coherent.of_descends run.descends
  have within := (run.within coherent).forcedRun coherent restCoherent atRest halts.run
  exact within.not_dead halts.coherent restCoherent atRest cell halts.dead

/-! ### Propagation in any order -/

/-- Propagation of a board that calls led to does what naive propagation does. That comes to
an end from wherever its commits have led. Propagation comes to rest if naive propagation
does in some order, and just then naive propagation does in every order. Then propagation
itself is one of these orders, and all of them end after as many commits on one board, but
for the trail. If propagation ends at a contradiction, so does naive propagation in every
order. -/
theorem propagate_confluent (divided : Layout.ofGrid shaped = .ok layout)
    (built : given.Built) (made : ofGrid layout given = .ok first) (calls : List Call)
    (followed : first.follow calls = board) :
    (∀ count last, NaiveRun board count last →
      ∃ more final, NaiveRun last more final ∧ final.Ended) ∧
    ((∃ last forced, board.propagate = .ok (last, .fixpoint forced)) ↔
      ∃ count last, NaiveRun board count last ∧ last.AtRest) ∧
    ((∃ last forced, board.propagate = .ok (last, .fixpoint forced)) ↔
      ∀ count last, NaiveRun board count last → last.Ended → last.AtRest) ∧
    (∀ last forced, board.propagate = .ok (last, .fixpoint forced) →
      NaiveRun board forced last ∧
      ∀ count final, NaiveRun board count final → final.Ended →
        count = forced ∧ final = { last with trail := final.trail }) ∧
    ∀ last cell, board.propagate = .ok (last, .contradiction cell) →
      ∀ count final, NaiveRun board count final → final.Ended → ∃ dead, final.Dead dead := by
  have coherent : Coherent layout given board := by
    rw [← followed]
    exact (tracked_follow divided built made calls).2.coherent
  have goesOn (count : Nat) (last : Board alphabet) (run : NaiveRun board count last) :
      ∃ more final, NaiveRun last more final ∧ final.Ended :=
    (coherent.of_descends run.forcedRun.descends).exists_naiveRun
  refine ⟨goesOn, ?_⟩
  rcases coherent.rests_or_halts with ⟨rest, forced, rests⟩ | ⟨dead, forced, cell, halts⟩
  · -- Naive propagation that ended is at rest, since propagation is.
    have restsToo (count : Nat) (final : Board alphabet) (run : NaiveRun board count final)
        (ended : final.Ended) : final.AtRest :=
      run.atRest_of_ended coherent ended rests.run rests.atRest
    have naive := rests.run.naiveRun coherent rests.atRest
    refine ⟨iff_of_true ⟨rest, forced, rests.propagated⟩ ⟨forced, rest, naive, rests.atRest⟩,
      iff_of_true ⟨rest, forced, rests.propagated⟩ restsToo, ?_, ?_⟩
    · intro last count propagated
      rw [rests.propagated, Except.ok.injEq, Prod.mk.injEq, Propagation.fixpoint.injEq]
        at propagated
      obtain ⟨rfl, rfl⟩ := propagated
      exact ⟨naive, fun count final run ended =>
        run.forcedRun.eq_of_atRest coherent (restsToo count final run ended) rests.run
          rests.atRest⟩
    · intro last cell propagated
      rw [rests.propagated] at propagated
      simp at propagated
  · have neverRests : ¬∃ last forced, board.propagate = .ok (last, .fixpoint forced) := by
      rintro ⟨last, count, propagated⟩
      rw [halts.propagated] at propagated
      simp at propagated
    have notAtRest (count : Nat) (final : Board alphabet) (run : NaiveRun board count final) :
        ¬final.AtRest := halts.not_atRest coherent run.forcedRun
    refine ⟨iff_of_false neverRests ?_, iff_of_false neverRests ?_, ?_, ?_⟩
    · rintro ⟨count, final, run, atRest⟩
      exact notAtRest count final run atRest
    · intro always
      obtain ⟨count, final, run, ended⟩ := goesOn 0 board (.rest board)
      exact notAtRest count final run (always count final run ended)
    · intro last count propagated
      exact absurd ⟨last, count, propagated⟩ neverRests
    · intro last dead propagated count final run ended
      exact ended.resolve_left (notAtRest count final run)

/-- With one cell of the band filled in, naive propagation commits the other three in every
order. -/
theorem propagate_confluent_openBand :
    ∃ last final,
      ((initial bandLayout Grid.openBand).follow [.commit 0 0]).propagate =
        .ok (last, .fixpoint 3) ∧
      NaiveRun ((initial bandLayout Grid.openBand).follow [.commit 0 0]) 3 final ∧
      final = { last with trail := final.trail } := by
  have outcome : ((initial bandLayout Grid.openBand).follow
      [.commit 0 0]).propagate.map Prod.snd = .ok (.fixpoint 3) := by
    decide +kernel
  obtain ⟨goesOn, _, _, agrees, _⟩ := propagate_confluent layout_openBand
    Grid.built_openBand ofGrid_openBand [.commit 0 0] rfl
  cases propagated : ((initial bandLayout Grid.openBand).follow
      [.commit 0 0]).propagate with
  | error error => simp [propagated, Except.map] at outcome
  | ok result =>
      obtain ⟨last, ended⟩ := result
      simp only [propagated, Except.map, Except.ok.injEq] at outcome
      subst outcome
      obtain ⟨count, final, run, ended⟩ := goesOn 0 _ (.rest _)
      obtain ⟨rfl, same⟩ := (agrees last 3 propagated).2 count final run ended
      exact ⟨last, final, rfl, run, same⟩

end Board
end Sudoku
