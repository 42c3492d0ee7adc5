import Sudoku.Proofs.Search.Cancellation

/-!
# Moves of a search

Every step of a sound search is one of a few moves: it branches on a cell, accepts a
solution, tries the first option of its innermost choice point, gives that choice point
up, comes to its end, or is abandoned. A move says from which state it starts, what it
does on the board and what it leads to, so that what steps preserve can be told move by
move.
-/

namespace Sudoku
namespace Search

variable {alphabet : Alphabet} {layout : Layout} {given : Grid alphabet}
  {initial base board : Board alphabet} {search next : Search alphabet} {goal : Goal}
  {point : ChoicePoint} {outer : List ChoicePoint} {tried : List Nat} {value : Nat}
  {options : CandidateSet} {signals : List Signal}

open Board

/-- A search that has accepted its working grid as a solution. -/
def accepted (search : Search alphabet) (goal : Goal) : Search alphabet :=
  { search with
    solutions := search.board.grid :: search.solutions
    phase := if goal.wanted ≤ search.solutions.length + 1 then .solved else .trying }

/-- A search that goes on trying on a board with a dead cell. -/
def halted (search : Search alphabet) (board : Board alphabet) : Search alphabet :=
  { search with board, phase := .trying }

/-- A search can go back to the board on which its innermost choice point was opened. -/
structure Returns (layout : Layout) (given : Grid alphabet) (search : Search alphabet)
    (base : Board alphabet) (point : ChoicePoint) (outer : List ChoicePoint)
    (tried : List Nat) : Prop where
  trying : search.phase = .trying
  choices : search.choices = point :: outer
  coherent : Coherent layout given base
  opened : Opened base point tried
  descends : Descends base search.board

/-- A search goes back to its innermost choice point and commits the first option that is
left there. -/
structure Tries (layout : Layout) (given : Grid alphabet) (search : Search alphabet)
    (base : Board alphabet) (point : ChoicePoint) (outer : List ChoicePoint)
    (tried : List Nat) (value : Nat) (options : CandidateSet) (board : Board alphabet)
    (signals : List Signal) : Prop
    extends Returns layout given search base point outer tried where
  popped : point.options.popFirst? = some (value, options)
  listed : point.options.toList = value :: options.toList
  success : base.commit point.cell value = .ok (board, signals)

/-- What becomes of a search that has committed an option: the commit itself reports a
dead cell, or else propagation ends at one or comes to rest. -/
inductive Aftermath (layout : Layout) (given : Grid alphabet) (signals : List Signal)
    (search : Search alphabet) : Search alphabet → Prop
  | refuted (reported : (signals.findSome? Signal.dead?).isSome = true) :
      Aftermath layout given signals search search
  | halted {last : Board alphabet} {forced cell : Nat}
      (unreported : (signals.findSome? Signal.dead?).isSome = false)
      (halts : Halts layout given search.board last forced cell) :
      Aftermath layout given signals search (search.halted last)
  | rested {last : Board alphabet} {forced : Nat}
      (unreported : (signals.findSome? Signal.dead?).isSome = false)
      (rests : Rests layout given search.board last forced) :
      Aftermath layout given signals search (search.rested last forced)

/-- What a step makes of a search, with its token cancelled or not. -/
inductive Move (layout : Layout) (given : Grid alphabet) (initial : Board alphabet)
    (goal : Goal) (search : Search alphabet) : Bool → Search alphabet → Prop
  | branch {isCancelled : Bool} {cell : Nat} (choosing : search.phase = .choosing)
      (atRest : search.board.AtRest) (chosen : search.board.fewest? = some cell) :
      Move layout given initial goal search isCancelled (search.branchOn cell)
  | accept {isCancelled : Bool} (choosing : search.phase = .choosing)
      (full : search.board.fewest? = none) :
      Move layout given initial goal search isCancelled (search.accepted goal)
  | exhaust (trying : search.phase = .trying) (choices : search.choices = []) :
      Move layout given initial goal search false search.exhaust
  | giveUp {base : Board alphabet} {point : ChoicePoint} {outer : List ChoicePoint}
      {tried : List Nat} (returns : Returns layout given search base point outer tried)
      (popped : point.options.popFirst? = none) :
      Move layout given initial goal search false (search.backtrack base outer)
  | attempt {base board : Board alphabet} {point : ChoicePoint} {outer : List ChoicePoint}
      {tried : List Nat} {value : Nat} {options : CandidateSet} {signals : List Signal}
      {next : Search alphabet}
      (tries : Tries layout given search base point outer tried value options board signals)
      (aftermath : Aftermath layout given signals
        (search.advanced board { point with options } outer) next) :
      Move layout given initial goal search false next
  | abandon (trying : search.phase = .trying)
      (rolledBack : search.board.rollback 0 = .ok initial) :
      Move layout given initial goal search true (search.withdrawn initial)
  | stay {isCancelled : Bool} (final : search.phase.isFinal = true) :
      Move layout given initial goal search isCancelled search

/-- Rolling back to the mark of the innermost choice point restores its board. -/
theorem Returns.rolledBack (returns : Returns layout given search base point outer tried) :
    search.board.rollback point.mark = .ok base :=
  rollback_of_descends returns.coherent returns.descends returns.opened.mark_eq

namespace Tries

/-- What the commit of an option does. -/
theorem committed
    (tries : Tries layout given search base point outer tried value options board signals) :
    Committed layout given base point.cell value board signals :=
  tries.coherent.committed tries.success

/-- The choice point is left with the other options. -/
theorem take
    (tries : Tries layout given search base point outer tried value options board signals) :
    Opened base { point with options } (tried ++ [value]) :=
  tries.opened.take tries.listed rfl

/-- The commit of an option is the first entry of the trail after the mark. -/
theorem mark_eq
    (tries : Tries layout given search base point outer tried value options board signals) :
    board.mark = point.mark + 1 := by
  rw [tries.opened.mark_eq, mark, tries.committed.trail]
  rfl

/-- Trying an option is a move. -/
theorem move
    (tries : Tries layout given search base point outer tried value options board signals)
    (moved : search.tryNext = .ok next) :
    Move layout given initial goal search false next := by
  apply Move.attempt tries
  rw [tryNext_of_option tries.coherent tries.descends tries.opened.mark_eq tries.choices
    tries.popped tries.success] at moved
  cases reported : (signals.findSome? Signal.dead?).isSome with
  | true =>
      rw [reported, if_pos rfl, Except.ok.injEq] at moved
      rw [← moved]
      exact .refuted reported
  | false =>
      rw [reported, if_neg Bool.false_ne_true] at moved
      rcases tries.committed.coherent.rests_or_halts with
        ⟨last, forced, rests⟩ | ⟨last, forced, cell, halts⟩
      · rw [propagate_of_rests _ rests, Except.ok.injEq] at moved
        rw [← moved]
        exact .rested reported rests
      · rw [propagate_of_halts _ halts, Except.ok.injEq] at moved
        rw [← moved]
        exact .halted reported halts

end Tries

namespace Sound

/-- Choosing is a move. -/
theorem move_of_choose (sound : Sound initial search)
    (coherent : Coherent layout given search.board) (choosing : search.phase = .choosing)
    (isCancelled : Bool) (chosen : search.choose goal = .ok next) :
    Move layout given initial goal search isCancelled next := by
  have atRest := sound.atRest choosing
  cases selected : search.board.fewest? with
  | none =>
      rw [search.choose_of_full coherent atRest selected, Except.ok.injEq] at chosen
      rw [← chosen]
      exact .accept choosing selected
  | some cell =>
      rw [search.choose_of_chosen atRest selected, Except.ok.injEq] at chosen
      rw [← chosen]
      exact .branch choosing atRest selected

/-- A try is a move. -/
theorem move_of_tryNext (sound : Sound initial search)
    (coherent : Coherent layout given initial) (trying : search.phase = .trying)
    (moved : search.tryNext = .ok next) :
    Move layout given initial goal search false next := by
  have stacked := sound.stacked
  cases choices : search.choices with
  | nil =>
      rw [tryNext, choices, Except.ok.injEq] at moved
      rw [← moved]
      exact .exhaust trying choices
  | cons point outer =>
      rw [choices] at stacked
      cases stacked with
      | @push base _ _ _ tried below taken opened descends =>
          have baseCoherent := coherent.of_descends below.descends
          have returns : Returns layout given search base point outer tried :=
            ⟨trying, choices, baseCoherent, opened, descends⟩
          cases listed : point.options.toList with
          | nil =>
              rw [tryNext_of_exhausted baseCoherent descends opened.mark_eq choices listed,
                Except.ok.injEq] at moved
              rw [← moved]
              exact .giveUp returns ((CandidateSet.popFirst?_eq_none_iff _).2 listed)
          | cons value values =>
              obtain ⟨options, popped, rfl⟩ := CandidateSet.exists_popFirst? listed
              obtain ⟨board, signals, success, _⟩ := opened.exists_commit baseCoherent listed
              have tries : Tries layout given search base point outer tried value options
                  board signals :=
                ⟨returns, popped, listed, success⟩
              exact tries.move moved

/-- Every step of a sound search is a move. -/
theorem move_of_step (sound : Sound initial search)
    (coherent : Coherent layout given initial) (fresh : initial.mark = 0)
    {isCancelled : Bool} (stepped : search.step goal isCancelled = .ok next) :
    Move layout given initial goal search isCancelled next := by
  have descends := sound.stacked.descends
  cases phase : search.phase with
  | choosing =>
      rw [step, phase] at stepped
      exact sound.move_of_choose (coherent.of_descends descends) phase isCancelled stepped
  | trying =>
      cases isCancelled with
      | false =>
          rw [step, phase] at stepped
          exact sound.move_of_tryNext coherent phase stepped
      | true =>
          rw [sound.step_of_cancelled coherent fresh phase, Except.ok.injEq] at stepped
          have rolledBack := rollback_mark_of_descends coherent descends
          rw [fresh] at rolledBack
          rw [← stepped]
          exact .abandon phase rolledBack
  | solved | unsatisfiable | cancelled =>
      rw [step, phase, Except.ok.injEq] at stepped
      rw [← stepped]
      exact .stay (by rw [phase]; rfl)

end Sound
end Search
end Sudoku
