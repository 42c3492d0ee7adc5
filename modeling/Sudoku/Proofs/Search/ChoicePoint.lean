import Sudoku.Proofs.Board.Confluence
import Sudoku.Proofs.Search.Bounds
import Sudoku.Proofs.Search.Statistics

/-!
# The past of choice points

A choice point keeps the options that it has left and a mark, but not the board that it was
opened on, nor the options that it has tried. Both can be read off the steps of a run. Then
the stack can be compared with its past: the mark of a choice point leads back to its board
at any later time, and its options are those candidates of that board that it has not tried
yet, all of them above the tried ones. Only the innermost choice point may be without a
value, so the options are still good to commit after any search below them.
-/

namespace Sudoku
namespace Search

variable {alphabet : Alphabet} {layout : Layout} {given : Grid alphabet}
  {initial base board next : Board alphabet} {search : Search alphabet} {goal : Goal}
  {isCancelled : Nat → Bool} {point : ChoicePoint} {choices outer : List ChoicePoint}

open Board

/-- Where a choice point comes from: the board that it was opened on, and the options that
it has tried since, the first of them first. -/
structure Past (alphabet : Alphabet) where
  base : Board alphabet
  tried : List Nat

variable {past : Past alphabet} {pasts : List (Past alphabet)}

/-! ### The pasts of a run -/

/-- The pasts after a try. The innermost choice point has tried its next option, or was
given up if it had none left. -/
def tryPasts (search : Search alphabet) (pasts : List (Past alphabet)) :
    List (Past alphabet) :=
  match search.choices, pasts with
  | point :: _, past :: outer =>
      match point.options.popFirst? with
      | none => outer
      | some (value, _) => { past with tried := past.tried ++ [value] } :: outer
  | _, _ => pasts

/-- The pasts after a step. Choosing a cell opens a choice point on the present board, and
abandoning a search drops all choice points. -/
def stepPasts (isCancelled : Bool) (search : Search alphabet) (pasts : List (Past alphabet)) :
    List (Past alphabet) :=
  match search.phase with
  | .choosing =>
      if search.board.selectCell?.isSome then ⟨search.board, []⟩ :: pasts else pasts
  | .trying => if isCancelled then [] else search.tryPasts pasts
  | .solved | .unsatisfiable | .cancelled => pasts

/-- A run on a board has come to a search in so many steps, under a token that may be
cancelled at any of them, and the choice points of the search have these pasts. -/
inductive Recalls (goal : Goal) (isCancelled : Nat → Bool) (initial : Board alphabet) :
    Nat → List (Past alphabet) → Search alphabet → Prop
  | start {first : Search alphabet} (started : start initial = .ok first) :
      Recalls goal isCancelled initial 0 [] first
  | step {search next : Search alphabet} {count : Nat} {pasts : List (Past alphabet)}
      (recalls : Recalls goal isCancelled initial count pasts search)
      (active : search.phase.isFinal = false)
      (stepped : search.step goal (isCancelled count) = .ok next) :
      Recalls goal isCancelled initial (count + 1)
        (search.stepPasts (isCancelled count) pasts) next

/-- Every search that a run reaches has choice points with a past. -/
theorem Reaches.exists_recalls {first : Search alphabet} {count : Nat}
    (reaches : Reaches goal isCancelled first count search)
    (started : Search.start initial = .ok first) :
    ∃ pasts, Recalls goal isCancelled initial count pasts search := by
  induction reaches with
  | start => exact ⟨_, .start started⟩
  | step _ active stepped inductionHypothesis =>
      obtain ⟨pasts, recalls⟩ := inductionHypothesis
      exact ⟨_, recalls.step active stepped⟩

/-! ### Choice points and their pasts -/

/-- A choice point was opened on the board of its past, and the present board descends from
that board. -/
structure Founded (layout : Layout) (given : Grid alphabet) (board : Board alphabet)
    (point : ChoicePoint) (past : Past alphabet) : Prop where
  coherent : Coherent layout given past.base
  opened : Opened past.base point past.tried
  descends : Descends past.base board

/-- The choice points of a search on a board have these pasts, each opened on a descendant
of the board before it. -/
inductive Layered (layout : Layout) (given : Grid alphabet) :
    List ChoicePoint → List (Past alphabet) → Board alphabet → Prop
  | root {board : Board alphabet} : Layered layout given [] [] board
  | push {board : Board alphabet} {point : ChoicePoint} {past : Past alphabet}
      {outer : List ChoicePoint} {pasts : List (Past alphabet)}
      (below : Layered layout given outer pasts past.base)
      (founded : Founded layout given board point past) :
      Layered layout given (point :: outer) (past :: pasts) board

/-- The mark of a choice point leads back to the board that it was opened on, where its cell
is open and has the tried options and those left as its candidates. Each option that is left
comes after the tried ones, and can be committed to that board. -/
structure Restorable (board : Board alphabet) (point : ChoicePoint) (past : Past alphabet) :
    Prop where
  restored : board.rollback point.mark = .ok past.base
  inside : point.cell < past.base.layout.cellCount
  isOpen : past.base.assignedAt point.cell = none
  candidates : (past.base.candidatesAt point.cell).toList = past.tried ++ point.options.toList
  candidate : ∀ option ∈ point.options.toList,
    (past.base.candidatesAt point.cell).contains option = true
  ascending : ∀ tried ∈ past.tried, ∀ option ∈ point.options.toList, tried < option
  commits : ∀ option ∈ point.options.toList,
    ∃ next signals, past.base.commit point.cell option = .ok (next, signals)

/-- The cell of a choice point holds an option that was tried. -/
def Holds (board : Board alphabet) (point : ChoicePoint) (past : Past alphabet) : Prop :=
  ∃ value ∈ past.tried, board.assignedAt point.cell = some value

/-- The choice points of a search are in order: their marks do not decrease inwards and are
no later than the present, each of them can be restored, and all but the innermost one hold
an option that they have tried. -/
structure Orderly (search : Search alphabet) (pasts : List (Past alphabet)) : Prop where
  marks : search.choices.Pairwise fun inner outer => outer.mark ≤ inner.mark
  present : ∀ point ∈ search.choices, point.mark ≤ search.board.mark
  restorable : List.Forall₂ (Restorable search.board) search.choices pasts
  holds : List.Forall₂ (Holds search.board) search.choices.tail pasts.tail

namespace Founded

/-- Commits leave the past of a choice point alone. -/
theorem of_descends (founded : Founded layout given board point past)
    (descends : Descends board next) : Founded layout given next point past :=
  ⟨founded.coherent, founded.opened, founded.descends.trans descends⟩

/-- The mark of a choice point is no later than the present. -/
theorem mark_le (founded : Founded layout given board point past) :
    point.mark ≤ board.mark := by
  rw [founded.opened.mark_eq]
  exact mark_le_of_descends founded.coherent founded.descends

/-- Rolling back to the mark of a choice point gives the board of its past. -/
theorem restored (founded : Founded layout given board point past) :
    board.rollback point.mark = .ok past.base := by
  rw [founded.opened.mark_eq, rollback_mark_of_descends founded.coherent founded.descends]

/-- A choice point that was opened on a board can be restored. -/
theorem restorable (founded : Founded layout given board point past) :
    Restorable board point past := by
  obtain ⟨inside, isOpen⟩ := mem_openCells_of_fewest? founded.opened.chosen
  have candidates := founded.opened.candidates
  have candidate (option : Nat) (left : option ∈ point.options.toList) :
      (past.base.candidatesAt point.cell).contains option = true := by
    rw [← CandidateSet.mem_toList, candidates]
    exact List.mem_append_right _ left
  have ascending := (past.base.candidatesAt point.cell).pairwise_toList
  rw [candidates] at ascending
  refine ⟨founded.restored, inside, isOpen, candidates, candidate,
    (List.pairwise_append.1 ascending).2.2, fun option left => ?_⟩
  rw [founded.coherent.layout_eq] at inside
  obtain ⟨next, signals, success, _⟩ :=
    founded.coherent.exists_commit inside (candidate option left)
  exact ⟨next, signals, success⟩

/-- An option that a choice point holds and does not have left is one that it has tried,
since it must have been a candidate when the choice point was opened. -/
theorem holds (founded : Founded layout given board point past) (taken : Taken board point) :
    Holds board point past := by
  obtain ⟨value, isAssigned, notLeft⟩ := taken
  obtain ⟨_, isOpen⟩ := mem_openCells_of_fewest? founded.opened.chosen
  have within : Within past.base board :=
    fun _ _ => founded.coherent.assignedAt_of_descends founded.descends
  have candidate := within.candidate_of_assigned founded.coherent
    (founded.coherent.of_descends founded.descends) isOpen isAssigned
  rw [← CandidateSet.mem_toList, founded.opened.candidates, List.mem_append] at candidate
  exact ⟨value, candidate.resolve_right notLeft, isAssigned⟩

end Founded

namespace Layered

/-- Every choice point was opened on the board of its past. -/
theorem founded (layered : Layered layout given choices pasts board) :
    List.Forall₂ (Founded layout given board) choices pasts := by
  induction layered with
  | root => exact .nil
  | push _ founded inductionHypothesis =>
      refine .cons founded (inductionHypothesis.imp ?_)
      exact fun _ _ earlier => earlier.of_descends founded.descends

/-- No mark is later than the present. -/
theorem mark_le (layered : Layered layout given choices pasts board) :
    ∀ point ∈ choices, point.mark ≤ board.mark := by
  induction layered with
  | root => exact List.forall_mem_nil _
  | push _ founded inductionHypothesis =>
      refine List.forall_mem_cons.2 ⟨founded.mark_le, fun earlier member => ?_⟩
      exact Nat.le_trans (inductionHypothesis earlier member)
        (mark_le_of_descends founded.coherent founded.descends)

/-- The marks do not decrease inwards. -/
theorem pairwise_marks (layered : Layered layout given choices pasts board) :
    choices.Pairwise fun inner outer => outer.mark ≤ inner.mark := by
  induction layered with
  | root => exact .nil
  | push below founded inductionHypothesis =>
      refine .cons (fun earlier member => ?_) inductionHypothesis
      rw [founded.opened.mark_eq]
      exact below.mark_le earlier member

end Layered

/-- All but the innermost choice point have taken an option. -/
theorem Stacked.taken_of_mem (stacked : Stacked initial (point :: outer) board)
    (coherent : Coherent layout given initial) :
    ∀ earlier ∈ outer, Taken board earlier := by
  cases stacked with
  | push _ below taken _ descends =>
      intro earlier member
      exact (taken earlier member).of_descends (coherent.of_descends below.descends) descends

/-- A sound search has its choice points in order. -/
theorem Layered.orderly (layered : Layered layout given search.choices pasts search.board)
    (coherent : Coherent layout given initial) (sound : Sound initial search) :
    Orderly search pasts := by
  have founded := layered.founded
  refine ⟨layered.pairwise_marks, layered.mark_le,
    founded.imp fun _ _ earlier => earlier.restorable, ?_⟩
  have stacked := sound.stacked
  cases choices : search.choices with
  | nil =>
      rw [choices] at founded
      cases founded
      exact .nil
  | cons point outer =>
      rw [choices] at founded stacked
      obtain ⟨_, _, _, below, rfl⟩ := List.forall₂_cons_left_iff.1 founded
      exact ((List.forall₂_and_left _ _).2 ⟨stacked.taken_of_mem coherent, below⟩).imp
        fun _ _ both => both.2.holds both.1

/-! ### Steps -/

/-- Going back to the innermost choice point restores the board of its past. -/
theorem Returns.base_eq {tried : List Nat}
    (returns : Returns layout given search base point outer tried)
    (founded : Founded layout given search.board point past) : base = past.base :=
  Except.ok.inj (returns.rolledBack.symm.trans founded.restored)

/-- What becomes of a search after a commit is on a board that descends from it. -/
theorem Aftermath.descends {signals : List Signal} {last : Search alphabet}
    (aftermath : Aftermath layout given signals search last) :
    Descends search.board last.board := by
  cases aftermath with
  | refuted => exact .refl
  | halted _ halts => exact halts.run.descends
  | rested _ rests => exact rests.run.descends

/-- A move leads to choice points with the pasts after it. -/
theorem Layered.of_move {raised : Bool} {last : Search alphabet}
    (layered : Layered layout given search.choices pasts search.board)
    (coherent : Coherent layout given search.board) (sound : Sound initial search)
    (move : Move layout given initial goal search raised last) :
    Layered layout given last.choices (search.stepPasts raised pasts) last.board := by
  cases move with
  | branch choosing atRest chosen =>
      have selected : search.board.selectCell?.isSome = true := by
        rw [selectCell?_eq_fewest? atRest, chosen]
        rfl
      rw [stepPasts, choosing]
      simp only [selected, if_true]
      exact .push layered ⟨coherent, ⟨rfl, atRest, chosen, rfl⟩, .refl⟩
  | accept choosing full =>
      have unselected : search.board.selectCell?.isSome = false := by
        rw [selectCell?_eq_fewest? (sound.atRest choosing), full]
        rfl
      rw [stepPasts, choosing]
      simp only [unselected, Bool.false_eq_true, if_false]
      exact layered
  | exhaust trying choices =>
      simp only [stepPasts, trying, tryPasts, choices, Bool.false_eq_true, if_false]
      exact layered
  | giveUp returns popped =>
      rw [returns.choices] at layered
      cases layered with
      | push below founded =>
          simp only [stepPasts, returns.trying, tryPasts, returns.choices, popped,
            Bool.false_eq_true, if_false]
          -- The search is back on the board of this choice point, where the outer ones stand.
          rw [returns.base_eq founded]
          exact below
  | attempt tries aftermath =>
      rw [tries.choices] at layered
      cases layered with
      | push below founded =>
          simp only [stepPasts, tries.trying, tryPasts, tries.choices, tries.popped,
            Bool.false_eq_true, if_false]
          have success := tries.success
          rw [tries.base_eq founded] at success
          rw [aftermath.choices_eq]
          refine .push below ⟨founded.coherent, founded.opened.take tries.listed rfl, ?_⟩
          exact .head ⟨_, _, _, success⟩ aftermath.descends
  | abandon trying rolledBack =>
      rw [stepPasts, trying]
      exact .root
  | stay final =>
      cases phase : search.phase with
      | choosing | trying => simp [phase, Phase.isFinal] at final
      | solved | unsatisfiable | cancelled =>
          rw [stepPasts, phase]
          exact layered

/-! ### Runs -/

/-- A search starts without choice points. -/
theorem choices_of_start (coherent : Coherent layout given initial)
    (started : start initial = .ok search) : search.choices = [] := by
  rcases coherent.rests_or_halts with ⟨last, forced, rests⟩ | ⟨last, forced, cell, halts⟩
  · rw [start_of_rests rests, Except.ok.injEq] at started
    rw [← started]
    rfl
  · rw [start_of_halts halts, Except.ok.injEq] at started
    rw [← started]

namespace Recalls

variable {count : Nat}

/-- What a run leads to is sound, and its choice points have the pasts of the run. -/
theorem sound_and_layered (recalls : Recalls goal isCancelled initial count pasts search)
    (coherent : Coherent layout given initial) (fresh : initial.mark = 0) :
    Sound initial search ∧ Layered layout given search.choices pasts search.board := by
  induction recalls with
  | start started =>
      rw [choices_of_start coherent started]
      exact ⟨.of_start coherent started, .root⟩
  | step _ _ stepped inductionHypothesis =>
      obtain ⟨sound, layered⟩ := inductionHypothesis
      have move := sound.move_of_step coherent fresh stepped
      exact ⟨sound.of_step coherent fresh stepped,
        layered.of_move (coherent.of_descends sound.stacked.descends) sound move⟩

end Recalls
end Search
end Sudoku
