import Sudoku.Proofs.Search.Relabelling
import Sudoku.Proofs.Solver.Validation

/-!
# Relabelled solutions

A solver looks at the indices of values only. On grids that relabel one another it comes
to the same outcome with the same work, and its solutions relabel one another too. So it
does not matter either in which order a domain is listed, whether a grid names it, or
whether a cell overrides its box shape with the same one.
-/

namespace Sudoku

variable {alphabet otherAlphabet : Alphabet} {domain : Domain alphabet}
  {otherDomain : Domain otherAlphabet} {grid : Grid alphabet} {other : Grid otherAlphabet}

/-! ### Outcomes of one kind -/

/-- Solutions of one kind, whose grids are related if there are any. -/
inductive Solution.Corresponds (relation : Grid otherAlphabet → Grid alphabet → Prop) :
    Solution otherAlphabet → Solution alphabet → Prop
  | solved {other : Grid otherAlphabet} {grid : Grid alphabet}
      (related : relation other grid) : Corresponds relation (.solved other) (.solved grid)
  | unsatisfiable : Corresponds relation .unsatisfiable .unsatisfiable
  | cancelled : Corresponds relation .cancelled .cancelled

/-- Answers of one kind, whose grids are related if there are any. -/
inductive Uniqueness.Corresponds (relation : Grid otherAlphabet → Grid alphabet → Prop) :
    Uniqueness otherAlphabet → Uniqueness alphabet → Prop
  | impossible : Corresponds relation .impossible .impossible
  | unique {other : Grid otherAlphabet} {grid : Grid alphabet}
      (related : relation other grid) : Corresponds relation (.unique other) (.unique grid)
  | ambiguous : Corresponds relation .ambiguous .ambiguous
  | cancelled : Corresponds relation .cancelled .cancelled

section

variable {relation weaker : Grid otherAlphabet → Grid alphabet → Prop}
  (implies : ∀ other grid, relation other grid → weaker other grid)

include implies

theorem Solution.Corresponds.mono {solution : Solution alphabet}
    {otherSolution : Solution otherAlphabet}
    (corresponds : Corresponds relation otherSolution solution) :
    Corresponds weaker otherSolution solution := by
  cases corresponds with
  | solved related => exact .solved (implies _ _ related)
  | unsatisfiable => exact .unsatisfiable
  | cancelled => exact .cancelled

theorem Uniqueness.Corresponds.mono {answer : Uniqueness alphabet}
    {otherAnswer : Uniqueness otherAlphabet}
    (corresponds : Corresponds relation otherAnswer answer) :
    Corresponds weaker otherAnswer answer := by
  cases corresponds with
  | impossible => exact .impossible
  | unique related => exact .unique (implies _ _ related)
  | ambiguous => exact .ambiguous
  | cancelled => exact .cancelled

end

namespace Solver

/-! ### Outcomes of searches -/

theorem corresponds_solutionOf {search : Search alphabet} {otherSearch : Search otherAlphabet}
    (relabels : otherSearch.Relabels otherDomain domain search) :
    Solution.Corresponds (Grid.Relabels otherDomain domain) (solutionOf otherSearch)
      (solutionOf search) := by
  have solutions := relabels.solutions
  unfold solutionOf
  rw [relabels.phase_eq]
  generalize otherSearch.solutions = otherGrids, search.solutions = grids at solutions ⊢
  cases solutions with
  | nil => cases search.phase <;> first | exact .cancelled | exact .unsatisfiable
  | cons related _ => cases search.phase <;> first | exact .cancelled | exact .solved related

theorem corresponds_uniquenessOf {search : Search alphabet}
    {otherSearch : Search otherAlphabet}
    (relabels : otherSearch.Relabels otherDomain domain search) :
    Uniqueness.Corresponds (Grid.Relabels otherDomain domain) (uniquenessOf otherSearch)
      (uniquenessOf search) := by
  have solutions := relabels.solutions
  unfold uniquenessOf
  rw [relabels.phase_eq]
  generalize otherSearch.solutions = otherGrids, search.solutions = grids at solutions ⊢
  cases solutions with
  | nil => cases search.phase <;> first | exact .cancelled | exact .impossible
  | cons related rest =>
      cases rest with
      | nil => cases search.phase <;> first | exact .cancelled | exact .unique related
      | cons _ _ => cases search.phase <;> first | exact .cancelled | exact .ambiguous

/-- A solver searches relabelled grids alike. -/
theorem search_agree (relabels : other.Relabels otherDomain domain grid)
    (solver : Solver) (watch : Watch) (wanted : Nat) :
    Error.Agree (Search.Relabels otherDomain domain) (solver.search watch wanted other)
      (solver.search watch wanted grid) := by
  unfold search
  rw [relabels.shapes.ofGrid_eq]
  refine (Error.Agree.refl _).bind ?_
  rintro layout _ rfl
  exact (Board.ofGrid_agree relabels layout).bind fun _ _ boards =>
    Search.complete_agree boards _

/-! ### Solving alike -/

/-- A solver comes to outcomes of one kind on two grids, with related solutions and the
same work. Where it fails, the errors are equal up to the text of a symbol. -/
structure Alike (solver : Solver) (watch : Watch)
    (relation : Grid otherAlphabet → Grid alphabet → Prop) (other : Grid otherAlphabet)
    (grid : Grid alphabet) : Prop where
  solves : Error.Agree (fun result original =>
      Solution.Corresponds relation result.1 original.1 ∧ result.2 = original.2)
    (solver.solveWithStatistics watch other) (solver.solveWithStatistics watch grid)
  answers : Error.Agree (Uniqueness.Corresponds relation)
    (solver.checkUniqueness watch other) (solver.checkUniqueness watch grid)

theorem Alike.mono {relation weaker : Grid otherAlphabet → Grid alphabet → Prop}
    {solver : Solver} {watch : Watch} (alike : solver.Alike watch relation other grid)
    (implies : ∀ other grid, relation other grid → weaker other grid) :
    solver.Alike watch weaker other grid where
  solves := alike.solves.mono fun _ _ related => ⟨related.1.mono implies, related.2⟩
  answers := alike.answers.mono fun _ _ related => related.mono implies

/-- A solver treats relabelled grids alike. -/
theorem alike_of_relabels (relabels : other.Relabels otherDomain domain grid)
    (solver : Solver) (watch : Watch) :
    solver.Alike watch (Grid.Relabels otherDomain domain) other grid where
  solves := (search_agree relabels solver watch 1).map fun _ _ searches =>
    ⟨corresponds_solutionOf searches, searches.statistics_eq⟩
  answers := (search_agree relabels solver watch 2).map fun _ _ searches =>
    corresponds_uniquenessOf searches

/-- A solver treats grids alike that are rejected for the same error. -/
theorem alike_of_rejects {relation : Grid otherAlphabet → Grid alphabet → Prop}
    {error : Error} (rejects : grid.Rejects error) (otherRejects : other.Rejects error)
    (solver : Solver) (watch : Watch) : solver.Alike watch relation other grid where
  solves := by
    unfold solveWithStatistics
    rw [rejects.search_eq, otherRejects.search_eq]
    exact .error rfl
  answers := by
    unfold checkUniqueness
    rw [rejects.search_eq, otherRejects.search_eq]
    exact .error rfl

end Solver

/-! ### The same values -/

namespace Grid

variable {other : Grid alphabet}

/-- Both grids hold the same values. -/
def SameValues (other grid : Grid alphabet) : Prop :=
  ∀ cell < grid.cellCount, other.valueAt cell = grid.valueAt cell

/-- Over domains of the same values, the same symbols have the same index. -/
theorem Relabels.sameValues {otherDomain domain : Domain alphabet}
    (relabels : other.Relabels otherDomain domain grid)
    (domains : otherDomain.values = domain.values) : SameValues other grid := by
  intro cell _
  have related := relabels.rel_valueAt cell
  generalize other.valueAt cell = otherValue, grid.valueAt cell = value at related ⊢
  cases related with
  | none => rfl
  | some same =>
      obtain ⟨index, otherNamed, named⟩ := same
      rw [← otherNamed, ← named, Domain.value?, Domain.value?, domains]

/-- Over domains of the same values, the same values of the domain have the same index. -/
theorem SameValues.sameIndices (values : SameValues other grid)
    (domains : other.domain.values = grid.domain.values)
    (inDomain : ∀ cell symbol, grid.valueAt cell = some symbol →
      grid.domain.contains symbol = true) : SameIndices other grid := by
  intro cell inside
  rw [values cell inside]
  cases held : grid.valueAt cell with
  | none => exact .none
  | some symbol =>
      obtain ⟨index, named⟩ :=
        (grid.domain.contains_iff symbol).1 (inDomain cell symbol held)
      refine .some ⟨index, ?_, named⟩
      rw [Domain.value?, domains]
      exact named

/-- The check of the values does not depend on anything but the values. -/
theorem SameValues.checkValues_eq (values : SameValues other grid)
    (shapes : Layout.SameShapes other grid)
    (domains : other.domain.values = grid.domain.values) :
    other.checkValues = grid.checkValues := by
  have contains (symbol : Symbol alphabet) :
      other.domain.contains symbol = grid.domain.contains symbol := by
    unfold Domain.contains Domain.index? Domain.size
    rw [domains]
  have flaws : other.valueFlaw? = grid.valueFlaw? := by
    unfold valueFlaw?
    rw [shapes.cellCount_eq, shapes.width_eq, ← List.head?_filterMap, ← List.head?_filterMap]
    congr 1
    apply List.filterMap_congr
    intro cell member
    simp only [values cell (List.mem_range.1 member), contains]
  rw [checkValues, flaws, checkValues]

end Grid

namespace Solver

/-- A solver looks at the indices of values only. If two grids have the same shapes, over
domains of one size, and their cells hold values of the same index, then it comes to the
same outcome with the same work on both, and its solutions hold values of the same index.
So grids with the same shapes and values over the same symbols have the same solutions,
in whatever order the symbols are listed, whether or not they are, and however the cells
come by their shapes. -/
theorem alike_of_sameIndices (solver : Solver) (watch : Watch) :
    (∀ (alphabet otherAlphabet : Alphabet) (grid : Grid alphabet)
      (other : Grid otherAlphabet), grid.Built → other.Built →
      Layout.SameShapes other grid → other.domain.size = grid.domain.size →
      Grid.SameIndices other grid → solver.Alike watch Grid.SameIndices other grid) ∧
    ∀ (alphabet : Alphabet) (grid other : Grid alphabet), grid.Built → other.Built →
      Layout.SameShapes other grid → other.domain.listed.Perm grid.domain.listed →
      Grid.SameValues other grid → solver.Alike watch Grid.SameValues other grid := by
  constructor
  · intro alphabet otherAlphabet grid other built otherBuilt shapes sizes indices
    have relabels := indices.relabels built otherBuilt shapes sizes
    exact (alike_of_relabels relabels solver watch).mono
      fun _ _ solutions => solutions.sameIndices
  · intro alphabet grid other built otherBuilt shapes listed values
    have domains := Domain.values_eq_of_perm listed
    have checks := values.checkValues_eq shapes domains
    rcases grid.checkValues_cases with checked | ⟨_, _, _, _, _, outside⟩
    · have sizes : other.domain.size = grid.domain.size := congrArg Array.size domains
      have indices := values.sameIndices domains
        ((Board.checkValues_eq_ok_iff grid built.wellFormed).1 checked)
      have relabels := indices.relabels built otherBuilt shapes sizes
      exact (alike_of_relabels relabels solver watch).mono
        fun _ _ solutions => solutions.sameValues domains
    · rw [outside] at checks
      have divides := shapes.ofGrid_eq
      rcases Layout.ofGrid_cases built.wellFormed with
        ⟨layout, divided, _⟩ | ⟨_, _, _, _, _, conflicting⟩
      · exact alike_of_rejects (.values divided outside)
          (.values (divides.trans divided) checks) solver watch
      · exact alike_of_rejects (.shapes conflicting)
          (.shapes (divides.trans conflicting)) solver watch

/-- The band with its first open cell filled in. -/
def clueBand : Grid .unsigned8 :=
  Grid.band (some Grid.one) none none none

/-- The band with its first open cell filled in, over four other symbols. -/
def otherBand : Grid .signed8 where
  height := 2
  width := 4
  cells := #[{ value := some ⟨-5, by decide, by decide⟩ },
    { value := some ⟨-3, by decide, by decide⟩ }, { value := some ⟨3, by decide, by decide⟩ }, {},
    { value := some ⟨3, by decide, by decide⟩ }, {}, {},
    { value := some ⟨-3, by decide, by decide⟩ }]
  box := ⟨2, 2⟩
  domain := {
    listed := [⟨-5, by decide, by decide⟩, ⟨-3, by decide, by decide⟩, ⟨3, by decide, by decide⟩,
      ⟨9, by decide, by decide⟩]
    values := #[⟨-5, by decide, by decide⟩, ⟨-3, by decide, by decide⟩,
      ⟨3, by decide, by decide⟩, ⟨9, by decide, by decide⟩]
    perm := .refl _
    ascending := by decide
    nonempty := by decide }
  explicitDomain := true

/-- The band with its first open cell filled in, with two of its symbols listed the other way
round and a cell that overrides its box shape with the same one. -/
def relistedBand : Grid .unsigned8 :=
  { clueBand with
    cells := clueBand.cells.modify 0 fun cell => cell.withBoxShape ⟨2, 2⟩
    domain := { clueBand.domain with
      listed := [Grid.two, Grid.one, Grid.three, Grid.four]
      perm := .swap _ _ _
      nonempty := by decide } }

/-- A solver treats the band with its first open cell filled in like the one over other symbols,
and like the one whose symbols are listed otherwise. -/
theorem alike_clueBand :
    ({} : Solver).Alike (.still false 0) Grid.SameIndices otherBand clueBand ∧
      ({} : Solver).Alike (.still false 0) Grid.SameValues relistedBand clueBand := by
  have built {alphabet : Alphabet} {grid : Grid alphabet}
      (made : Grid.ofRowsOver grid.domain grid.rows grid.box = .ok grid) : grid.Built :=
    .ofRowsOver made
  have clueBuilt : clueBand.Built := built rfl
  have otherBuilt : otherBand.Built := built rfl
  have relistedBuilt : relistedBand.Built := built rfl
  have indices : Grid.SameIndices otherBand clueBand
    | 0, _ => .some ⟨0, rfl, rfl⟩
    | 1, _ | 7, _ => .some ⟨1, rfl, rfl⟩
    | 2, _ | 4, _ => .some ⟨2, rfl, rfl⟩
    | 3, _ | 5, _ | 6, _ => .none
  have values : Grid.SameValues relistedBand clueBand := by
    unfold Grid.SameValues
    decide +kernel
  obtain ⟨relabels, relists⟩ := alike_of_sameIndices {} (.still false 0)
  exact ⟨relabels _ _ clueBand otherBand clueBuilt otherBuilt
      ⟨rfl, rfl, by decide +kernel⟩ rfl indices,
    relists _ clueBand relistedBand clueBuilt relistedBuilt
      ⟨rfl, rfl, by decide +kernel⟩ (.swap _ _ _) values⟩

end Solver
end Sudoku
