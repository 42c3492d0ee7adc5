import Sudoku.Proofs.Layout.Exactness

/-!
# Which conflict of shapes is reported

A grid without a layout has a first cell in whose block the shapes differ, and a first
cell of that block with another shape than this one has. These two are what the error
names. The cell whose block it is need not be the corner of the block, but if it is not,
then the corner has another shape and is itself the cell that is reported. Nor need the
reported cell be the first one of the whole grid that has another shape than the corner of
a block around it, since a block reaches further down than the beginning of the next one.
-/

namespace Sudoku

/-- In an ascending list, the numbers before one of them are the smaller ones. -/
theorem mem_iff_lt_of_pairwise {earlier later : List Nat} {number : Nat}
    (ascending : (earlier ++ number :: later).Pairwise (· < ·)) (other : Nat) :
    other ∈ earlier ↔ other ∈ earlier ++ number :: later ∧ other < number := by
  obtain ⟨_, behind, across⟩ := List.pairwise_append.1 ascending
  constructor
  · intro member
    exact ⟨List.mem_append_left _ member, across other member number List.mem_cons_self⟩
  · rintro ⟨member, smaller⟩
    rcases List.mem_append.1 member with before | onward
    · exact before
    · rcases List.mem_cons.1 onward with same | after
      · omega
      · have larger := List.rel_of_pairwise_cons behind after
        omega

namespace Grid

variable {alphabet : Alphabet} {grid : Grid alphabet}

/-- The first cell in whose block the shapes differ, and the first cell of the block that
has another shape. -/
structure Conflicts (grid : Grid alphabet) (cell member : Nat) : Prop where
  inside : cell < grid.cellCount
  belongs : member ∈ grid.block cell
  different : grid.shapeAt member ≠ grid.shapeAt cell
  uniformBefore : ∀ earlier < cell, grid.UniformAt earlier
  sameBefore : ∀ other ∈ grid.block cell, other < member →
    grid.shapeAt other = grid.shapeAt cell

namespace Conflicts

/-- The block of the cell is not uniform. -/
theorem not_uniformAt {cell member : Nat} (conflicts : grid.Conflicts cell member) :
    ¬grid.UniformAt cell :=
  fun uniform => conflicts.different (uniform member conflicts.belongs)

/-- There is one first conflict at most. -/
theorem unique {cell member otherCell otherMember : Nat}
    (conflicts : grid.Conflicts cell member)
    (otherConflicts : grid.Conflicts otherCell otherMember) :
    cell = otherCell ∧ member = otherMember := by
  have cells : cell = otherCell := by
    rcases Nat.lt_trichotomy cell otherCell with before | same | after
    · exact absurd (otherConflicts.uniformBefore cell before) conflicts.not_uniformAt
    · exact same
    · exact absurd (conflicts.uniformBefore otherCell after) otherConflicts.not_uniformAt
  subst cells
  refine ⟨rfl, ?_⟩
  rcases Nat.lt_trichotomy member otherMember with before | same | after
  · exact absurd (otherConflicts.sameBefore member conflicts.belongs before)
      conflicts.different
  · exact same
  · exact absurd (conflicts.sameBefore otherMember otherConflicts.belongs after)
      otherConflicts.different

/-- The cell is the corner of its block, or else the corner has another shape and is the
cell that is blamed. -/
theorem cornerOf_eq (wellFormed : grid.WellFormed) {cell member : Nat}
    (conflicts : grid.Conflicts cell member) :
    grid.cornerOf cell = cell ∨ grid.cornerOf cell = member := by
  have belongs := cornerOf_mem_block wellFormed cell
  rcases Nat.eq_or_lt_of_le (cornerOf_le wellFormed conflicts.inside) with corner | before
  · exact .inl corner
  · right
    -- The block of the corner is uniform, so it cannot be the block of the cell.
    have uniform := conflicts.uniformBefore _ before
    have different : grid.shapeAt (grid.cornerOf cell) ≠ grid.shapeAt cell := by
      intro sameShape
      have inside := Nat.lt_trans before conflicts.inside
      have around : cell ∈ grid.block (grid.cornerOf cell) :=
        (mem_block_congr wellFormed conflicts.inside belongs sameShape cell).2
          (mem_block_self wellFormed conflicts.inside)
      exact conflicts.not_uniformAt (uniform.of_mem_block wellFormed inside around)
    refine Nat.le_antisymm (cornerOf_le_of_mem wellFormed conflicts.belongs) ?_
    by_contra first
    exact different (conflicts.sameBefore _ belongs (Nat.lt_of_not_le first))

end Conflicts

/-! ### By position -/

/-- The first position at whose block shapes differ has one shape, and the first position
with a different one in that block has the other. -/
structure Blames (grid : Grid alphabet) (origin place : Position) (expected found : BoxShape) :
    Prop where
  boxShape_origin : grid.boxShape origin = .ok expected
  spans : expected.Spans origin place
  boxShape_place : grid.boxShape place = .ok found
  different : found ≠ expected
  uniformBefore : ∀ earlier shape, compare earlier origin = .lt →
    grid.boxShape earlier = .ok shape →
    ∀ other, shape.Spans earlier other → grid.boxShape other = .ok shape
  sameBefore : ∀ other, expected.Spans origin other → compare other place = .lt →
    grid.boxShape other = .ok expected

/-- The positions and shapes that are blamed are those of the first conflict. -/
theorem blames_iff (wellFormed : grid.WellFormed) (origin place : Position)
    (expected found : BoxShape) :
    grid.Blames origin place expected found ↔
      ∃ cell member, grid.Conflicts cell member ∧ origin = .ofNumber grid.width cell ∧
        place = .ofNumber grid.width member ∧ expected = grid.shapeAt cell ∧
        found = grid.shapeAt member := by
  constructor
  · rintro ⟨originShape, spans, placeShape, different, uniformBefore, sameBefore⟩
    obtain ⟨cell, inside, rfl, rfl⟩ := (boxShape_eq_ok_iff _ _).1 originShape
    obtain ⟨member, memberInside, rfl, rfl⟩ := (boxShape_eq_ok_iff _ _).1 placeShape
    refine ⟨cell, member, ⟨inside, ?_, different, ?_, ?_⟩, rfl, rfl, rfl, rfl⟩
    · exact (mem_block_iff_spans wellFormed inside member).2 ⟨memberInside, spans⟩
    · intro earlier before
      have earlierInside := Nat.lt_trans before inside
      rw [uniformAt_iff_spans wellFormed earlierInside]
      exact uniformBefore _ _ ((Position.compare_ofNumber_eq_lt_iff _ _ _).2 before)
        (boxShape_ofNumber earlierInside)
    · intro other belongs before
      obtain ⟨otherInside, otherSpans⟩ :=
        (mem_block_iff_spans wellFormed inside other).1 belongs
      have same := sameBefore _ otherSpans
        ((Position.compare_ofNumber_eq_lt_iff _ _ _).2 before)
      rwa [boxShape_ofNumber otherInside, Except.ok.injEq] at same
  · rintro ⟨cell, member, conflicts, rfl, rfl, rfl, rfl⟩
    obtain ⟨memberInside, spans⟩ :=
      (mem_block_iff_spans wellFormed conflicts.inside member).1 conflicts.belongs
    refine ⟨boxShape_ofNumber conflicts.inside, spans,
      boxShape_ofNumber memberInside, conflicts.different, ?_, ?_⟩
    · intro earlier shape before shapeFound
      obtain ⟨other, inside, rfl, rfl⟩ := (boxShape_eq_ok_iff _ _).1 shapeFound
      rw [Position.compare_ofNumber_eq_lt_iff] at before
      exact (uniformAt_iff_spans wellFormed inside).1
        (conflicts.uniformBefore other before)
    · intro other otherSpans before
      obtain ⟨number, inside, rfl⟩ := (contains_iff other).1
        (contains_of_spans wellFormed conflicts.inside otherSpans)
      rw [Position.compare_ofNumber_eq_lt_iff] at before
      rw [boxShape_ofNumber inside, conflicts.sameBefore number
        ((mem_block_iff_spans wellFormed conflicts.inside number).2
          ⟨inside, otherSpans⟩) before]

end Grid

namespace Layout

variable {alphabet : Alphabet} {grid : Grid alphabet}

namespace Division

variable {division : Division}

/-- A cell that is not taken into a sound division has the first member of another shape
in its block blamed. -/
theorem Sound.exists_of_extend_eq_error (sound : Sound grid division)
    (wellFormed : grid.WellFormed) {cell : Nat} (inside : cell < grid.cellCount)
    {error : Error} (failed : Division.extend grid division cell = .error error) :
    ∃ member ∈ grid.block cell, grid.shapeAt member ≠ grid.shapeAt cell ∧
      (∀ other ∈ grid.block cell, other < member →
        grid.shapeAt other = grid.shapeAt cell) ∧
      error = grid.shapeConflict cell member := by
  obtain ⟨free, found⟩ := extend_eq_error wellFormed inside failed
  obtain ⟨earlier, member, later, cells, flawed, clear⟩ := List.findSome?_eq_some_iff.1 found
  have ascending := Grid.pairwise_block wellFormed cell
  rw [cells] at ascending ⊢
  have belongs : member ∈ grid.block cell := by rw [cells]; simp
  rw [memberFlaw?] at flawed
  split at flawed
  · next different =>
      refine ⟨member, by simp, different, fun other otherBelongs before => ?_, ?_⟩
      · have isEarlier := (mem_iff_lt_of_pairwise ascending other).2 ⟨otherBelongs, before⟩
        exact ((memberFlaw?_eq_none_iff _ other).1 (clear other isEarlier)).1
      · exact (Option.some.inj flawed).symm
  · next sameShape =>
      have memberFree := sound.box?_eq_none_of_mem_block wellFormed inside free belongs
        (not_not.1 sameShape)
      simp [memberFree] at flawed

/-- A grid that is not divided has its first conflict reported. -/
theorem exists_conflicts_of_ofGrid (wellFormed : grid.WellFormed) {error : Error}
    (failed : ofGrid grid = .error error) :
    ∃ cell member, grid.Conflicts cell member ∧ error = grid.shapeConflict cell member := by
  obtain ⟨earlier, cell, later, middle, cells, reached, stopped⟩ :=
    Error.exists_of_foldlM_eq_error failed
  have ascending := List.pairwise_lt_range (n := grid.cellCount)
  have inside : cell < grid.cellCount := by
    rw [← List.mem_range, cells]
    simp
  rw [cells] at ascending
  have isEarlier (other : Nat) : other ∈ earlier ↔ other < cell := by
    rw [mem_iff_lt_of_pairwise ascending, ← cells, List.mem_range]
    exact ⟨fun both => both.2, fun before => ⟨Nat.lt_trans before inside, before⟩⟩
  have earlierInside : ∀ other ∈ earlier, other < grid.cellCount := fun other member =>
    Nat.lt_trans ((isEarlier other).1 member) inside
  rcases (sound_start grid).foldlM_extend wellFormed earlierInside with
    ⟨last, divided, sound, boxed, _⟩ | ⟨_, _, _, _, _, conflict⟩
  · rw [reached, Except.ok.injEq] at divided
    subst divided
    obtain ⟨member, belongs, different, sameBefore, blamed⟩ :=
      sound.exists_of_extend_eq_error wellFormed inside stopped
    refine ⟨cell, member, ⟨inside, belongs, different, fun other before => ?_, sameBefore⟩,
      blamed⟩
    exact sound.uniformAt wellFormed (boxed other ((isEarlier other).2 before))
  · rw [reached] at conflict
    simp at conflict

end Division

/-- A grid has no layout exactly when it has a first conflict, which is then reported. -/
theorem ofGrid_eq_error_iff (wellFormed : grid.WellFormed) (error : Error) :
    ofGrid grid = .error error ↔
      ∃ cell member, grid.Conflicts cell member ∧ error = grid.shapeConflict cell member := by
  have reported {error : Error} (failed : ofGrid grid = .error error) :
      ∃ cell member, grid.Conflicts cell member ∧
        error = grid.shapeConflict cell member := by
    unfold ofGrid at failed
    cases divided : Division.ofGrid grid with
    | ok division => simp [divided, Except.map] at failed
    | error cause =>
        rw [divided, Except.map, Except.error.injEq] at failed
        rw [← failed]
        exact Division.exists_conflicts_of_ofGrid wellFormed divided
  refine ⟨reported, ?_⟩
  rintro ⟨cell, member, conflicts, rfl⟩
  cases outcome : ofGrid grid with
  | ok layout =>
      exact absurd ((exists_ofGrid_iff wellFormed).1 ⟨layout, outcome⟩ cell conflicts.inside)
        conflicts.not_uniformAt
  | error error =>
      obtain ⟨otherCell, otherMember, otherConflicts, rfl⟩ := reported outcome
      obtain ⟨rfl, rfl⟩ := conflicts.unique otherConflicts
      rfl

/-! ### What is reported -/

/-- The error for a grid without a layout blames the first position at whose block shapes
differ and the first position of that block with another shape. The shape that it says the
box has is that of the position at the corner of the box, unless that position itself is
reported. Positions before the reported one have the shapes of the corners of the blocks
around them, as far as those corners do not come after the corner of its box. -/
theorem ofGrid_blames (built : grid.Built) :
    (∀ error, ofGrid grid = .error error ↔
      ∃ origin place expected found, grid.Blames origin place expected found ∧
        error = .invalid (.ofPosition place) (.conflictingBoxShape place expected found)) ∧
    ∀ position expected found,
      ofGrid grid = .error
        (.invalid (.ofPosition position) (.conflictingBoxShape position expected found)) →
      (grid.boxShape (expected.corner position) = .ok expected ↔
        position ≠ expected.corner position) ∧
      ∀ place corner shape, compare place position = .lt →
        grid.boxShape corner = .ok shape → shape.corner corner = corner →
        shape.Spans corner place →
        (corner = expected.corner position ∨
          compare corner (expected.corner position) = .lt) →
        grid.boxShape place = .ok shape := by
  have wellFormed := built.wellFormed
  constructor
  · intro error
    rw [ofGrid_eq_error_iff wellFormed]
    simp only [Grid.blames_iff wellFormed]
    constructor
    · rintro ⟨cell, member, conflicts, rfl⟩
      exact ⟨_, _, _, _, ⟨cell, member, conflicts, rfl, rfl, rfl, rfl⟩, rfl⟩
    · rintro ⟨_, _, _, _, ⟨cell, member, conflicts, rfl, rfl, rfl, rfl⟩, rfl⟩
      exact ⟨cell, member, conflicts, rfl⟩
  · intro position expected found failed
    obtain ⟨cell, member, conflicts, same⟩ := (ofGrid_eq_error_iff wellFormed _).1 failed
    obtain ⟨_, rfl, rfl, rfl⟩ : _ ∧ position = .ofNumber grid.width member ∧
        expected = grid.shapeAt cell ∧ found = grid.shapeAt member := by
      simpa [Grid.shapeConflict] using same
    obtain ⟨memberInside, spans⟩ :=
      (Grid.mem_block_iff_spans wellFormed conflicts.inside member).1 conflicts.belongs
    have corner : (grid.shapeAt cell).corner (.ofNumber grid.width member) =
        .ofNumber grid.width (grid.cornerOf cell) := by
      rw [Grid.corner_eq_of_spans spans, Grid.ofNumber_cornerOf wellFormed]
    rw [corner, ne_eq, Position.ofNumber_inj]
    refine ⟨?_, fun place other shape before shapeFound isCorner around notAfter => ?_⟩
    · have notCell : member ≠ cell := fun same => conflicts.different (by rw [same])
      rcases conflicts.cornerOf_eq wellFormed with isCell | isMember
      · rw [isCell, Grid.boxShape_ofNumber conflicts.inside]
        exact iff_of_true rfl notCell
      · rw [isMember, Grid.boxShape_ofNumber memberInside, Except.ok.injEq]
        exact iff_of_false conflicts.different (not_not_intro rfl)
    · obtain ⟨number, inside, rfl, rfl⟩ := (Grid.boxShape_eq_ok_iff _ _).1 shapeFound
      rw [Position.ofNumber_inj, Position.compare_ofNumber_eq_lt_iff] at notAfter
      have notLater := Grid.cornerOf_le wellFormed conflicts.inside
      rcases Nat.eq_or_lt_of_le (show number ≤ cell by omega) with rfl | earlier
      · obtain ⟨placeNumber, placeInside, rfl⟩ := (Grid.contains_iff place).1
          (Grid.contains_of_spans wellFormed inside around)
        rw [Position.compare_ofNumber_eq_lt_iff] at before
        rw [Grid.boxShape_ofNumber placeInside, conflicts.sameBefore placeNumber
          ((Grid.mem_block_iff_spans wellFormed inside placeNumber).2
            ⟨placeInside, around⟩) before]
      · exact (Grid.uniformAt_iff_spans wellFormed inside).1
          (conflicts.uniformBefore number earlier) place around

/-- A band whose first cell is a box of its own. -/
def notchedBand : Grid .unsigned8 :=
  { Grid.openBand with
    cells := #[{ boxWidth := some 1, boxHeight := some 1 }, {}, {}, {}, {}, {}, {}, {}] }

/-- The notched band is built from its rows. -/
theorem built_notchedBand : notchedBand.Built := by
  have made : Grid.ofRowsOver Grid.oneToFour
      [[{ boxWidth := some 1, boxHeight := some 1 }, {}, {}, {}], [{}, {}, {}, {}]] ⟨2, 2⟩ =
        .ok notchedBand := by
    rfl
  exact .ofRowsOver made

/-- The second cell of the notched band expects a box of four cells, at the corner of which
stands the reported cell itself. -/
theorem ofGrid_notchedBand :
    ofGrid notchedBand = .error
        (.invalid (.ofPosition ⟨0, 0⟩) (.conflictingBoxShape ⟨0, 0⟩ ⟨2, 2⟩ ⟨1, 1⟩)) ∧
      notchedBand.boxShape ⟨0, 0⟩ ≠ .ok ⟨2, 2⟩ := by
  have failed : ofGrid notchedBand = .error
      (.invalid (.ofPosition ⟨0, 0⟩) (.conflictingBoxShape ⟨0, 0⟩ ⟨2, 2⟩ ⟨1, 1⟩)) := by
    decide +kernel
  obtain ⟨declared, _⟩ := (ofGrid_blames built_notchedBand).2 _ _ _ failed
  exact ⟨failed, fun same => declared.1 same rfl⟩

/-- A band whose right box has a small cell in its upper row, and whose left box has one in its
lower row. -/
def pittedBand : Grid .unsigned8 :=
  { Grid.openBand with
    cells := #[{}, {}, {}, { boxWidth := some 1, boxHeight := some 1 },
      { boxWidth := some 1, boxHeight := some 1 }, {}, {}, {}] }

/-- The pitted band is built from its rows. -/
theorem built_pittedBand : pittedBand.Built := by
  have made : Grid.ofRowsOver pittedBand.domain
      [[{}, {}, {}, { boxWidth := some 1, boxHeight := some 1 }],
        [{ boxWidth := some 1, boxHeight := some 1 }, {}, {}, {}]] ⟨2, 2⟩ =
      .ok pittedBand := by
    rfl
  exact .ofRowsOver made

/-- The reported position need not be the first in reading order with another shape than
the corner of a block around it, nor need the shape that its box is said to have be that
of the corner of the box. -/
theorem not_ofGrid_blames_first_cell :
    (¬∀ grid : Grid .unsigned8, grid.Built → ∀ position expected found,
      ofGrid grid = .error
        (.invalid (.ofPosition position) (.conflictingBoxShape position expected found)) →
      ∀ place corner shape, compare place position = .lt →
        grid.boxShape corner = .ok shape → shape.corner corner = corner →
        shape.Spans corner place → grid.boxShape place = .ok shape) ∧
    ¬∀ grid : Grid .unsigned8, grid.Built → ∀ position expected found,
      ofGrid grid = .error
        (.invalid (.ofPosition position) (.conflictingBoxShape position expected found)) →
      grid.boxShape (expected.corner position) = .ok expected := by
  constructor
  · intro isFirst
    have same := isFirst pittedBand built_pittedBand ⟨1, 0⟩ ⟨2, 2⟩ ⟨1, 1⟩
      (by decide +kernel) ⟨0, 3⟩ ⟨0, 2⟩ ⟨2, 2⟩ (by decide) (by decide) (by decide)
      (by constructor <;> decide)
    exact absurd same (by decide)
  · intro isDeclared
    have declared := isDeclared notchedBand built_notchedBand ⟨0, 0⟩ ⟨2, 2⟩ ⟨1, 1⟩
      (by decide +kernel)
    exact absurd declared (by decide)

end Layout
end Sudoku
