import Sudoku.Proofs.Layout.FirstConflict

/-!
# Which conflict of values is found

Two cells clash when they share a row, a column or a box and hold equal values. The search
for a conflict looks at the later peers of each cell only, and stops at the first it finds.
Since the peers of a cell are listed in ascending order, and the cell is listed among the
peers of each of them, this is the first clash of all in reading order.
-/

namespace Sudoku

namespace Layout

variable {alphabet : Alphabet} {layout : Layout} {grid : Grid alphabet}

/-! ### By number -/

/-- A later peer of a cell holds the value of the cell. -/
structure Rivalry (layout : Layout) (grid : Grid alphabet) (cell rival : Nat) : Prop where
  before : cell < rival
  isPeer : rival ∈ layout.peersOf cell
  equal : ∃ symbol, grid.valueAt cell = some symbol ∧ grid.valueAt rival = some symbol

/-- A rival comes no later than any other. -/
theorem le_of_rivalOf?_eq_some (sound : layout.Sound) {cell rival other : Nat}
    (found : layout.rivalOf? grid cell = some rival)
    (rivalry : layout.Rivalry grid cell other) : rival ≤ other := by
  obtain ⟨symbol, held, foundRival⟩ := Option.bind_eq_some_iff.1 found
  obtain ⟨_, earlier, later, peers, passed⟩ := List.find?_eq_some_iff_append.1 foundRival
  by_contra notBefore
  have ascending := sound.ascending cell
  have member := rivalry.isPeer
  rw [peers] at ascending member
  have skipped := (mem_iff_lt_of_pairwise ascending other).2
    ⟨member, Nat.lt_of_not_le notBefore⟩
  obtain ⟨shared, heldToo, otherHeld⟩ := rivalry.equal
  rw [held, Option.some.injEq] at heldToo
  have notPassed := passed other skipped
  simp [rivalry.before, otherHeld, heldToo] at notPassed

/-- The conflict that is found comes no later than any other. -/
theorem le_of_conflict?_eq_some (sound : layout.Sound) {first second cell rival : Nat}
    (found : layout.conflict? grid = some (first, second))
    (rivalry : layout.Rivalry grid cell rival) :
    first < cell ∨ first = cell ∧ second ≤ rival := by
  obtain ⟨earlier, place, later, cells, here, passed⟩ := List.findSome?_eq_some_iff.1 found
  obtain ⟨peer, rivalFound, pair⟩ := Option.map_eq_some_iff.1 here
  obtain ⟨rfl, rfl⟩ := Prod.mk.inj pair
  have ascending : (List.range layout.cellCount).Pairwise (· < ·) := List.pairwise_lt_range
  have listed : cell ∈ List.range layout.cellCount :=
    List.mem_range.2 (sound.lt_of_mem rivalry.isPeer)
  rw [cells] at ascending listed
  rcases Nat.lt_trichotomy place cell with before | rfl | after
  · exact .inl before
  · exact .inr ⟨rfl, le_of_rivalOf?_eq_some sound rivalFound rivalry⟩
  · have skipped := passed cell ((mem_iff_lt_of_pairwise ascending cell).2 ⟨listed, after⟩)
    rw [Option.map_eq_none_iff] at skipped
    obtain ⟨symbol, held, rivalHeld⟩ := rivalry.equal
    exact absurd rivalHeld (rivalOf?_eq_none skipped held rivalry.isPeer rivalry.before)

/-- A conflict is the first cell that has a rival, with the first of its rivals. -/
theorem conflict?_eq_some_iff (sound : layout.Sound) (first second : Nat) :
    layout.conflict? grid = some (first, second) ↔
      layout.Rivalry grid first second ∧
        ∀ cell rival, layout.Rivalry grid cell rival →
          first < cell ∨ first = cell ∧ second ≤ rival := by
  have isLeast {first second : Nat} (found : layout.conflict? grid = some (first, second)) :
      layout.Rivalry grid first second ∧
        ∀ cell rival, layout.Rivalry grid cell rival →
          first < cell ∨ first = cell ∧ second ≤ rival := by
    obtain ⟨isPeer, before, equal⟩ := conflict?_eq_some found
    exact ⟨⟨before, isPeer, equal⟩, fun _ _ => le_of_conflict?_eq_some sound found⟩
  refine ⟨isLeast, ?_⟩
  rintro ⟨rivalry, least⟩
  cases found : layout.conflict? grid with
  | none =>
      obtain ⟨symbol, held, rivalHeld⟩ := rivalry.equal
      exact absurd rivalHeld
        ((conflict?_eq_none_iff sound).1 found first second rivalry.isPeer symbol held)
  | some pair =>
      obtain ⟨otherRivalry, otherLeast⟩ := isLeast found
      have notAfter := least _ _ otherRivalry
      have notBefore := otherLeast _ _ rivalry
      rw [Option.some.injEq, Prod.ext_iff]
      constructor <;> simp only <;> omega

/-! ### By position -/

/-- Two different positions that share a row, a column or a box hold equal values. -/
structure Clashes (layout : Layout) (grid : Grid alphabet) (first second : Position) :
    Prop where
  different : first ≠ second
  shared : layout.SharesUnit first second
  equal : ∃ symbol, grid.value first = .ok (some symbol) ∧
    grid.value second = .ok (some symbol)

/-- The first two positions that clash, in reading order of the first of them and then of
the second. -/
structure FirstClash (layout : Layout) (grid : Grid alphabet) (first second : Position) :
    Prop extends layout.Clashes grid first second where
  before : compare first second = .lt
  least : ∀ other rival, layout.Clashes grid other rival → compare other rival = .lt →
    compare first other = .lt ∨ first = other ∧ (compare second rival = .lt ∨ second = rival)

section

variable {otherAlphabet : Alphabet} {indexed : Grid otherAlphabet}
  (wellFormed : indexed.WellFormed) (found : ofGrid indexed = .ok layout)
  (fits : layout.fits grid = true)

include wellFormed found fits

/-- Positions clash when their cells are peers and hold equal values. -/
theorem clashes_iff (first second : Position) :
    layout.Clashes grid first second ↔
      ∃ cell rival, first = layout.positionOf cell ∧ second = layout.positionOf rival ∧
        rival ∈ layout.peersOf cell ∧
        ∃ symbol, grid.valueAt cell = some symbol ∧ grid.valueAt rival = some symbol := by
  have cellCount := cellCount_of_fits fits
  have width : grid.width = layout.width := ((layout.fits_iff grid).1 fits).2
  have numbered {position : Position} {symbol : Symbol alphabet}
      (held : grid.value position = .ok (some symbol)) :
      ∃ cell < layout.cellCount, position = layout.positionOf cell := by
    have contained : grid.contains position = true := by
      by_contra outside
      simp [Grid.value, Grid.cell, outside, Except.map] at held
    obtain ⟨cell, inside, rfl⟩ := (Grid.contains_iff position).1 contained
    exact ⟨cell, by rwa [cellCount], by rw [positionOf, width]⟩
  have peers (cell rival : Nat) := mem_peersOf_iff_sharesUnit wellFormed found cell rival
  have indexedCount := cellCount_of_ofGrid found
  constructor
  · rintro ⟨different, shared, symbol, held, rivalHeld⟩
    obtain ⟨cell, inside, rfl⟩ := numbered held
    obtain ⟨rival, rivalInside, rfl⟩ := numbered rivalHeld
    rw [value_positionOf fits inside, Except.ok.injEq] at held
    rw [value_positionOf fits rivalInside, Except.ok.injEq] at rivalHeld
    rw [indexedCount] at inside rivalInside
    refine ⟨cell, rival, rfl, rfl, (peers cell rival).2 ⟨inside, rivalInside, ?_, shared⟩,
      symbol, held, rivalHeld⟩
    rintro rfl
    exact different rfl
  · rintro ⟨cell, rival, rfl, rfl, isPeer, symbol, held, rivalHeld⟩
    obtain ⟨inside, rivalInside, different, shared⟩ := (peers cell rival).1 isPeer
    refine ⟨fun same => different (Position.ofNumber_inj.1 same).symm, shared, symbol, ?_, ?_⟩
    · rw [value_positionOf fits (by rwa [indexedCount]), held]
    · rw [value_positionOf fits (by rwa [indexedCount]), rivalHeld]

/-- Clashes in reading order are those of a cell and a later peer. -/
theorem clashes_and_lt_iff (first second : Position) :
    (layout.Clashes grid first second ∧ compare first second = .lt) ↔
      ∃ cell rival, first = layout.positionOf cell ∧ second = layout.positionOf rival ∧
        layout.Rivalry grid cell rival := by
  rw [clashes_iff wellFormed found fits]
  constructor
  · rintro ⟨⟨cell, rival, rfl, rfl, isPeer, equal⟩, before⟩
    exact ⟨cell, rival, rfl, rfl,
      (Position.compare_ofNumber_eq_lt_iff _ _ _).1 before, isPeer, equal⟩
  · rintro ⟨cell, rival, rfl, rfl, before, isPeer, equal⟩
    exact ⟨⟨cell, rival, rfl, rfl, isPeer, equal⟩,
      (Position.compare_ofNumber_eq_lt_iff _ _ _).2 before⟩

/-- Positions that clash hold peers. -/
theorem Clashes.arePeers {first second : Position}
    (clashes : layout.Clashes grid first second) : layout.arePeers first second = true := by
  obtain ⟨cell, rival, rfl, rfl, isPeer, _⟩ := (clashes_iff wellFormed found fits _ _).1 clashes
  obtain ⟨inside, rivalInside, _⟩ := (mem_peersOf_iff wellFormed found cell rival).1 isPeer
  rw [positionOf_eq found, positionOf_eq found, arePeers_iff_mem found]
  exact ⟨Grid.contains_ofNumber inside, Grid.contains_ofNumber rivalInside, _,
    peersAt_ofNumber found inside, List.mem_map_of_mem isPeer⟩

/-- The positions of a conflict are the first that clash. -/
theorem conflict?_eq_some_iff_firstClash (first second : Position) :
    (∃ cell rival, layout.conflict? grid = some (cell, rival) ∧
      first = layout.positionOf cell ∧ second = layout.positionOf rival) ↔
      layout.FirstClash grid first second := by
  have sound := sound_of_ofGrid found
  simp only [conflict?_eq_some_iff sound]
  constructor
  · rintro ⟨cell, rival, ⟨rivalry, least⟩, rfl, rfl⟩
    obtain ⟨clashes, before⟩ :=
      (clashes_and_lt_iff wellFormed found fits _ _).2 ⟨cell, rival, rfl, rfl, rivalry⟩
    refine ⟨clashes, before, fun other otherRival otherClashes otherBefore => ?_⟩
    obtain ⟨otherCell, otherPeer, rfl, rfl, otherRivalry⟩ :=
      (clashes_and_lt_iff wellFormed found fits _ _).1 ⟨otherClashes, otherBefore⟩
    simp only [positionOf, Position.compare_ofNumber_eq_lt_iff, Position.ofNumber_inj,
      ← Nat.le_iff_lt_or_eq]
    exact least otherCell otherPeer otherRivalry
  · rintro ⟨clashes, before, least⟩
    obtain ⟨cell, rival, rfl, rfl, rivalry⟩ :=
      (clashes_and_lt_iff wellFormed found fits _ _).1 ⟨clashes, before⟩
    refine ⟨cell, rival, ⟨rivalry, fun otherCell otherPeer otherRivalry => ?_⟩, rfl, rfl⟩
    obtain ⟨otherClashes, otherBefore⟩ := (clashes_and_lt_iff wellFormed found fits _ _).2
      ⟨otherCell, otherPeer, rfl, rfl, otherRivalry⟩
    have notAfter := least _ _ otherClashes otherBefore
    simp only [positionOf, Position.compare_ofNumber_eq_lt_iff, Position.ofNumber_inj,
      ← Nat.le_iff_lt_or_eq] at notAfter
    exact notAfter

/-- There is no conflict when no positions clash. -/
theorem conflict?_eq_none_iff_not_clashes :
    layout.conflict? grid = none ↔ ∀ first second, ¬layout.Clashes grid first second := by
  rw [conflict?_eq_none_iff (sound_of_ofGrid found)]
  simp only [clashes_iff wellFormed found fits]
  constructor
  · rintro respected _ _ ⟨cell, rival, rfl, rfl, isPeer, symbol, held, rivalHeld⟩
    exact respected cell rival isPeer symbol held rivalHeld
  · intro noClash cell rival isPeer symbol held rivalHeld
    exact noClash _ _ ⟨cell, rival, rfl, rfl, isPeer, symbol, held, rivalHeld⟩

/-- Nothing is found when no positions clash. -/
theorem findConflict_eq_none_iff :
    layout.findConflict grid = .ok none ↔ ∀ first second, ¬layout.Clashes grid first second := by
  rw [findConflict, if_pos fits, Except.ok.injEq, Option.map_eq_none_iff,
    conflict?_eq_none_iff_not_clashes wellFormed found fits]

/-- What is found are the first positions that clash. -/
theorem findConflict_eq_some_iff (first second : Position) :
    layout.findConflict grid = .ok (some (first, second)) ↔
      layout.FirstClash grid first second := by
  rw [← conflict?_eq_some_iff_firstClash wellFormed found fits, findConflict, if_pos fits]
  simp [eq_comm]

end

/-- The search fails on the grids that the layout does not fit. -/
theorem findConflict_eq_error_iff (layout : Layout) (grid : Grid alphabet) (error : Error) :
    layout.findConflict grid = .error error ↔
      ¬layout.fits grid = true ∧ error = .internal .dimensionMismatch := by
  unfold findConflict
  split
  · next fits => simp [fits]
  · next unfit => simp [unfit, eq_comm]

/-- The search for a conflict in a grid of any values fails when the grid does not have the
dimensions of the layout. On any other grid it finds the first positions that clash, and
nothing when there are none. The check of the grid blames what it finds, at the first of
the positions. -/
theorem findConflict_exact {otherAlphabet : Alphabet} {indexed : Grid otherAlphabet}
    (built : indexed.Built) (found : ofGrid indexed = .ok layout) (grid : Grid alphabet) :
    ((∃ error, layout.findConflict grid = .error error) ↔
      ¬(grid.height = layout.height ∧ grid.width = layout.width)) ∧
    (grid.height = layout.height → grid.width = layout.width →
      (layout.findConflict grid = .ok none ↔
        ∀ first second, ¬layout.Clashes grid first second) ∧
      (∀ first second, layout.findConflict grid = .ok (some (first, second)) ↔
        layout.FirstClash grid first second) ∧
      ∀ first second, layout.Clashes grid first second →
        layout.arePeers first second = true) ∧
    (∀ error, layout.findConflict grid = .error error →
      error = .internal .dimensionMismatch ∧ layout.checkUnique grid = .error error) ∧
    (layout.findConflict grid = .ok none → layout.checkUnique grid = .ok ()) ∧
    ∀ first second, layout.findConflict grid = .ok (some (first, second)) →
      ∃ symbol, grid.value first = .ok (some symbol) ∧
        grid.value second = .ok (some symbol) ∧
        layout.checkUnique grid = .error (.invalid (.ofPosition first)
          (.duplicateValue first second symbol.text)) := by
  have wellFormed := built.wellFormed
  rw [← fits_iff]
  refine ⟨by simp [findConflict_eq_error_iff], fun heights widths => ?_, fun error failed => ?_,
    checkUnique_of_findConflict_eq_none, fun first second conflict => ?_⟩
  · have fits := (layout.fits_iff grid).2 ⟨heights, widths⟩
    exact ⟨findConflict_eq_none_iff wellFormed found fits,
      findConflict_eq_some_iff wellFormed found fits,
      fun _ _ => Clashes.arePeers wellFormed found fits⟩
  · refine ⟨((layout.findConflict_eq_error_iff grid error).1 failed).2, ?_⟩
    rw [checkUnique, failed]
    rfl
  · have fits : layout.fits grid = true := by
      by_contra unfit
      have failed := (layout.findConflict_eq_error_iff grid _).2 ⟨unfit, rfl⟩
      simp [conflict] at failed
    obtain ⟨symbol, held, rivalHeld⟩ :=
      ((findConflict_eq_some_iff wellFormed found fits first second).1 conflict).equal
    exact ⟨symbol, held, rivalHeld, checkUnique_of_findConflict_eq_some conflict held⟩

/-- The band with equal values within its left box and across its lower row. -/
def crowdedBand : Grid .unsigned8 :=
  Grid.band (some Grid.one) none (some Grid.one) (some Grid.one)

/-- Under the boxes of the stepped band, the values of the left box clash first, though they
share neither row nor column. -/
theorem findConflict_crowdedBand :
    ∃ (layout : Layout) (symbol : Symbol .unsigned8), ofGrid steppedBand = .ok layout ∧
      layout.FirstClash crowdedBand ⟨0, 0⟩ ⟨1, 1⟩ ∧
      layout.checkUnique crowdedBand = .error (.invalid (.ofPosition ⟨0, 0⟩)
        (.duplicateValue ⟨0, 0⟩ ⟨1, 1⟩ symbol.text)) := by
  have searched : (do
      let layout ← ofGrid steppedBand
      .ok (layout.height, layout.width, layout.findConflict crowdedBand)) =
        .ok (2, 4, .ok (some (⟨0, 0⟩, ⟨1, 1⟩))) := by
    decide +kernel
  simp only [Error.bind_eq_ok_iff, Except.ok.injEq, Prod.mk.injEq] at searched
  obtain ⟨layout, found, heights, widths, conflict⟩ := searched
  obtain ⟨_, finds, _, _, blames⟩ := findConflict_exact built_steppedBand found crowdedBand
  obtain ⟨symbol, _, _, blamed⟩ := blames _ _ conflict
  exact ⟨layout, symbol, found,
    ((finds heights.symm widths.symm).2.1 _ _).1 conflict, blamed⟩

end Layout
end Sudoku
