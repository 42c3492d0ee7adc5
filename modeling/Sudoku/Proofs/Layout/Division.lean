import Sudoku.Proofs.Error
import Sudoku.Proofs.Layout.Block

/-!
# Dividing a grid into boxes

A division goes through the cells in row-major order and makes the block of each
cell without a box a box of its own. Its invariant says that every box is the
block of a cell whose shape all of its members share. A grid can be divided
exactly when every block is of one shape throughout, and then two cells have the
same box when one lies in the block of the other. No cell is ever boxed twice.
-/

namespace Sudoku

namespace Grid

variable {alphabet : Alphabet}

/-- Whether all cells of the block of a cell have its shape. -/
def UniformAt (grid : Grid alphabet) (number : Nat) : Prop :=
  ∀ member ∈ grid.block number, grid.shapeAt member = grid.shapeAt number

instance (grid : Grid alphabet) (number : Nat) : Decidable (grid.UniformAt number) :=
  inferInstanceAs (Decidable (∀ member ∈ grid.block number, _))

/-- The error for a cell whose shape differs from that of a block it lies in. -/
def shapeConflict (grid : Grid alphabet) (number member : Nat) : Error :=
  let position := Position.ofNumber grid.width member
  .invalid (.ofPosition position)
    (.conflictingBoxShape position (grid.shapeAt number) (grid.shapeAt member))

/-- A cell of a uniform block has a uniform block. -/
theorem UniformAt.of_mem_block {grid : Grid alphabet} (wellFormed : grid.WellFormed)
    {number member : Nat} (inside : number < grid.cellCount)
    (uniform : grid.UniformAt number) (belongs : member ∈ grid.block number) :
    grid.UniformAt member := by
  have sameShape := uniform member belongs
  intro other otherBelongs
  rw [sameShape]
  exact uniform other
    ((mem_block_congr wellFormed inside belongs sameShape other).1 otherBelongs)

end Grid

namespace Layout
namespace Division

variable {alphabet : Alphabet} {grid : Grid alphabet} {division : Division}

/-- A division whose boxes are uniform blocks, and whose cells know their box. -/
structure Sound (grid : Grid alphabet) (division : Division) : Prop where
  boxOf_size : division.boxOf.size = grid.cellCount
  ofBox : ∀ cell box, division.box? cell = some box →
    ∃ first, first < grid.cellCount ∧ grid.UniformAt first ∧
      division.boxes[box]? = some (grid.block first) ∧ cell ∈ grid.block first
  toBox : ∀ box cells cell, division.boxes[box]? = some cells → cell ∈ cells →
    division.box? cell = some box

/-- The division without boxes is sound. -/
theorem sound_start (grid : Grid alphabet) : Sound grid (start grid.cellCount) where
  boxOf_size := by simp [start]
  ofBox cell box found := by
    simp only [box?, start, Array.getD_eq_getD_getElem?, Array.getElem?_replicate] at found
    split at found <;> simp at found
  toBox box cells cell found := by simp [start] at found

/-- Setting the entries of some cells to one value. -/
private theorem getElem?_foldl_setIfInBounds {entry : Type} (entries : Array entry)
    (cells : List Nat) (value : entry) (cell : Nat) :
    (cells.foldl (fun entries cell => entries.setIfInBounds cell value) entries)[cell]? =
      if cell ∈ cells ∧ cell < entries.size then some value else entries[cell]? := by
  induction cells generalizing entries with
  | nil => simp
  | cons first rest inductionHypothesis =>
      rw [List.foldl_cons, inductionHypothesis, Array.size_setIfInBounds,
        Array.getElem?_setIfInBounds]
      by_cases same : first = cell
      · subst same
        by_cases inside : first < entries.size <;> simp [inside]
      · simp [same, Ne.symm same]

/-- Setting entries does not change how many there are. -/
private theorem size_foldl_setIfInBounds {entry : Type} (entries : Array entry)
    (cells : List Nat) (value : entry) :
    (cells.foldl (fun entries cell => entries.setIfInBounds cell value) entries).size =
      entries.size := by
  induction cells generalizing entries with
  | nil => rfl
  | cons first rest inductionHypothesis =>
      rw [List.foldl_cons, inductionHypothesis, Array.size_setIfInBounds]

/-- The division in which the given cells have the number of the next box. -/
def mark (division : Division) (members : List Nat) : Division :=
  { division with
    boxOf := members.foldl
      (fun boxOf member => boxOf.setIfInBounds member (some division.boxes.size))
      division.boxOf }

@[simp] theorem mark_nil (division : Division) : division.mark [] = division := rfl

/-- The marked cells have the number of the next box, and other cells keep theirs. -/
theorem box?_mark (division : Division) (members : List Nat) (cell : Nat) :
    (division.mark members).box? cell =
      if cell ∈ members ∧ cell < division.boxOf.size then some division.boxes.size
      else division.box? cell := by
  unfold box? mark
  rw [Array.getD_eq_getD_getElem?, getElem?_foldl_setIfInBounds,
    Array.getD_eq_getD_getElem?]
  split <;> rfl

/-- The division with the given cells as one more box. -/
def addBox (division : Division) (members : List Nat) : Division :=
  { division.mark members with boxes := division.boxes.push members }

/-- Adding a box adds no cells. -/
theorem boxOf_size_addBox (division : Division) (members : List Nat) :
    (division.addBox members).boxOf.size = division.boxOf.size :=
  size_foldl_setIfInBounds _ _ _

/-- The members of an added box have its number, and other cells keep theirs. -/
theorem box?_addBox (division : Division) (members : List Nat) (cell : Nat) :
    (division.addBox members).box? cell =
      if cell ∈ members ∧ cell < division.boxOf.size then some division.boxes.size
      else division.box? cell :=
  box?_mark division members cell

/-- Adding a uniform block, none of whose cells has a box, keeps a division sound. -/
theorem Sound.addBox (sound : Sound grid division) (wellFormed : grid.WellFormed)
    {cell : Nat} (inside : cell < grid.cellCount) (uniform : grid.UniformAt cell)
    (free : ∀ member ∈ grid.block cell, division.box? member = none) :
    Sound grid (division.addBox (grid.block cell)) := by
  refine ⟨(boxOf_size_addBox _ _).trans sound.boxOf_size, ?_, ?_⟩
  · intro other box found
    rw [box?_addBox] at found
    split at found
    · next member =>
        simp only [Option.some.injEq] at found
        subst found
        exact ⟨cell, inside, uniform, by simp [Division.addBox], member.1⟩
    · obtain ⟨first, firstInside, firstUniform, boxFound, belongs⟩ :=
        sound.ofBox other box found
      refine ⟨first, firstInside, firstUniform, ?_, belongs⟩
      have old : box < division.boxes.size := (Array.getElem?_eq_some_iff.1 boxFound).1
      simpa [Division.addBox, Array.getElem?_push, Nat.ne_of_lt old] using boxFound
  · intro box cells other found belongs
    rw [box?_addBox]
    simp only [Division.addBox, Array.getElem?_push] at found
    split at found
    · next new =>
        simp only [Option.some.injEq] at found
        subst found
        have otherInside := Grid.lt_cellCount_of_mem_block wellFormed inside belongs
        rw [← sound.boxOf_size] at otherInside
        simp [belongs, otherInside, new]
    · have boxed := sound.toBox box cells other found belongs
      have notMember : other ∉ grid.block cell := by
        intro member
        rw [free other member] at boxed
        simp at boxed
      simp [notMember, boxed]

/-- In a sound division, the cells of a uniform block around a cell without a box
have no box either. -/
theorem Sound.box?_eq_none_of_mem_block (sound : Sound grid division)
    (wellFormed : grid.WellFormed) {cell member : Nat} (inside : cell < grid.cellCount)
    (free : division.box? cell = none) (belongs : member ∈ grid.block cell)
    (sameShape : grid.shapeAt member = grid.shapeAt cell) :
    division.box? member = none := by
  by_contra boxed
  obtain ⟨box, found⟩ := Option.ne_none_iff_exists'.1 boxed
  obtain ⟨first, firstInside, firstUniform, boxFound, firstBelongs⟩ :=
    sound.ofBox member box found
  -- The block of the member is both that of the cell and that of its box.
  have cellInFirst : cell ∈ grid.block first := by
    rw [← Grid.mem_block_congr wellFormed firstInside firstBelongs
      (firstUniform member firstBelongs)]
    rw [Grid.mem_block_congr wellFormed inside belongs sameShape]
    exact Grid.mem_block_self wellFormed inside
  rw [sound.toBox box _ cell boxFound cellInFirst] at free
  simp at free

/-! ### Boxes and their cells -/

/-- A division in which a cell has a box exactly when it is a cell of the box. -/
structure Consistent (division : Division) (cellCount : Nat) : Prop where
  boxOf_size : division.boxOf.size = cellCount
  box?_eq_some_iff : ∀ cell box, division.box? cell = some box ↔
    ∃ cells, division.boxes[box]? = some cells ∧ cell ∈ cells

namespace Consistent

variable {cellCount : Nat} (consistent : Consistent division cellCount)

include consistent

/-- Only cells of the grid have boxes. -/
theorem lt_of_box? {cell box : Nat} (found : division.box? cell = some box) :
    cell < cellCount := by
  rw [← consistent.boxOf_size]
  by_contra outside
  simp [box?, Array.getD_eq_getD_getElem?, outside] at found

/-- The box of a cell has the cells whose box it is. -/
theorem mem_boxAround_iff (cell other : Nat) :
    other ∈ division.boxAround cell ↔
      ∃ box, division.box? cell = some box ∧ division.box? other = some box := by
  unfold boxAround
  cases found : division.box? cell with
  | none => simp
  | some box =>
      obtain ⟨cells, boxFound, _⟩ := (consistent.box?_eq_some_iff cell box).1 found
      simp [boxFound, consistent.box?_eq_some_iff]

/-- Adding a box of cells of the grid that have none keeps a division consistent. -/
theorem addBox {members : List Nat} (inside : ∀ member ∈ members, member < cellCount)
    (free : ∀ member ∈ members, division.box? member = none) :
    Consistent (division.addBox members) cellCount := by
  refine ⟨(boxOf_size_addBox _ _).trans consistent.boxOf_size, fun cell box => ?_⟩
  have boxed := consistent.box?_eq_some_iff cell box
  have fresh : division.boxes[division.boxes.size]? = none := by simp
  rw [box?_addBox, consistent.boxOf_size]
  simp only [Division.addBox, Array.getElem?_push]
  by_cases member : cell ∈ members
  · rw [if_pos ⟨member, inside cell member⟩, Option.some.injEq]
    split
    · next isNew => simp [isNew, member]
    · next isOld =>
        rw [free cell member, iff_false_left (by simp)] at boxed
        exact iff_of_false (Ne.symm isOld) boxed
  · rw [if_neg fun both => member both.1]
    split
    · next isNew =>
        subst isNew
        rw [boxed, fresh]
        simp [member]
    · exact boxed

end Consistent

/-- The division without boxes is consistent. -/
theorem consistent_start (cellCount : Nat) : Consistent (start cellCount) cellCount where
  boxOf_size := by simp [start]
  box?_eq_some_iff cell box := by
    simp [box?, start, Array.getD_eq_getD_getElem?, Array.getElem?_replicate]
    split <;> simp

/-- A position that joins a box is that of a cell of the grid without a box. -/
theorem join_eq_ok {expected : BoxShape} {position : Position} {next : Division}
    (joined : join grid expected division position = .ok next) :
    grid.contains position = true ∧ division.box? (position.number grid.width) = none ∧
      next = division.mark [position.number grid.width] := by
  unfold join checkShape at joined
  rw [Error.bind_eq_ok_iff] at joined
  obtain ⟨_, checked, joined⟩ := joined
  rw [Error.bind_eq_ok_iff] at checked
  obtain ⟨shape, shapeFound, _⟩ := checked
  dsimp only at joined
  split at joined
  · simp at joined
  · next unboxed =>
      refine ⟨?_, Option.not_isSome_iff_eq_none.1 unboxed, (Except.ok.inj joined).symm⟩
      by_contra outside
      simp [Grid.boxShape, Grid.cell, outside, Except.map] at shapeFound

/-- Positions that join a box one after another are those of cells of the grid without a
box, and become marked. -/
theorem foldlM_join_eq_ok {expected : BoxShape} {earlier : List Nat} {positions : List Position}
    {next : Division}
    (joined : positions.foldlM (join grid expected) (division.mark earlier) = .ok next) :
    (∀ position ∈ positions, grid.contains position = true ∧
      (division.mark earlier).box? (position.number grid.width) = none) ∧
    next = division.mark (earlier ++ positions.map (Position.number grid.width)) := by
  induction positions generalizing earlier with
  | nil => exact ⟨by simp, by rw [← Except.ok.inj joined]; simp⟩
  | cons position rest inductionHypothesis =>
      rw [List.foldlM_cons, Error.bind_eq_ok_iff] at joined
      obtain ⟨middle, first, joined⟩ := joined
      obtain ⟨contained, free, rfl⟩ := join_eq_ok first
      have marked : (division.mark earlier).mark [position.number grid.width] =
          division.mark (earlier ++ [position.number grid.width]) := by
        simp [mark]
      rw [marked] at joined
      obtain ⟨restFree, rfl⟩ := inductionHypothesis joined
      refine ⟨List.forall_mem_cons.2 ⟨⟨contained, free⟩, fun other member => ?_⟩, by simp⟩
      obtain ⟨otherContained, otherFree⟩ := restFree other member
      refine ⟨otherContained, ?_⟩
      rw [← marked, box?_mark] at otherFree
      split at otherFree
      · simp at otherFree
      · exact otherFree

/-- Taking in a cell keeps a division consistent, whatever the shapes of the grid. -/
theorem Consistent.extend {cell : Nat} {next : Division}
    (consistent : Consistent division grid.cellCount)
    (extended : Division.extend grid division cell = .ok next) :
    Consistent next grid.cellCount := by
  unfold Division.extend at extended
  split at extended
  · rwa [← Except.ok.inj extended]
  · dsimp only at extended
    rw [Error.bind_eq_ok_iff] at extended
    obtain ⟨shape, _, extended⟩ := extended
    rw [Error.bind_eq_ok_iff] at extended
    obtain ⟨joined, members, same⟩ := extended
    rw [← mark_nil division] at members
    obtain ⟨free, rfl⟩ := foldlM_join_eq_ok members
    rw [← Except.ok.inj same]
    refine consistent.addBox (List.forall_mem_map.2 fun position member => ?_)
      (List.forall_mem_map.2 fun position member => (free position member).2)
    obtain ⟨number, inside, rfl⟩ := (Grid.contains_iff position).1 (free position member).1
    rwa [Position.number_ofNumber]

/-- A grid is divided consistently. -/
theorem consistent_of_ofGrid (divided : ofGrid grid = .ok division) :
    Consistent division grid.cellCount :=
  Error.foldlM_induction (Consistent · grid.cellCount) (fun _ _ _ => Consistent.extend)
    (consistent_start grid.cellCount) divided

/-! ### Taking in a cell -/

/-- What keeps a cell from joining a box of the expected shape. -/
def memberFlaw? (division : Division) (grid : Grid alphabet) (expected : BoxShape)
    (member : Nat) : Option Error :=
  let found := grid.shapeAt member
  let position := Position.ofNumber grid.width member
  if found ≠ expected then
    some (.invalid (.ofPosition position) (.conflictingBoxShape position expected found))
  else if (division.box? member).isSome then some (.internal .cellBoxedTwice)
  else none

/-- A cell joins a box when it has the shape of the box and no box yet. -/
theorem memberFlaw?_eq_none_iff (expected : BoxShape) (member : Nat) :
    division.memberFlaw? grid expected member = none ↔
      grid.shapeAt member = expected ∧ division.box? member = none := by
  rw [memberFlaw?]
  split
  · next different => simp [different]
  · next sameShape =>
      split
      · next boxed =>
          rw [Option.isSome_iff_ne_none] at boxed
          simp [boxed]
      · next unboxed =>
          rw [Option.not_isSome_iff_eq_none] at unboxed
          simp [not_not.1 sameShape, unboxed]

/-- A cell of the grid joins a box, unless a flaw keeps it from doing so. Its position is
inside the grid, so the shape there is found. -/
theorem join_ofNumber (expected : BoxShape) (division : Division) {member : Nat}
    (inside : member < grid.cellCount) :
    join grid expected division (.ofNumber grid.width member) =
      match division.memberFlaw? grid expected member with
      | some error => .error error
      | none => .ok (division.mark [member]) := by
  rw [join, checkShape, Grid.boxShape_ofNumber inside, Position.number_ofNumber, memberFlaw?]
  by_cases different : grid.shapeAt member = expected
  · by_cases boxed : (division.box? member).isSome = true
    · simp [different, boxed, bind, Except.bind]
    · simp [different, boxed, bind, Except.bind, mark]
  · simp [different, bind, Except.bind]

/-- Different cells of the grid join a box up to the first that a flaw keeps from doing so.
Those that have joined are no flaws of the others. -/
theorem foldlM_join (expected : BoxShape) (division : Division) {earlier members : List Nat}
    (distinct : (earlier ++ members).Nodup) (inside : ∀ member ∈ members, member < grid.cellCount) :
    (members.map (.ofNumber grid.width)).foldlM (join grid expected) (division.mark earlier) =
      match members.findSome? (division.memberFlaw? grid expected) with
      | some error => .error error
      | none => .ok (division.mark (earlier ++ members)) := by
  induction members generalizing earlier with
  | nil => rw [List.append_nil]; rfl
  | cons member rest inductionHypothesis =>
      have notEarlier : member ∉ earlier := fun repeated =>
        (List.nodup_append.1 distinct).2.2 member repeated member List.mem_cons_self rfl
      have sameFlaw : (division.mark earlier).memberFlaw? grid expected member =
          division.memberFlaw? grid expected member := by
        simp [memberFlaw?, box?_mark, notEarlier]
      have marked : (division.mark earlier).mark [member] =
          division.mark (earlier ++ [member]) := by
        simp [mark]
      rw [List.map_cons, List.foldlM_cons, join_ofNumber _ _ (inside member List.mem_cons_self),
        List.findSome?_cons, sameFlaw]
      cases division.memberFlaw? grid expected member with
      | some error => rfl
      | none =>
          rw [List.append_cons] at distinct ⊢
          rw [← inductionHypothesis distinct fun other member =>
            inside other (List.mem_cons_of_mem _ member), ← marked]
          rfl

/-- A cell without a box is taken in when all cells of its block join one. The block stays
within the grid, so no shape is looked up outside of it. -/
theorem extend_eq (wellFormed : grid.WellFormed) {cell : Nat} (inside : cell < grid.cellCount)
    (division : Division) :
    extend grid division cell =
      if (division.box? cell).isSome then .ok division
      else
        match (grid.block cell).findSome?
          (division.memberFlaw? grid (grid.shapeAt cell)) with
        | some error => .error error
        | none => .ok (division.addBox (grid.block cell)) := by
  have distinct : ([] ++ grid.block cell).Nodup :=
    (Grid.pairwise_block wellFormed cell).imp Nat.ne_of_lt
  have joined := foldlM_join (grid.shapeAt cell) division distinct fun member belongs =>
    Grid.lt_cellCount_of_mem_block wellFormed inside belongs
  rw [Grid.map_ofNumber_block wellFormed inside, mark_nil] at joined
  unfold extend
  refine if_congr Iff.rfl rfl ?_
  dsimp only
  rw [Grid.boxShape_ofNumber inside]
  simp only [bind, Except.bind] at joined ⊢
  rw [joined]
  cases (grid.block cell).findSome? (division.memberFlaw? grid (grid.shapeAt cell)) <;> rfl

section

variable (wellFormed : grid.WellFormed) {cell : Nat} (inside : cell < grid.cellCount)

include wellFormed inside

/-- A cell is taken into a division when it has a box already, or when all cells of
its block join one. -/
theorem extend_eq_ok {next : Division} (extended : extend grid division cell = .ok next) :
    (division.box? cell).isSome = true ∧ next = division ∨
    (∀ member ∈ grid.block cell,
      grid.shapeAt member = grid.shapeAt cell ∧ division.box? member = none) ∧
    next = division.addBox (grid.block cell) := by
  rw [extend_eq wellFormed inside] at extended
  split at extended
  · next boxed => exact .inl ⟨boxed, (Except.ok.inj extended).symm⟩
  · split at extended
    · simp at extended
    · next noFlaw =>
        refine .inr ⟨fun member belongs => ?_, (Except.ok.inj extended).symm⟩
        exact (memberFlaw?_eq_none_iff _ member).1
          (List.findSome?_eq_none_iff.1 noFlaw member belongs)

/-- A cell is not taken into a division when it has no box, and a cell of its block does
not join one. -/
theorem extend_eq_error {error : Error} (extended : extend grid division cell = .error error) :
    division.box? cell = none ∧
      (grid.block cell).findSome? (division.memberFlaw? grid (grid.shapeAt cell)) =
        some error := by
  rw [extend_eq wellFormed inside] at extended
  split at extended
  · simp at extended
  · next unboxed =>
      refine ⟨Option.not_isSome_iff_eq_none.1 unboxed, ?_⟩
      split at extended
      · next flaw found => rw [found, Except.error.inj extended]
      · simp at extended

end

/-- How one cell is taken into a division. -/
inductive Extension (grid : Grid alphabet) (division : Division) (cell : Nat) :
    Except Error Division → Prop
  | divided (next : Division) (sound : Sound grid next)
      (boxed : (next.box? cell).isSome = true)
      (keeps : ∀ other, (division.box? other).isSome = true →
        (next.box? other).isSome = true) :
      Extension grid division cell (.ok next)
  | conflict (member : Nat) (belongs : member ∈ grid.block cell)
      (different : grid.shapeAt member ≠ grid.shapeAt cell) :
      Extension grid division cell (.error (grid.shapeConflict cell member))

/-- A cell is taken into a sound division, unless a member of its block has
another shape. -/
theorem Sound.extend (sound : Sound grid division) (wellFormed : grid.WellFormed)
    {cell : Nat} (inside : cell < grid.cellCount) :
    Extension grid division cell (extend grid division cell) := by
  cases extended : Division.extend grid division cell with
  | ok next =>
      rcases extend_eq_ok wellFormed inside extended with ⟨boxed, rfl⟩ | ⟨members, rfl⟩
      · exact .divided _ sound boxed fun _ => id
      · refine .divided _ (sound.addBox wellFormed inside
          (fun member belongs => (members member belongs).1)
          fun member belongs => (members member belongs).2) ?_ fun other boxed => ?_
        · have selfMember := Grid.mem_block_self wellFormed inside
          rw [← sound.boxOf_size] at inside
          simp [box?_addBox, selfMember, inside]
        · rw [box?_addBox]
          split
          · rfl
          · exact boxed
  | error error =>
      obtain ⟨unboxed, flawed⟩ := extend_eq_error wellFormed inside extended
      obtain ⟨member, belongs, flaw⟩ := List.exists_of_findSome?_eq_some flawed
      rw [memberFlaw?] at flaw
      split at flaw
      · next different =>
          simp only [Option.some.injEq] at flaw
          rw [← flaw]
          exact .conflict member belongs different
      · next sameShape =>
          have memberFree := sound.box?_eq_none_of_mem_block wellFormed inside unboxed
            belongs (not_not.1 sameShape)
          simp [memberFree] at flaw

/-- Cells are taken into a sound division one by one, up to the first whose block
has a member of another shape. -/
theorem Sound.foldlM_extend (sound : Sound grid division) (wellFormed : grid.WellFormed)
    {cells : List Nat} (inside : ∀ cell ∈ cells, cell < grid.cellCount) :
    (∃ last, cells.foldlM (Division.extend grid) division = .ok last ∧ Sound grid last ∧
      (∀ cell ∈ cells, (last.box? cell).isSome = true) ∧
      ∀ other, (division.box? other).isSome = true → (last.box? other).isSome = true) ∨
    ∃ cell ∈ cells, ∃ member ∈ grid.block cell,
      grid.shapeAt member ≠ grid.shapeAt cell ∧
      cells.foldlM (Division.extend grid) division =
        .error (grid.shapeConflict cell member) := by
  induction cells generalizing division with
  | nil => exact .inl ⟨division, rfl, sound, by simp, fun _ => id⟩
  | cons cell rest inductionHypothesis =>
      have extension := sound.extend wellFormed (inside cell (by simp))
      rw [List.foldlM_cons]
      generalize Division.extend grid division cell = result at extension ⊢
      cases extension with
      | conflict member belongs different =>
          exact .inr ⟨cell, by simp, member, belongs, different, rfl⟩
      | divided next nextSound boxed keeps =>
          rcases inductionHypothesis nextSound
            (fun other member => inside other (by simp [member])) with
            ⟨last, divided, lastSound, restBoxed, restKeeps⟩ |
            ⟨other, member, conflict⟩
          · refine .inl ⟨last, divided, lastSound, fun other member => ?_,
              fun other otherBoxed => restKeeps other (keeps other otherBoxed)⟩
            rcases List.mem_cons.1 member with rfl | member
            · exact restKeeps other boxed
            · exact restBoxed other member
          · exact .inr ⟨other, List.mem_cons_of_mem _ member, conflict⟩

/-- A well-formed grid is divided soundly, with a box for every cell, or a member
of a block has another shape. -/
theorem ofGrid_cases (wellFormed : grid.WellFormed) :
    (∃ division, ofGrid grid = .ok division ∧ Sound grid division ∧
      ∀ cell < grid.cellCount, (division.box? cell).isSome = true) ∨
    ∃ cell < grid.cellCount, ∃ member ∈ grid.block cell,
      grid.shapeAt member ≠ grid.shapeAt cell ∧
      ofGrid grid = .error (grid.shapeConflict cell member) := by
  have inside : ∀ cell ∈ List.range grid.cellCount, cell < grid.cellCount := by simp
  rcases (sound_start grid).foldlM_extend wellFormed inside with
    ⟨last, divided, sound, boxed, _⟩ | ⟨cell, inside, conflict⟩
  · exact .inl ⟨last, divided, sound, by simpa using boxed⟩
  · exact .inr ⟨cell, by simpa using inside, conflict⟩

/-- The block of a cell with a box is uniform. -/
theorem Sound.uniformAt (sound : Sound grid division) (wellFormed : grid.WellFormed)
    {cell : Nat} (boxed : (division.box? cell).isSome = true) :
    grid.UniformAt cell := by
  obtain ⟨box, found⟩ := Option.isSome_iff_exists.1 boxed
  obtain ⟨first, inside, uniform, _, belongs⟩ := sound.ofBox cell box found
  exact uniform.of_mem_block wellFormed inside belongs

/-- The box of a cell consists of the block of the cell. -/
theorem Sound.boxes_getElem? (sound : Sound grid division) (wellFormed : grid.WellFormed)
    {cell box : Nat} (boxed : division.box? cell = some box) :
    division.boxes[box]? = some (grid.block cell) := by
  obtain ⟨first, inside, uniform, boxFound, belongs⟩ := sound.ofBox cell box boxed
  rw [boxFound, Grid.block_congr wellFormed inside belongs (uniform cell belongs)]

/-- Two cells have the same box exactly when one lies in the block of the other. -/
theorem Sound.box?_eq_iff (sound : Sound grid division) (wellFormed : grid.WellFormed)
    {first second : Nat} (boxed : (division.box? first).isSome = true) :
    division.box? first = division.box? second ↔ second ∈ grid.block first := by
  obtain ⟨box, found⟩ := Option.isSome_iff_exists.1 boxed
  obtain ⟨corner, inside, uniform, boxFound, belongs⟩ := sound.ofBox first box found
  have sameBlock := Grid.mem_block_congr wellFormed inside belongs
    (uniform first belongs) second
  rw [found, sameBlock]
  constructor
  · intro shared
    obtain ⟨other, _, _, otherFound, otherBelongs⟩ :=
      sound.ofBox second box shared.symm
    rw [boxFound, Option.some.injEq] at otherFound
    rw [otherFound]
    exact otherBelongs
  · intro secondBelongs
    exact (sound.toBox box _ second boxFound secondBelongs).symm

end Division
end Layout
end Sudoku
