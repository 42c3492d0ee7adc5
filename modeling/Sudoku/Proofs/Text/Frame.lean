import Mathlib.Data.List.Basic

/-!
# Frames

A frame has segments with separators between them and an entry at each of its ends. Each
segment has one separator or the first entry in front of it. When the segments are equally
long, the frame therefore consists of blocks of one length and its last entry, so that the
place of a separator or of a segment is its number times that length.
-/

namespace Sudoku
namespace Text

variable {entry : Type} {count size number : Nat}

/-- So many segments with separators between them, in a frame. -/
def framed (count : Nat) (first last : entry) (separator : Nat → entry)
    (segment : Nat → List entry) : List entry :=
  first ::
    ((List.range count).flatMap fun number =>
      if number = 0 then segment number else separator (number - 1) :: segment number) ++
    [last]

/-- What stands before a segment: the separator after the segment before it, or the first
entry of the frame. -/
def lead (first : entry) (separator : Nat → entry) : Nat → entry
  | 0 => first
  | number + 1 => separator number

/-- The entries of a frame are its ends, the separators and what the segments consist of. -/
theorem mem_framed {member first last : entry} {separator : Nat → entry}
    {segment : Nat → List entry}
    (inside : member ∈ framed count first last separator segment) :
    member = first ∨ member = last ∨ (∃ number, member = separator number) ∨
      ∃ number, member ∈ segment number := by
  rcases List.mem_append.1 inside with block | isLast
  swap
  · exact .inr (.inl (List.mem_singleton.1 isLast))
  rcases List.mem_cons.1 block with isFirst | block
  · exact .inl isFirst
  obtain ⟨number, _, block⟩ := List.mem_flatMap.1 block
  split at block
  · exact .inr (.inr (.inr ⟨number, block⟩))
  · rcases List.mem_cons.1 block with isSeparator | inSegment
    · exact .inr (.inr (.inl ⟨number - 1, isSeparator⟩))
    · exact .inr (.inr (.inr ⟨number, inSegment⟩))

/-- A frame consists of the blocks of a lead and a segment, and its last entry. -/
theorem framed_eq (positive : 0 < count) (first last : entry) (separator : Nat → entry)
    (segment : Nat → List entry) :
    framed count first last separator segment =
      (List.range count).flatMap (fun number =>
        lead first separator number :: segment number) ++ [last] := by
  obtain ⟨others, rfl⟩ := Nat.exists_eq_add_of_lt positive
  rw [framed, Nat.zero_add, List.range_succ_eq_map, List.flatMap_cons, List.flatMap_cons,
    List.flatMap_map, List.flatMap_map]
  rfl

variable (first last : entry) (separator : Nat → entry) {segment : Nat → List entry}
  (positive : 0 < count) (sizes : ∀ number, (segment number).length = size)

include positive sizes

/-- Segments of one length make a frame of a multiple of the length of their blocks. -/
theorem length_framed :
    (framed count first last separator segment).length = count * (size + 1) + 1 := by
  rw [framed_eq positive]
  simp [List.length_flatMap, sizes]

/-- The block of a segment stands after as many blocks as its number says. -/
theorem exists_framed_eq (inside : number < count) :
    ∃ before after, framed count first last separator segment =
        before ++ lead first separator number :: segment number ++ after ∧
      before.length = number * (size + 1) := by
  obtain ⟨others, rfl⟩ := Nat.exists_eq_add_of_lt inside
  rw [framed_eq positive, Nat.add_right_comm, List.range_add, List.range_succ,
    List.flatMap_append, List.flatMap_append, List.flatMap_singleton, List.append_assoc]
  refine ⟨_, _, rfl, ?_⟩
  simp [List.length_flatMap, sizes]

/-- The separators of a frame stand in front of the blocks. -/
theorem getElem?_framed (inside : number < count) :
    (framed count first last separator segment)[number * (size + 1)]? =
      some (lead first separator number) := by
  obtain ⟨before, after, split, place⟩ := exists_framed_eq first last separator
    positive sizes inside
  rw [split, ← place, List.append_assoc, List.getElem?_append_right (Nat.le_refl _),
    Nat.sub_self]
  rfl

/-- The rest of a block is its segment. -/
theorem take_drop_framed (inside : number < count) :
    ((framed count first last separator segment).drop (number * (size + 1) + 1)).take size =
      segment number := by
  obtain ⟨before, after, split, place⟩ := exists_framed_eq first last separator
    positive sizes inside
  rw [split, ← place, List.append_assoc, List.drop_length_add_append, List.cons_append,
    List.drop_one, List.tail_cons, List.take_left' (sizes number)]

end Text
end Sudoku
