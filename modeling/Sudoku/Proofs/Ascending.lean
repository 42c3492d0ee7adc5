import Mathlib.Data.List.Sort
import Sudoku.Ascending

/-!
# Ascending lists and arrays

Sorted numbers without repetitions ascend strictly, and they are the numbers that were
there before. Halving finds an item of an array whose items come in the order of their
comparison with it, and it finds no other item.
-/

namespace Sudoku
namespace Ascending

/-! ### Sorting -/

theorem insert_eq_orderedInsert (number : Nat) (numbers : List Nat) :
    insert number numbers = numbers.orderedInsert (· ≤ ·) number := by
  induction numbers with
  | nil => rfl
  | cons first rest inductionHypothesis =>
      rw [insert, List.orderedInsert_cons, inductionHypothesis]

theorem sort_eq_insertionSort (numbers : List Nat) :
    sort numbers = numbers.insertionSort (· ≤ ·) := by
  induction numbers with
  | nil => rfl
  | cons first rest inductionHypothesis =>
      rw [List.insertionSort_cons, ← inductionHypothesis, ← insert_eq_orderedInsert]
      rfl

/-- Sorting keeps the numbers. -/
@[simp] theorem mem_sort (number : Nat) (numbers : List Nat) :
    number ∈ sort numbers ↔ number ∈ numbers := by
  rw [sort_eq_insertionSort, List.mem_insertionSort]

/-- Sorting puts the numbers into order. -/
theorem pairwise_sort (numbers : List Nat) : (sort numbers).Pairwise (· ≤ ·) := by
  rw [sort_eq_insertionSort]
  exact List.pairwise_insertionSort _ _

/-! ### Repetitions -/

/-- Dropping repetitions keeps the numbers. -/
@[simp] theorem mem_dropRepeats (number : Nat) (numbers : List Nat) :
    number ∈ dropRepeats numbers ↔ number ∈ numbers := by
  fun_induction dropRepeats numbers with
  | case1 => rfl
  | case2 => rfl
  | case3 first rest inductionHypothesis => simp [inductionHypothesis]
  | case4 first second rest different inductionHypothesis =>
      rw [List.mem_cons, inductionHypothesis, ← List.mem_cons]

/-- Without repetitions, sorted numbers ascend strictly. -/
theorem pairwise_dropRepeats {numbers : List Nat} (sorted : numbers.Pairwise (· ≤ ·)) :
    (dropRepeats numbers).Pairwise (· < ·) := by
  fun_induction dropRepeats numbers with
  | case1 => exact .nil
  | case2 => exact List.pairwise_singleton _ _
  | case3 first rest inductionHypothesis =>
      exact inductionHypothesis (List.pairwise_cons.1 sorted).2
  | case4 first second rest different inductionHypothesis =>
      obtain ⟨least, restSorted⟩ := List.pairwise_cons.1 sorted
      refine List.pairwise_cons.2 ⟨fun other member => ?_, inductionHypothesis restSorted⟩
      rw [mem_dropRepeats] at member
      have beforeSecond := Nat.lt_of_le_of_ne (least second (by simp)) different
      rcases List.mem_cons.1 member with rfl | later
      · exact beforeSecond
      · exact Nat.lt_of_lt_of_le beforeSecond
          (List.rel_of_pairwise_cons restSorted later)

/-! ### Searching -/

section

variable {item : Type} {order : item → Ordering} {items : Array item}
  (ascending : items.toList.Pairwise fun first second =>
    order second ≠ .gt → order first = .lt)

include ascending

/-- An item before one that is not greater than what is looked for is smaller. -/
private theorem map_getElem?_eq_lt {first second : Nat} {found : Ordering}
    (before : first < second) (here : items[second]?.map order = some found)
    (notGreater : found ≠ .gt) : items[first]?.map order = some .lt := by
  obtain ⟨later, laterFound, rfl⟩ := Option.map_eq_some_iff.1 here
  obtain ⟨inside, rfl⟩ := Array.getElem?_eq_some_iff.1 laterFound
  have smaller := List.pairwise_iff_getElem.1 ascending first second
    (by rw [Array.length_toList]; omega) (by rwa [Array.length_toList]) before notGreater
  rw [Array.getElem?_eq_getElem (Nat.lt_trans before inside)]
  exact congrArg some smaller

/-- Halving a range of an array finds the place of the range whose item is looked for. -/
theorem bisect?_eq_some_iff_of_le {first last : Nat} (within : last ≤ items.size)
    (place : Nat) :
    bisect? order items first last = some place ↔
      first ≤ place ∧ place < last ∧ items[place]?.map order = some .eq := by
  have smaller {place other : Nat} {found : Ordering} (before : place < other)
      (here : items[other]?.map order = some found) (notGreater : found ≠ .gt) :=
    map_getElem?_eq_lt ascending before here notGreater
  fun_induction bisect? order items first last with
  | case1 first last proper middle absent =>
      have inside : middle < items.size := by omega
      simp [inside] at absent
  | case2 first last proper middle here inductionHypothesis =>
      refine (inductionHypothesis within).trans
        ⟨fun ⟨_, before, found⟩ => ⟨by omega, before, found⟩,
          fun ⟨_, before, found⟩ => ⟨?_, before, found⟩⟩
      -- Up to the middle all items are smaller.
      by_contra notAfter
      rcases Nat.lt_or_eq_of_le (show place ≤ middle by omega) with earlier | rfl
      · simp [smaller earlier here (by decide)] at found
      · simp [here] at found
  | case3 first last proper middle here inductionHypothesis =>
      refine (inductionHypothesis (by omega)).trans
        ⟨fun ⟨after, before, found⟩ => ⟨after, by omega, found⟩,
          fun ⟨after, _, found⟩ => ⟨after, ?_, found⟩⟩
      -- From the middle on no item is the one that is looked for.
      by_contra notBefore
      rcases Nat.lt_or_eq_of_le (show middle ≤ place by omega) with later | rfl
      · simp [smaller later found (by decide)] at here
      · simp [here] at found
  | case4 first last proper middle here =>
      rw [Option.some.injEq]
      constructor
      · rintro rfl
        exact ⟨by omega, by omega, here⟩
      · rintro ⟨_, _, found⟩
        rcases Nat.lt_trichotomy middle place with later | same | earlier
        · simp [smaller later found (by decide)] at here
        · exact same
        · simp [smaller earlier here (by decide)] at found
  | case5 first last improper => simp only [reduceCtorEq, false_iff]; omega

/-- Halving an array finds the place of the item that is looked for. -/
theorem bisect?_eq_some_iff (place : Nat) :
    bisect? order items 0 items.size = some place ↔
      items[place]?.map order = some .eq := by
  rw [bisect?_eq_some_iff_of_le ascending (Nat.le_refl _), and_iff_right (Nat.zero_le _),
    and_iff_right_iff_imp]
  intro found
  obtain ⟨_, here, _⟩ := Option.map_eq_some_iff.1 found
  exact (Array.getElem?_eq_some_iff.1 here).1

end

/-- Halving an ascending list of numbers tells whether a number is among them. -/
theorem isSome_bisect?_iff_mem {numbers : List Nat} (ascending : numbers.Pairwise (· < ·))
    (number : Nat) :
    (bisect? (compare · number) numbers.toArray 0 numbers.toArray.size).isSome = true ↔
      number ∈ numbers := by
  have smaller : numbers.Pairwise fun first second =>
      compare second number ≠ .gt → compare first number = .lt := by
    refine ascending.imp fun {first second} before notGreater => ?_
    rw [Nat.compare_ne_gt] at notGreater
    exact Nat.compare_eq_lt.2 (Nat.lt_of_lt_of_le before notGreater)
  rw [Option.isSome_iff_exists, List.mem_iff_getElem?]
  refine exists_congr fun place => (bisect?_eq_some_iff smaller place).trans ?_
  simp

end Ascending
end Sudoku
