import Mathlib.Data.List.Duplicate
import Sudoku.Proofs.Domain.Existence

/-!
# The indices of a domain

A list of symbols makes a domain unless it is empty or repeats a symbol, and of several
repeated symbols the smallest is blamed. The values of a domain are numbered in ascending
order, so that a symbol can be looked up by halving the range of the indices it may have.
The default domain numbers the integers from one up.
-/

namespace Sudoku
namespace Domain

variable {alphabet : Alphabet}

/-! ### Repeated symbols -/

/-- The smallest of the symbols that a list has more than once. -/
structure LeastRepeated (listed : List (Symbol alphabet)) (symbol : Symbol alphabet) :
    Prop where
  repeated : listed.Duplicate symbol
  least : ∀ other, listed.Duplicate other → symbol.value ≤ other.value

/-- No two symbols are the smallest. -/
theorem LeastRepeated.unique {listed : List (Symbol alphabet)}
    {first second : Symbol alphabet} (isFirst : LeastRepeated listed first)
    (isSecond : LeastRepeated listed second) : first = second :=
  Symbol.eq_of_value_eq (Int.le_antisymm (isFirst.least second isSecond.repeated)
    (isSecond.least first isFirst.repeated))

/-- Lists that repeat the same symbols have the same smallest one. -/
theorem leastRepeated_congr {first second : List (Symbol alphabet)}
    (repeats : ∀ other, first.Duplicate other ↔ second.Duplicate other)
    (symbol : Symbol alphabet) : LeastRepeated first symbol ↔ LeastRepeated second symbol := by
  constructor
  · rintro ⟨isRepeated, least⟩
    exact ⟨(repeats symbol).1 isRepeated,
      fun other again => least other ((repeats other).2 again)⟩
  · rintro ⟨isRepeated, least⟩
    exact ⟨(repeats symbol).2 isRepeated,
      fun other again => least other ((repeats other).1 again)⟩

/-- The smallest repeated symbol does not depend on the order of the list. -/
theorem leastRepeated_iff_of_perm {first second : List (Symbol alphabet)}
    (perm : first.Perm second) (symbol : Symbol alphabet) :
    LeastRepeated first symbol ↔ LeastRepeated second symbol := by
  refine leastRepeated_congr (fun other => ?_) symbol
  rw [List.duplicate_iff_two_le_count, List.duplicate_iff_two_le_count, perm.count_eq]

/-- A symbol below all others of a list is not repeated, and makes no other symbol so. -/
private theorem duplicate_cons_iff_of_lt {first : Symbol alphabet}
    {rest : List (Symbol alphabet)} (below : ∀ other ∈ rest, first.value < other.value)
    (symbol : Symbol alphabet) :
    (first :: rest).Duplicate symbol ↔ rest.Duplicate symbol := by
  rw [List.duplicate_cons_iff]
  refine or_iff_right ?_
  rintro ⟨rfl, member⟩
  exact Int.lt_irrefl _ (below _ member)

/-- The first of equal neighbours in a sorted list is the smallest repeated symbol. -/
theorem repeated?_eq_some_iff {symbols : List (Symbol alphabet)}
    (sorted : symbols.Pairwise fun first second => first.value ≤ second.value)
    (symbol : Symbol alphabet) :
    repeated? symbols = some symbol ↔ LeastRepeated symbols symbol := by
  fun_induction repeated? symbols with
  | case1 =>
      exact iff_of_false (by simp) fun least => List.not_duplicate_nil _ least.repeated
  | case2 =>
      exact iff_of_false (by simp) fun least =>
        List.not_duplicate_singleton _ _ least.repeated
  | case3 first rest =>
      have least : LeastRepeated (first :: first :: rest) first := by
        refine ⟨List.mem_cons_self.duplicate_cons_self, fun other again => ?_⟩
        rcases List.mem_cons.1 again.mem with rfl | later
        · exact Int.le_refl _
        · exact List.rel_of_pairwise_cons sorted later
      rw [Option.some.injEq]
      exact ⟨fun same => same ▸ least, least.unique⟩
  | case4 first second rest different restHypothesis =>
      obtain ⟨above, restSorted⟩ := List.pairwise_cons.1 sorted
      have unequal : first.value ≠ second.value := mt Symbol.eq_of_value_eq different
      have below : ∀ other ∈ second :: rest, first.value < other.value := by
        intro other member
        have firstStep := above second List.mem_cons_self
        rcases List.mem_cons.1 member with rfl | later
        · omega
        · have secondStep := List.rel_of_pairwise_cons restSorted later
          omega
      rw [restHypothesis restSorted]
      exact leastRepeated_congr
        (fun other => (duplicate_cons_iff_of_lt below other).symm) symbol

/-- A list of symbols is empty, or its smallest repeated symbol is blamed, or it has no
repeated symbol and makes a domain. -/
theorem ofList_cases (listed : List (Symbol alphabet)) :
    (listed = [] ∧ ofList listed = .error (.malformed .unknown .emptyDomain)) ∨
    (∃ symbol, LeastRepeated listed symbol ∧
      ofList listed = .error (.malformed .unknown (.duplicateDomainValue symbol.text))) ∨
    (listed ≠ [] ∧ listed.Nodup ∧
      ∃ domain : Domain alphabet, ofList listed = .ok domain ∧ domain.listed = listed) := by
  by_cases nonempty : listed = []
  · exact .inl ⟨nonempty, by rw [ofList, dif_pos nonempty]⟩
  · cases found : repeated? (sort listed) with
    | some symbol =>
        have least := (repeated?_eq_some_iff (pairwise_sort listed) symbol).1 found
        rw [leastRepeated_iff_of_perm (sort_perm listed)] at least
        refine .inr (.inl ⟨symbol, least, ?_⟩)
        rw [ofList, dif_neg nonempty]
        split
        · next blamed same =>
            rw [found, Option.some.injEq] at same
            rw [same]
        · next none =>
            rw [found] at none
            simp at none
    | none =>
        have ascending := pairwise_lt_of_repeated?_eq_none (pairwise_sort listed) found
        have distinct : listed.Nodup := by
          refine (sort_perm listed).nodup_iff.1 (ascending.imp ?_)
          rintro first _ before rfl
          omega
        obtain ⟨domain, lists⟩ := (exists_listed_eq_iff listed).2 ⟨nonempty, distinct⟩
        have made := (ofList_eq_ok_iff listed domain).2 lists
        exact .inr (.inr ⟨nonempty, distinct, domain, made, lists⟩)

/-! ### Looking up a symbol -/

/-- Smaller values have smaller indices. -/
theorem index_lt_of_value?_lt {domain : Domain alphabet} {first second : Symbol alphabet}
    {firstIndex secondIndex : Nat} (firstNamed : domain.value? firstIndex = some first)
    (secondNamed : domain.value? secondIndex = some second)
    (less : first.value < second.value) : firstIndex < secondIndex := by
  rcases Nat.lt_trichotomy firstIndex secondIndex with before | rfl | after
  · exact before
  · rw [firstNamed, Option.some.injEq] at secondNamed
    rw [secondNamed] at less
    omega
  · have greater := value_lt_of_value? secondNamed firstNamed after
    omega

/-- The order of indices is that of values. -/
theorem index_lt_index_iff {domain : Domain alphabet} {first second : Symbol alphabet}
    {firstIndex secondIndex : Nat} (firstFound : domain.index? first = some firstIndex)
    (secondFound : domain.index? second = some secondIndex) :
    firstIndex < secondIndex ↔ first.value < second.value := by
  have firstNamed := value?_of_index? firstFound
  have secondNamed := value?_of_index? secondFound
  exact ⟨value_lt_of_value? firstNamed secondNamed,
    index_lt_of_value?_lt firstNamed secondNamed⟩

/-- Halving the range of the indices finds what going through the values would. -/
theorem index?_eq_idxOf? (domain : Domain alphabet) (symbol : Symbol alphabet) :
    domain.index? symbol = domain.values.idxOf? symbol := by
  have found {index : Nat} (first : domain.values.idxOf? symbol = some index) :
      domain.index? symbol = some index := by
    rw [← domain.values.toArray_toList, List.idxOf?_toArray] at first
    obtain ⟨inside, here, _⟩ := List.idxOf?_eq_some_iff.1 first
    exact index?_eq_some_iff.2
      (Array.getElem?_eq_some_iff.2 ⟨by simpa using inside, by simpa using here⟩)
  cases first : domain.values.idxOf? symbol with
  | some index => exact found first
  | none =>
      rw [Option.eq_none_iff_forall_not_mem]
      intro index here
      have member := Array.mem_of_getElem? (value?_of_index? here)
      rw [← Array.isSome_idxOf?, first] at member
      simp at member

/-! ### The default domain -/

/-- The values of the default domain are the integers from one up. -/
theorem values_of_default {size : Nat} {domain : Domain alphabet}
    (made : default size = .ok domain) :
    domain.values.toList.map Symbol.value = Symbol.numbersUpTo size := by
  have lists := (default_eq_ok_iff size domain).1 made
  have ascending : (domain.values.toList.map Symbol.value).Pairwise (· < ·) :=
    List.pairwise_map.2 domain.ascending
  have numbered : (Symbol.numbersUpTo size).Pairwise (· < ·) := by
    refine List.pairwise_lt_range.map _ fun first second before => ?_
    simp only [Int.ofNat_eq_natCast]
    omega
  refine List.Perm.eq_of_pairwise ?_ ascending numbered ?_
  · intro first second _ _ before after
    omega
  · rw [← lists]
    exact domain.perm.map _

/-- The default domain gives the integers from one up the indices from zero up. -/
theorem index?_of_default {size : Nat} {domain : Domain alphabet}
    (made : default size = .ok domain) (symbol : Symbol alphabet) (index : Nat) :
    domain.index? symbol = some index ↔ index < size ∧ symbol.value = index + 1 := by
  have numbered : (domain.value? index).map Symbol.value = (Symbol.numbersUpTo size)[index]? := by
    rw [← values_of_default made, List.getElem?_map, value?, Array.getElem?_toList]
  rw [Symbol.numbersUpTo, List.getElem?_map] at numbered
  rw [index?_eq_some_iff]
  by_cases inside : index < size
  · rw [List.getElem?_range inside, Option.map_some, Option.map_eq_some_iff] at numbered
    obtain ⟨other, named, value⟩ := numbered
    rw [named, Option.some.injEq]
    constructor
    · rintro rfl
      exact ⟨inside, value⟩
    · rintro ⟨_, same⟩
      exact Symbol.eq_of_value_eq (value.trans same.symm)
  · rw [List.getElem?_eq_none (by simpa using inside), Option.map_none,
      Option.map_eq_none_iff] at numbered
    rw [numbered]
    exact iff_of_false (by simp) fun both => inside both.1

/-- There is a default domain for one row or more, when their number is a symbol. -/
theorem exists_default_iff_pos (size : Nat) :
    (∃ domain : Domain alphabet, default size = .ok domain) ↔
      1 ≤ size ∧ alphabet.Has size := by
  rcases Nat.eq_zero_or_pos size with rfl | positive
  · refine iff_of_false ?_ (by simp)
    rintro ⟨domain, made⟩
    exact domain.nonempty (List.map_eq_nil_iff.1 ((default_eq_ok_iff 0 domain).1 made))
  · rw [exists_default_iff positive]
    exact (and_iff_right positive).symm

/-! ### Faithful domains -/

/-- A domain that lists the given symbols in their order, has them for its values, and
numbers these in ascending order. -/
structure Numbers (domain : Domain alphabet) (listed : List (Symbol alphabet)) : Prop where
  listed_eq : domain.listed = listed
  perm : domain.values.toList.Perm listed
  ascending : domain.values.toList.Pairwise fun first second => first.value < second.value
  /-- The index of a symbol is below the number of values, and names the symbol. -/
  index?_eq_some_iff : ∀ symbol index, domain.index? symbol = some index ↔
    index < domain.size ∧ domain.value? index = some symbol
  /-- The values are the given symbols. -/
  contains_iff : ∀ symbol, domain.contains symbol = true ↔ symbol ∈ listed
  /-- The order of indices is that of values. -/
  index_lt_iff : ∀ first second firstIndex secondIndex,
    domain.index? first = some firstIndex → domain.index? second = some secondIndex →
    (firstIndex < secondIndex ↔ first.value < second.value)
  /-- Halving the range of the indices finds what going through the values would. -/
  index?_eq : ∀ symbol, domain.index? symbol = domain.values.idxOf? symbol

/-- Every domain numbers what it lists. -/
theorem numbers_listed (domain : Domain alphabet) : domain.Numbers domain.listed where
  listed_eq := rfl
  perm := domain.perm
  ascending := domain.ascending
  index?_eq_some_iff symbol index := by
    rw [Domain.index?_eq_some_iff]
    exact ⟨fun named => ⟨lt_size_of_value? named, named⟩, And.right⟩
  contains_iff := domain.contains_iff_mem_listed
  index_lt_iff _ _ _ _ := index_lt_index_iff
  index?_eq := domain.index?_eq_idxOf?

/-- A list of symbols makes no domain when it is empty or repeats a symbol, and then the
smallest repeated symbol is named. Every other list makes a domain that numbers its
symbols. The default domain is there for a positive number of rows that is a symbol, and
numbers the integers up to it. -/
theorem ofList_default_exact (alphabet : Alphabet) :
    (∀ listed : List (Symbol alphabet),
      (ofList listed = .error (.malformed .unknown .emptyDomain) ↔ listed = []) ∧
      (∀ text, ofList listed = .error (.malformed .unknown (.duplicateDomainValue text)) ↔
        ∃ symbol, LeastRepeated listed symbol ∧ text = symbol.text) ∧
      ((∃ symbol, LeastRepeated listed symbol) ↔ ¬listed.Nodup) ∧
      (listed ≠ [] → listed.Nodup →
        ∃ domain : Domain alphabet, ofList listed = .ok domain ∧ domain.Numbers listed)) ∧
    ∀ size,
      ((∃ domain : Domain alphabet, default size = .ok domain) ↔
        1 ≤ size ∧ alphabet.Has size) ∧
      ∀ domain : Domain alphabet, default size = .ok domain →
        ∀ symbol index, domain.index? symbol = some index ↔
          index < size ∧ symbol.value = index + 1 := by
  refine ⟨fun listed => ?_, fun size =>
    ⟨exists_default_iff_pos size, fun domain => index?_of_default⟩⟩
  have repeats {symbol : Symbol alphabet} (least : LeastRepeated listed symbol) :
      ¬listed.Nodup :=
    List.exists_duplicate_iff_not_nodup.1 ⟨symbol, least.repeated⟩
  rcases ofList_cases listed with
    ⟨rfl, failed⟩ | ⟨symbol, least, failed⟩ | ⟨nonempty, distinct, domain, made, lists⟩
  · have noRepeated (symbol : Symbol alphabet) : ¬LeastRepeated [] symbol :=
      fun least => repeats least List.nodup_nil
    simp [failed, noRepeated]
  · have nonempty : listed ≠ [] := by
      rintro rfl
      exact repeats least List.nodup_nil
    refine ⟨by simp [failed, nonempty], fun text => ?_,
      iff_of_true ⟨symbol, least⟩ (repeats least),
      fun _ distinct => absurd distinct (repeats least)⟩
    rw [failed]
    simp only [Except.error.injEq, Error.malformed.injEq,
      MalformedReason.duplicateDomainValue.injEq, true_and]
    constructor
    · rintro rfl
      exact ⟨symbol, least, rfl⟩
    · rintro ⟨other, otherLeast, rfl⟩
      rw [least.unique otherLeast]
  · have noRepeated (symbol : Symbol alphabet) : ¬LeastRepeated listed symbol :=
      fun least => repeats least distinct
    refine ⟨by simp [made, nonempty], by simp [made, noRepeated], by simp [noRepeated, distinct],
      fun _ _ => ⟨domain, made, ?_⟩⟩
    rw [← lists]
    exact domain.numbers_listed

/-- Three symbols that are not listed in their order. -/
def scattered : Domain .signed8 where
  listed :=
    [⟨30, by decide, by decide⟩, ⟨-20, by decide, by decide⟩, ⟨12, by decide, by decide⟩]
  values :=
    #[⟨-20, by decide, by decide⟩, ⟨12, by decide, by decide⟩, ⟨30, by decide, by decide⟩]
  perm := by decide
  ascending := by decide
  nonempty := by decide

/-- The scattered symbols make a domain in which the last of them is in the middle, and their
alphabet does not number 128 rows. -/
theorem ofList_default_scattered :
    ∃ domain, ofList scattered.listed = .ok domain ∧ domain.Numbers scattered.listed ∧
      domain.index? ⟨12, by decide, by decide⟩ = some 1 ∧
      ¬∃ other : Domain .signed8, default 128 = .ok other := by
  obtain ⟨numbers, defaults⟩ := ofList_default_exact .signed8
  obtain ⟨domain, made, numbered⟩ :=
    (numbers scattered.listed).2.2.2 scattered.nonempty scattered.nodup_listed
  have lists := (ofList_eq_ok_iff _ scattered).2 rfl
  rw [made, Except.ok.injEq] at lists
  refine ⟨domain, made, numbered, ?_, ?_⟩
  · rw [lists, index?_eq_some_iff]
    rfl
  · rw [(defaults 128).1]
    rintro ⟨_, _, tooLarge⟩
    exact absurd tooLarge (by decide)

end Domain
end Sudoku
