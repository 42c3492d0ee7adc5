import Sudoku.Domain
import Sudoku.Proofs.Ascending

/-!
# The values of a domain

The values of a domain ascend strictly, so a symbol and its index determine one
another. Solving works on indices and never loses a symbol that way. The whole
domain is determined by the order that its values were listed in.
-/

namespace Sudoku
namespace Domain

variable {alphabet : Alphabet}

/-- An index names a value exactly when it is below the number of values. -/
theorem value?_isSome_iff (domain : Domain alphabet) (index : Nat) :
    (domain.value? index).isSome = true ↔ index < domain.size := by
  simp [value?, size]

/-- Every index below the number of values names a value. -/
theorem exists_value? (domain : Domain alphabet) {index : Nat}
    (inside : index < domain.size) :
    ∃ symbol, domain.value? index = some symbol :=
  Option.isSome_iff_exists.1 ((domain.value?_isSome_iff index).2 inside)

/-- An index that names a value is below the number of values. -/
theorem lt_size_of_value? {domain : Domain alphabet} {index : Nat}
    {symbol : Symbol alphabet} (named : domain.value? index = some symbol) :
    index < domain.size :=
  (domain.value?_isSome_iff index).1 (by rw [named]; rfl)

/-- A smaller index names a smaller value. -/
theorem value_lt_of_value? {domain : Domain alphabet} {first second : Nat}
    {firstSymbol secondSymbol : Symbol alphabet}
    (firstNamed : domain.value? first = some firstSymbol)
    (secondNamed : domain.value? second = some secondSymbol)
    (before : first < second) :
    firstSymbol.value < secondSymbol.value := by
  obtain ⟨firstInside, firstEquality⟩ := Array.getElem?_eq_some_iff.1 firstNamed
  obtain ⟨secondInside, secondEquality⟩ := Array.getElem?_eq_some_iff.1 secondNamed
  have ascending := List.pairwise_iff_getElem.1 domain.ascending first second
    (by simpa using firstInside) (by simpa using secondInside) before
  rw [← firstEquality, ← secondEquality]
  simpa using ascending

/-- No value has two indices. -/
theorem index_eq_of_value? {domain : Domain alphabet} {first second : Nat}
    {symbol : Symbol alphabet}
    (firstNamed : domain.value? first = some symbol)
    (secondNamed : domain.value? second = some symbol) :
    first = second := by
  rcases Nat.lt_trichotomy first second with before | same | after
  · have := value_lt_of_value? firstNamed secondNamed before
    omega
  · exact same
  · have := value_lt_of_value? secondNamed firstNamed after
    omega

/-- A symbol has the index that names it, and no other. -/
theorem index?_eq_some_iff {domain : Domain alphabet} {symbol : Symbol alphabet}
    {index : Nat} :
    domain.index? symbol = some index ↔ domain.value? index = some symbol := by
  -- The values ascend strictly, so what is not greater than the symbol comes before it.
  have ascending := domain.ascending.imp fun {first second} before
      (notGreater : compare second.value symbol.value ≠ .gt) =>
    Int.compare_eq_lt.2 (Int.lt_of_lt_of_le before (Int.compare_ne_gt.1 notGreater))
  rw [index?, size, Ascending.bisect?_eq_some_iff ascending, value?, Option.map_eq_some_iff]
  constructor
  · rintro ⟨value, named, same⟩
    rw [named, Symbol.eq_of_value_eq (Int.compare_eq_eq.1 same)]
  · intro named
    exact ⟨symbol, named, Int.compare_eq_eq.2 rfl⟩

/-- The index of a symbol names that symbol. -/
theorem value?_of_index? {domain : Domain alphabet} {symbol : Symbol alphabet}
    {index : Nat} (found : domain.index? symbol = some index) :
    domain.value? index = some symbol :=
  index?_eq_some_iff.1 found

/-- The values of a domain are the symbols that have an index. -/
theorem contains_iff (domain : Domain alphabet) (symbol : Symbol alphabet) :
    domain.contains symbol = true ↔ ∃ index, domain.value? index = some symbol := by
  simp only [contains, Option.isSome_iff_exists, index?_eq_some_iff]

/-! ### Equal indices -/

section

variable {otherAlphabet : Alphabet} {domain : Domain alphabet}
  {otherDomain : Domain otherAlphabet}

/-- Two symbols have the same index, each within its own domain. -/
def SameIndex (otherDomain : Domain otherAlphabet) (domain : Domain alphabet)
    (other : Symbol otherAlphabet) (symbol : Symbol alphabet) : Prop :=
  ∃ index, otherDomain.value? index = some other ∧ domain.value? index = some symbol

/-- Symbols of the same index are those of which both have it or neither does. -/
theorem SameIndex.index?_eq {other : Symbol otherAlphabet} {symbol : Symbol alphabet}
    (same : SameIndex otherDomain domain other symbol) :
    otherDomain.index? other = domain.index? symbol := by
  obtain ⟨index, otherNamed, named⟩ := same
  rw [index?_eq_some_iff.2 otherNamed, index?_eq_some_iff.2 named]

/-- To have the same index is one to one. -/
theorem SameIndex.eq_iff {first second : Symbol otherAlphabet}
    {firstSymbol secondSymbol : Symbol alphabet}
    (firstSame : SameIndex otherDomain domain first firstSymbol)
    (secondSame : SameIndex otherDomain domain second secondSymbol) :
    first = second ↔ firstSymbol = secondSymbol := by
  obtain ⟨firstIndex, firstOther, firstNamed⟩ := firstSame
  obtain ⟨secondIndex, secondOther, secondNamed⟩ := secondSame
  constructor
  · rintro rfl
    rw [index_eq_of_value? firstOther secondOther, secondNamed] at firstNamed
    exact (Option.some.inj firstNamed).symm
  · rintro rfl
    rw [index_eq_of_value? firstNamed secondNamed, secondOther] at firstOther
    exact (Option.some.inj firstOther).symm

/-- Domains of one size have values at the same indices. -/
theorem rel_value? (sizes : otherDomain.size = domain.size) (index : Nat) :
    Option.Rel (SameIndex otherDomain domain) (otherDomain.value? index)
      (domain.value? index) := by
  have inside := domain.value?_isSome_iff index
  rw [← sizes, ← otherDomain.value?_isSome_iff] at inside
  cases otherNamed : otherDomain.value? index with
  | none =>
      cases named : domain.value? index with
      | none => exact .none
      | some symbol => simp [otherNamed, named] at inside
  | some other =>
      cases named : domain.value? index with
      | none => simp [otherNamed, named] at inside
      | some symbol => exact .some ⟨index, otherNamed, named⟩

end

/-! ### Listing -/

/-- Strictly ascending symbols are not repeated. -/
theorem repeated?_eq_none_of_pairwise_lt {symbols : List (Symbol alphabet)}
    (ascending : symbols.Pairwise fun first second => first.value < second.value) :
    repeated? symbols = none := by
  fun_induction repeated? symbols with
  | case1 => rfl
  | case2 => rfl
  | case3 first rest =>
      have less := (List.pairwise_cons.1 ascending).1 first List.mem_cons_self
      omega
  | case4 first second rest _ restHypothesis =>
      exact restHypothesis (List.pairwise_cons.1 ascending).2

/-- Sorting the listed symbols of a domain gives its values. -/
theorem sort_listed (domain : Domain alphabet) :
    sort domain.listed = domain.values.toList := by
  have sorted : domain.values.toList.Pairwise fun first second => first.value ≤ second.value :=
    domain.ascending.imp Int.le_of_lt
  refine List.Perm.eq_of_pairwise ?_ (pairwise_sort domain.listed) sorted
    ((sort_perm domain.listed).trans domain.perm.symm)
  intro first second _ _ before after
  exact Symbol.eq_of_value_eq (Int.le_antisymm before after)

/-- The values of a domain do not depend on the order they are listed in. -/
theorem values_eq_of_perm {first second : Domain alphabet}
    (perm : first.listed.Perm second.listed) : first.values = second.values := by
  apply Array.toList_inj.1
  refine List.Perm.eq_of_pairwise ?_ first.ascending second.ascending
    ((first.perm.trans perm).trans second.perm.symm)
  intro one other _ _ before after
  omega

/-- The domain of listed symbols is the only one that lists them. -/
theorem ofList_eq_ok_iff (listed : List (Symbol alphabet)) (domain : Domain alphabet) :
    ofList listed = .ok domain ↔ domain.listed = listed := by
  constructor
  · intro made
    unfold ofList at made
    split at made
    · simp at made
    · split at made
      · simp at made
      · rw [← Except.ok.inj made]
  · rintro rfl
    have sorted := sort_listed domain
    have distinct : repeated? (sort domain.listed) = none := by
      rw [sorted]
      exact repeated?_eq_none_of_pairwise_lt domain.ascending
    unfold ofList
    rw [dif_neg domain.nonempty]
    split
    · next repeated =>
        rw [distinct] at repeated
        simp at repeated
    · cases domain
      simp_all

end Domain
end Sudoku
