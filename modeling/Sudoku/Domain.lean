import Sudoku.Ascending
import Sudoku.Error
import Sudoku.Symbol

/-!
# Domains

A domain is the finite set of symbols that the cells of a grid may hold. Its
values are kept in ascending order, so that the order of values and the order
of their indices agree. The order in which they were listed is remembered too.
-/

namespace Sudoku

/-- A nonempty set of symbols, with the order it was listed in. -/
structure Domain (alphabet : Alphabet) where
  listed : List (Symbol alphabet)
  values : Array (Symbol alphabet)
  perm : values.toList.Perm listed
  ascending : values.toList.Pairwise fun first second => first.value < second.value
  nonempty : listed ≠ []
  deriving DecidableEq

namespace Domain

variable {alphabet : Alphabet}

/-- The first symbol of a list that is repeated by its right neighbour. -/
def repeated? : List (Symbol alphabet) → Option (Symbol alphabet)
  | [] => none
  | [_] => none
  | first :: second :: rest =>
      if first = second then some first else repeated? (second :: rest)

/-- A sorted list without equal neighbours ascends strictly. -/
theorem pairwise_lt_of_repeated?_eq_none {symbols : List (Symbol alphabet)}
    (sorted : symbols.Pairwise fun first second => first.value ≤ second.value)
    (distinct : repeated? symbols = none) :
    symbols.Pairwise fun first second => first.value < second.value := by
  fun_induction repeated? symbols with
  | case1 => exact .nil
  | case2 => simp
  | case3 => simp at distinct
  | case4 first second rest different restHypothesis =>
      have restSorted := (List.pairwise_cons.1 sorted).2
      refine List.pairwise_cons.2 ⟨?_, restHypothesis restSorted distinct⟩
      have firstStep : first.value < second.value := by
        have := (List.pairwise_cons.1 sorted).1 second (by simp)
        have : first.value ≠ second.value := fun same =>
          different (Symbol.eq_of_value_eq same)
        omega
      intro other member
      rcases List.mem_cons.1 member with rfl | member
      · exact firstStep
      · have := (List.pairwise_cons.1 restSorted).1 other member
        omega

/-- The symbols in ascending order. -/
def sort (symbols : List (Symbol alphabet)) : List (Symbol alphabet) :=
  symbols.mergeSort fun first second => decide (first.value ≤ second.value)

/-- Sorting keeps the symbols. -/
theorem sort_perm (symbols : List (Symbol alphabet)) : (sort symbols).Perm symbols :=
  List.mergeSort_perm _ _

/-- Sorting puts the symbols into order. -/
theorem pairwise_sort (symbols : List (Symbol alphabet)) :
    (sort symbols).Pairwise fun first second => first.value ≤ second.value := by
  have sorted := @List.pairwise_mergeSort _
    (fun first second : Symbol alphabet => decide (first.value ≤ second.value))
    (by simp only [decide_eq_true_eq]; intros; omega)
    (by simp only [Bool.or_eq_true, decide_eq_true_eq]; intros; omega) symbols
  simpa [sort] using sorted

/-- The domain of the listed symbols, which must not be empty or repeat one. Of
several repeated symbols the smallest is blamed. -/
def ofList (listed : List (Symbol alphabet)) : Except Error (Domain alphabet) :=
  if nonempty : listed = [] then .error (.malformed .unknown .emptyDomain)
  else
    match distinct : repeated? (sort listed) with
    | some symbol =>
        .error (.malformed .unknown (.duplicateDomainValue symbol.text))
    | none =>
        .ok {
          listed
          values := (sort listed).toArray
          perm := sort_perm listed
          ascending := pairwise_lt_of_repeated?_eq_none (pairwise_sort listed) distinct
          nonempty }

/-- The domain of a grid with the given number of rows that does not name one:
the symbols from one up to that number. -/
def default (size : Nat) : Except Error (Domain alphabet) :=
  match Symbol.upTo? size with
  | some symbols => ofList symbols
  | none => .error (.malformed .unknown (.valueOutOfDomain (toString size)))

/-- The number of values. -/
def size (domain : Domain alphabet) : Nat :=
  domain.values.size

/-- Whether the domain has no values, which never happens. -/
def isEmpty (domain : Domain alphabet) : Bool :=
  domain.values.isEmpty

/-- The value of the given index. -/
def value? (domain : Domain alphabet) (index : Nat) : Option (Symbol alphabet) :=
  domain.values[index]?

/-- The index of a symbol, if it is a value of the domain. -/
def index? (domain : Domain alphabet) (symbol : Symbol alphabet) : Option Nat :=
  Ascending.bisect? (fun value => compare value.value symbol.value) domain.values 0 domain.size

/-- Whether a symbol is a value of the domain. -/
def contains (domain : Domain alphabet) (symbol : Symbol alphabet) : Bool :=
  (domain.index? symbol).isSome

end Domain

end Sudoku
