/-!
# Ascending lists and arrays

Numbers are put into ascending order by inserting one after another, and a number that
repeats the one before it is dropped. An item of an ascending array is looked for by halving
the range of the places that can have it.
-/

namespace Sudoku
namespace Ascending

/-- Put a number before the first that is not smaller. -/
def insert (number : Nat) : List Nat → List Nat
  | [] => [number]
  | first :: rest =>
      if number ≤ first then number :: first :: rest else first :: insert number rest

/-- The numbers in ascending order. -/
def sort (numbers : List Nat) : List Nat :=
  numbers.foldr insert []

/-- The numbers without those that repeat the one before them. -/
def dropRepeats : List Nat → List Nat
  | [] => []
  | [number] => [number]
  | first :: second :: rest =>
      if first = second then dropRepeats (second :: rest)
      else first :: dropRepeats (second :: rest)

/-- Look for an item among the places of an array from the first up to the last, in the half
of them that can have it. An item at hand is compared with the one that is looked for. -/
def bisect? {item : Type} (order : item → Ordering) (items : Array item) (first last : Nat) :
    Option Nat :=
  if first < last then
    let middle := first + (last - first) / 2
    match items[middle]?.map order with
    | none => none
    | some .lt => bisect? order items (middle + 1) last
    | some .gt => bisect? order items first middle
    | some .eq => some middle
  else none
termination_by last - first

end Ascending
end Sudoku
