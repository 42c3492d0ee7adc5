import Mathlib.Data.List.Nodup
import Mathlib.Data.Set.List
import Sudoku.Proofs.Domain

/-!
# Which domains there are

A domain comes of every nonempty list of different symbols. The default domain for so many
rows lists the numbers from one up to that of the rows, and there is one as long as the
last of these numbers is a symbol.
-/

namespace Sudoku

variable {alphabet : Alphabet}

/-- An integer that is a symbol of the alphabet. -/
def Alphabet.Has (alphabet : Alphabet) (value : Int) : Prop :=
  alphabet.least ≤ value ∧ value ≤ alphabet.greatest

/-! ### Numbered symbols -/

namespace Symbol

theorem value_injective : Function.Injective (value : Symbol alphabet → Int) :=
  fun _ _ => eq_of_value_eq

/-- The symbols of integers are those that have them as values. -/
theorem mapM_ofInt?_eq_some_iff (values : List Int) (symbols : List (Symbol alphabet)) :
    values.mapM ofInt? = some symbols ↔ symbols.map value = values := by
  induction values generalizing symbols with
  | nil =>
      rw [List.mapM_nil, List.map_eq_nil_iff]
      exact Option.some_inj.trans eq_comm
  | cons head rest inductionHypothesis =>
      simp only [List.mapM_cons, Option.bind_eq_bind, Option.bind_eq_some_iff,
        ofInt?_eq_some_iff, inductionHypothesis, Option.pure_def, Option.some.injEq]
      cases symbols with
      | nil => simp
      | cons symbol others =>
          simp only [List.map_cons, List.cons.injEq]
          constructor
          · rintro ⟨_, sameHead, _, sameRest, rfl, rfl⟩
            exact ⟨sameHead, sameRest⟩
          · rintro ⟨sameHead, sameRest⟩
            exact ⟨symbol, sameHead, others, sameRest, rfl, rfl⟩

/-- The numbers from one up to the given size. -/
def numbersUpTo (size : Nat) : List Int :=
  (List.range size).map fun predecessor => Int.ofNat predecessor + 1

theorem mem_numbersUpTo (size : Nat) (number : Int) :
    number ∈ numbersUpTo size ↔ 1 ≤ number ∧ number ≤ size := by
  simp only [numbersUpTo, List.mem_map, List.mem_range, Int.ofNat_eq_natCast]
  constructor
  · rintro ⟨predecessor, inside, rfl⟩
    omega
  · rintro ⟨positive, bound⟩
    exact ⟨(number - 1).toNat, by omega, by omega⟩

theorem nodup_numbersUpTo (size : Nat) : (numbersUpTo size).Nodup := by
  refine List.nodup_range.map fun first second same => ?_
  simp only [Int.ofNat_eq_natCast] at same
  omega

/-- Symbols in a row are those of the numbers in a row. -/
theorem consecutive?_eq_mapM (number count : Nat) :
    (consecutive? number count : Option (List (Symbol alphabet))) =
      ((List.range' number count).map Int.ofNat).mapM ofInt? := by
  induction count generalizing number with
  | zero => rfl
  | succ count inductionHypothesis =>
      rw [consecutive?, inductionHypothesis, List.range'_succ, List.map_cons, List.mapM_cons]
      simp [Option.map_eq_bind, Function.comp_def]

/-- The symbols from one up are those whose values are the numbers from one up. -/
theorem upTo?_eq_some_iff (size : Nat) (symbols : List (Symbol alphabet)) :
    upTo? size = some symbols ↔ symbols.map value = numbersUpTo size := by
  have numbers : (List.range' 1 size).map Int.ofNat = numbersUpTo size := by
    rw [numbersUpTo, List.range'_eq_map_range, List.map_map]
    exact List.map_congr_left fun predecessor _ => by simp [Int.add_comm]
  rw [upTo?, consecutive?_eq_mapM, numbers, mapM_ofInt?_eq_some_iff]

end Symbol

/-! ### Domains -/

namespace Domain

/-- The values of a domain are those that it lists. -/
theorem contains_iff_mem_listed (domain : Domain alphabet) (symbol : Symbol alphabet) :
    domain.contains symbol = true ↔ symbol ∈ domain.listed := by
  rw [contains_iff, ← domain.perm.mem_iff, Array.mem_toList_iff, Array.mem_iff_getElem?]
  rfl

/-- A domain lists different symbols. -/
theorem nodup_listed (domain : Domain alphabet) : domain.listed.Nodup := by
  refine domain.perm.nodup_iff.1 (domain.ascending.imp ?_)
  rintro first _ before rfl
  omega

/-- There is a domain of every nonempty list of different symbols. -/
theorem exists_listed_eq_iff (listed : List (Symbol alphabet)) :
    (∃ domain : Domain alphabet, domain.listed = listed) ↔ listed ≠ [] ∧ listed.Nodup := by
  constructor
  · rintro ⟨domain, rfl⟩
    exact ⟨domain.nonempty, domain.nodup_listed⟩
  · rintro ⟨nonempty, distinct⟩
    have strict : (sort listed).Pairwise fun first second => first.value < second.value := by
      refine (pairwise_sort listed).imp₂ ?_ ((sort_perm listed).nodup_iff.2 distinct)
      intro first second before different
      have unequal : first.value ≠ second.value := mt Symbol.eq_of_value_eq different
      omega
    exact ⟨⟨listed, (sort listed).toArray, sort_perm listed, strict, nonempty⟩, rfl⟩

/-- The symbols of a domain are named one to one by a nonempty list of different names,
each of which names a symbol. -/
theorem exists_map_listed_eq_iff {name : Type} {label : Symbol alphabet → name}
    (injective : Function.Injective label) (names : List name) :
    (∃ domain : Domain alphabet, domain.listed.map label = names) ↔
      names ≠ [] ∧ names.Nodup ∧ ∀ given ∈ names, ∃ symbol, label symbol = given := by
  constructor
  · rintro ⟨domain, rfl⟩
    refine ⟨by simpa using domain.nonempty, domain.nodup_listed.map injective, ?_⟩
    intro given member
    obtain ⟨symbol, _, same⟩ := List.mem_map.1 member
    exact ⟨symbol, same⟩
  · rintro ⟨nonempty, distinct, named⟩
    obtain ⟨listed, rfl⟩ : names ∈ Set.range (List.map label) := by
      rw [Set.range_list_map]
      exact named
    obtain ⟨domain, rfl⟩ := (exists_listed_eq_iff listed).2
      ⟨by simpa using nonempty, distinct.of_map label⟩
    exact ⟨domain, rfl⟩

/-- The default domain lists the numbers from one up. -/
theorem default_eq_ok_iff (size : Nat) (domain : Domain alphabet) :
    default size = .ok domain ↔ domain.listed.map Symbol.value = Symbol.numbersUpTo size := by
  rw [← Symbol.upTo?_eq_some_iff, default]
  cases (Symbol.upTo? size : Option (List (Symbol alphabet))) with
  | none => simp
  | some symbols =>
      rw [Option.some.injEq, eq_comm (a := symbols)]
      exact ofList_eq_ok_iff symbols domain

/-- There is a default domain for so many rows when their number is a symbol. -/
theorem exists_default_iff {size : Nat} (positive : 0 < size) :
    (∃ domain : Domain alphabet, default size = .ok domain) ↔ alphabet.Has size := by
  have least := alphabet.least_le_one
  simp only [default_eq_ok_iff]
  rw [exists_map_listed_eq_iff Symbol.value_injective]
  simp only [Symbol.mem_numbersUpTo]
  constructor
  · rintro ⟨_, _, numbered⟩
    obtain ⟨symbol, same⟩ := numbered size ⟨by omega, by omega⟩
    rw [← same]
    exact ⟨symbol.least_le, symbol.le_greatest⟩
  · rintro ⟨_, greatest⟩
    have last : (size : Int) ∈ Symbol.numbersUpTo size :=
      (Symbol.mem_numbersUpTo size size).2 ⟨by omega, by omega⟩
    refine ⟨List.ne_nil_of_mem last, Symbol.nodup_numbersUpTo size, ?_⟩
    rintro number ⟨above, below⟩
    exact ⟨⟨number, by omega, by omega⟩, rfl⟩

end Domain

end Sudoku
