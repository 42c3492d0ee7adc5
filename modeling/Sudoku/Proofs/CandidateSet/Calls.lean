import Mathlib.Data.Finset.Max
import Mathlib.Data.Finset.Range
import Sudoku.Proofs.CandidateSet

/-!
# Calls of a candidate set

A candidate set stands for a finite set of numbers. Whichever calls have been made, its
count, its least member and its list are those of the finite set, and every call answers
what the finite set answers. A candidate set does not remember how it was built.
-/

namespace Sudoku
namespace CandidateSet

/-- A candidate set stands for a finite set when everything that can be read off it is as
the finite set says. -/
structure Represents (capacity : Nat) (candidates : CandidateSet) (members : Finset Nat) :
    Prop where
  capacity_eq : candidates.capacity = capacity
  lt_capacity : ∀ number ∈ members, number < capacity
  contains_iff : ∀ number, candidates.contains number = true ↔ number ∈ members
  size_eq : candidates.size = members.card
  isEmpty_iff : candidates.isEmpty = true ↔ members = ∅
  first?_eq_some_iff : ∀ number, candidates.first? = some number ↔ IsLeast members number
  first?_eq_none_iff : candidates.first? = none ↔ members = ∅
  mem_toList_iff : ∀ number, number ∈ candidates.toList ↔ number ∈ members
  ascending : candidates.toList.Pairwise (· < ·)

variable {candidates other : CandidateSet} {members : Finset Nat} {capacity : Nat}

/-! ### What a set stands for -/

/-- The least member is the first of the list. -/
theorem first?_eq_some_iff_isLeast (candidates : CandidateSet) (number : Nat) :
    candidates.first? = some number ↔
      candidates.contains number = true ∧
        ∀ other, candidates.contains other = true → number ≤ other := by
  have ascending := candidates.pairwise_toList
  simp only [first?, ← mem_toList]
  cases listed : candidates.toList with
  | nil => simp
  | cons head rest =>
      rw [listed, List.pairwise_cons] at ascending
      rw [List.head?_cons, Option.some.injEq]
      constructor
      · rintro rfl
        refine ⟨List.mem_cons_self, fun other member => ?_⟩
        rcases List.mem_cons.1 member with rfl | member
        · exact Nat.le_refl _
        · exact Nat.le_of_lt (ascending.1 other member)
      · rintro ⟨member, least⟩
        have notAbove := least head List.mem_cons_self
        rcases List.mem_cons.1 member with same | member
        · exact same.symm
        · have above := ascending.1 number member
          omega

/-- A candidate set with the members of a finite set stands for it. -/
theorem represents_of_contains_iff (capacity_eq : candidates.capacity = capacity)
    (contains_iff : ∀ number, candidates.contains number = true ↔ number ∈ members) :
    Represents capacity candidates members := by
  have listed : candidates.toList.toFinset = members := by
    ext number
    rw [List.mem_toFinset, mem_toList, contains_iff]
  have size_eq : candidates.size = members.card := by
    rw [size_eq_length_toList, ← listed, List.toFinset_card_of_nodup candidates.nodup_toList]
  refine {
    capacity_eq, contains_iff, size_eq
    lt_capacity := ?_
    isEmpty_iff := ?_
    first?_eq_some_iff := ?_
    first?_eq_none_iff := ?_
    mem_toList_iff := ?_
    ascending := candidates.pairwise_toList }
  · intro number member
    rw [← capacity_eq]
    exact lt_capacity_of_contains ((contains_iff number).2 member)
  · rw [isEmpty, size_eq, beq_iff_eq, Finset.card_eq_zero]
  · intro number
    rw [first?_eq_some_iff_isLeast]
    simp only [contains_iff]
    rfl
  · rw [first?, List.head?_eq_none_iff, ← listed, List.toFinset_eq_empty_iff]
  · intro number
    rw [mem_toList, contains_iff]

/-- Candidate sets are equal when they stand for the same finite set. -/
theorem Represents.eq_iff {others : Finset Nat}
    (represents : Represents capacity candidates members)
    (otherRepresents : Represents capacity other others) :
    candidates = other ↔ members = others := by
  constructor
  · rintro rfl
    ext number
    rw [← represents.contains_iff, otherRepresents.contains_iff]
  · rintro rfl
    apply eq_of_contains_eq (represents.capacity_eq.trans otherRepresents.capacity_eq.symm)
    intro number
    rw [Bool.eq_iff_iff, represents.contains_iff, otherRepresents.contains_iff]

/-! ### Calls -/

/-- A call that may change a set. -/
inductive Call
  | insert (number : Nat)
  | erase (number : Nat)
  | popFirst

/-- What a call answers: whether it changed the set, or the member that it took. -/
inductive Answer
  | changed (isChanged : Bool)
  | taken (number? : Option Nat)

/-- How a set begins. -/
inductive Origin
  | empty
  | full

/-- The candidate set of a capacity to begin with. -/
def Origin.set (capacity : Nat) : Origin → CandidateSet
  | .empty => .empty capacity
  | .full => .full capacity

/-- The finite set to begin with. -/
def Origin.finset (capacity : Nat) : Origin → Finset Nat
  | .empty => ∅
  | .full => Finset.range capacity

/-- The answer of a candidate set to a call, and the set after it. -/
def call (candidates : CandidateSet) : Call → Answer × CandidateSet
  | .insert number => (.changed (candidates.lacks number), candidates.insert number)
  | .erase number => (.changed (candidates.contains number), candidates.erase number)
  | .popFirst =>
      match candidates.popFirst? with
      | some (number, rest) => (.taken (some number), rest)
      | none => (.taken none, candidates)

/-- The answer of a finite set to a call, and the set after it. Numbers from the capacity
on cannot be inserted. -/
def callMembers (capacity : Nat) (members : Finset Nat) : Call → Answer × Finset Nat
  | .insert number =>
      let next := if number < capacity then members ∪ {number} else members
      (.changed (decide (next ≠ members)), next)
  | .erase number =>
      let next := members.erase number
      (.changed (decide (next ≠ members)), next)
  | .popFirst =>
      if nonempty : members.Nonempty then
        (.taken (some (members.min' nonempty)), members.erase (members.min' nonempty))
      else (.taken none, members)

/-- The answers to calls made one after the other, and the state after them. -/
def follow {state : Type} (step : state → Call → Answer × state) :
    state → List Call → List Answer × state
  | start, [] => ([], start)
  | start, first :: rest =>
      let (answer, next) := step start first
      let (answers, last) := follow step next rest
      (answer :: answers, last)

/-! ### Refinement -/

theorem represents_origin (capacity : Nat) (origin : Origin) :
    Represents capacity (origin.set capacity) (origin.finset capacity) := by
  cases origin with
  | empty => exact represents_of_contains_iff (by rfl) (by simp [Origin.set, Origin.finset])
  | full => exact represents_of_contains_iff (by rfl) (by simp [Origin.set, Origin.finset])

namespace Represents

variable (represents : Represents capacity candidates members)

include represents

theorem insert_of_lt {number : Nat} (inside : number < capacity) :
    Represents capacity (candidates.insert number) (members ∪ {number}) := by
  apply represents_of_contains_iff
  · rw [capacity_insert, represents.capacity_eq]
  · intro other
    rw [contains_insert, represents.capacity_eq, Bool.or_eq_true, represents.contains_iff,
      decide_eq_true_eq, Finset.mem_union, Finset.mem_singleton]
    exact or_congr_right (and_iff_left inside)

theorem insert_of_le {number : Nat} (outside : ¬number < capacity) :
    candidates.insert number = candidates := by
  simp [insert, lacks, represents.capacity_eq, outside]

theorem erase (number : Nat) :
    Represents capacity (candidates.erase number) (members.erase number) := by
  apply represents_of_contains_iff
  · rw [capacity_erase, represents.capacity_eq]
  · intro other
    rw [contains_erase, Bool.and_eq_true, represents.contains_iff, decide_eq_true_eq,
      Finset.mem_erase, and_comm]

/-- Inserting answers whether the finite set has changed. -/
theorem lacks_eq {number : Nat} (inside : number < capacity) :
    candidates.lacks number = decide (members ∪ {number} ≠ members) := by
  rw [Bool.eq_iff_iff, lacks_eq_true_iff, represents.capacity_eq, ← Bool.not_eq_true,
    represents.contains_iff, decide_eq_true_eq, ne_eq, Finset.union_eq_left,
    Finset.singleton_subset_iff]
  exact and_iff_right inside

/-- Erasing answers whether the finite set has changed. -/
theorem contains_eq (number : Nat) :
    candidates.contains number = decide (members.erase number ≠ members) := by
  rw [Bool.eq_iff_iff, represents.contains_iff, decide_eq_true_eq, ne_eq,
    Finset.erase_eq_self, not_not]

/-- Taking the least member takes that of the finite set. -/
theorem popFirst?_eq (nonempty : members.Nonempty) :
    candidates.popFirst? =
      some (members.min' nonempty, candidates.erase (members.min' nonempty)) := by
  have first := (represents.first?_eq_some_iff _).2 (members.isLeast_min' nonempty)
  rw [popFirst?, first]
  rfl

/-- A candidate set answers a call like the finite set it stands for, and then stands for
what the finite set has become. -/
theorem call (call : Call) :
    (candidates.call call).1 = (callMembers capacity members call).1 ∧
      Represents capacity (candidates.call call).2 (callMembers capacity members call).2 := by
  cases call with
  | insert number =>
      by_cases inside : number < capacity
      · simp only [CandidateSet.call, callMembers, inside, if_true]
        exact ⟨congrArg _ (represents.lacks_eq inside), represents.insert_of_lt inside⟩
      · have unchanged : candidates.lacks number = false := by
          simp [lacks, represents.capacity_eq, inside]
        simp only [CandidateSet.call, callMembers, inside, if_false,
          represents.insert_of_le inside, unchanged]
        exact ⟨by simp, represents⟩
  | erase number =>
      exact ⟨congrArg _ (represents.contains_eq number), represents.erase number⟩
  | popFirst =>
      by_cases nonempty : members.Nonempty
      · simp only [CandidateSet.call, callMembers, nonempty, dif_pos,
          represents.popFirst?_eq nonempty, true_and]
        exact represents.erase _
      · have missing : candidates.popFirst? = none := by
          rw [popFirst?, represents.first?_eq_none_iff.2
            (Finset.not_nonempty_iff_eq_empty.1 nonempty)]
          rfl
        simp only [CandidateSet.call, callMembers, nonempty, dif_neg, not_false_eq_true, missing,
          true_and]
        exact represents

omit represents in
/-- A candidate set answers calls like the finite set it stands for. -/
theorem follow (represents : Represents capacity candidates members) (calls : List Call) :
    (CandidateSet.follow CandidateSet.call candidates calls).1 =
        (CandidateSet.follow (callMembers capacity) members calls).1 ∧
      Represents capacity (CandidateSet.follow CandidateSet.call candidates calls).2
        (CandidateSet.follow (callMembers capacity) members calls).2 := by
  induction calls generalizing candidates members with
  | nil => exact ⟨rfl, represents⟩
  | cons first rest inductionHypothesis =>
      obtain ⟨answer, next⟩ := represents.call first
      obtain ⟨answers, last⟩ := inductionHypothesis next
      exact ⟨congrArg₂ List.cons answer answers, last⟩

end Represents

/-- Whichever calls are made of an empty or a full set, it answers them like the finite
set of its members, a call answers that it changed the set exactly when it did, and the
set is read like the finite set afterwards. Two sets of one capacity are equal exactly
when their finite sets are, whatever calls have built them. -/
theorem calls_refine (capacity : Nat) :
    (∀ (origin : Origin) (calls : List Call),
      (follow call (origin.set capacity) calls).1 =
          (follow (callMembers capacity) (origin.finset capacity) calls).1 ∧
        Represents capacity (follow call (origin.set capacity) calls).2
          (follow (callMembers capacity) (origin.finset capacity) calls).2) ∧
    ∀ (first second : Origin) (firstCalls secondCalls : List Call),
      (follow call (first.set capacity) firstCalls).2 =
          (follow call (second.set capacity) secondCalls).2 ↔
        (follow (callMembers capacity) (first.finset capacity) firstCalls).2 =
          (follow (callMembers capacity) (second.finset capacity) secondCalls).2 := by
  have refines (origin : Origin) (calls : List Call) :=
    (represents_origin capacity origin).follow calls
  exact ⟨refines, fun first second firstCalls secondCalls =>
    (refines first firstCalls).2.eq_iff (refines second secondCalls).2⟩

end CandidateSet
end Sudoku
