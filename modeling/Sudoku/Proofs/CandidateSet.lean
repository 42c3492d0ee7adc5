import Mathlib.Data.List.Nodup
import Sudoku.CandidateSet

/-!
# Members of a candidate set

The list of the members of a candidate set ascends and names each member once,
so that counting, erasing and taking the least member act on it as they do on
any such list.
-/

namespace Sudoku
namespace CandidateSet

/-- The members are listed in ascending order. -/
theorem pairwise_toList (candidates : CandidateSet) :
    candidates.toList.Pairwise (· < ·) :=
  Word.pairwise_numbers candidates.words.toList 0

/-- No member is listed twice. -/
theorem nodup_toList (candidates : CandidateSet) : candidates.toList.Nodup :=
  candidates.pairwise_toList.imp Nat.ne_of_lt

/-- The list names the numbers below the capacity that are members. -/
theorem toList_eq_filter (candidates : CandidateSet) :
    candidates.toList = (List.range candidates.capacity).filter candidates.contains := by
  have sameMembers : candidates.toList.Perm
      ((List.range candidates.capacity).filter candidates.contains) := by
    refine (List.perm_ext_iff_of_nodup candidates.nodup_toList (List.nodup_range.filter _)).2 ?_
    intro number
    rw [mem_toList, List.mem_filter, List.mem_range, and_iff_right_of_imp]
    exact lt_capacity_of_contains
  refine sameMembers.eq_of_pairwise ?_ candidates.pairwise_toList
    (List.pairwise_lt_range.filter _)
  intro first second _ _ before after
  omega

/-- The members are as many as their list is long. -/
theorem size_eq_length_toList (candidates : CandidateSet) :
    candidates.size = candidates.toList.length := by
  rw [toList_eq_filter, ← List.countP_eq_length_filter, candidates.size_eq,
    funext candidates.contains_eq_bitAt]

/-- Erasing a number takes it off the list. -/
theorem toList_erase (candidates : CandidateSet) (number : Nat) :
    (candidates.erase number).toList = candidates.toList.erase number := by
  rw [candidates.nodup_toList.erase_eq_filter]
  simp only [toList_eq_filter, capacity_erase, List.filter_filter]
  apply List.filter_congr
  intro other _
  rw [contains_erase, Bool.and_comm]
  by_cases same : other = number <;> simp [same]

/-- Erasing a member makes the set smaller by one. -/
theorem size_erase {candidates : CandidateSet} {number : Nat}
    (member : candidates.contains number = true) :
    (candidates.erase number).size + 1 = candidates.size := by
  have listed : number ∈ candidates.toList := (mem_toList candidates number).2 member
  have positive := List.length_pos_of_mem listed
  rw [size_eq_length_toList, size_eq_length_toList, toList_erase,
    List.length_erase_of_mem listed]
  omega

/-- Erasing a number that is no member changes nothing. -/
theorem erase_of_not_contains {candidates : CandidateSet} {number : Nat}
    (missing : ¬candidates.contains number = true) :
    candidates.erase number = candidates := by
  simp [erase, missing]

/-- A set of size zero has no members. -/
theorem contains_eq_false_of_size_eq_zero {candidates : CandidateSet}
    (noMember : candidates.size = 0) (number : Nat) :
    candidates.contains number = false := by
  rw [size_eq_length_toList, List.length_eq_zero_iff] at noMember
  by_contra member
  have listed := (mem_toList candidates number).2 (by simpa using member)
  simp [noMember] at listed

/-- A set that lists one number has no other member. -/
theorem contains_iff_of_toList_eq_singleton {candidates : CandidateSet} {number : Nat}
    (single : candidates.toList = [number]) (other : Nat) :
    candidates.contains other = true ↔ other = number := by
  rw [← mem_toList, single, List.mem_singleton]

/-- A member of a set of size one is its only member. -/
theorem size_eq_one_iff {candidates : CandidateSet} {number : Nat}
    (member : candidates.contains number = true) :
    candidates.size = 1 ↔ ∀ other, candidates.contains other = true ↔ other = number := by
  rw [size_eq_length_toList, List.length_eq_one_iff]
  constructor
  · rintro ⟨only, single⟩ other
    have isOnly := contains_iff_of_toList_eq_singleton single
    rw [isOnly, (isOnly number).1 member]
  · intro isOnly
    refine ⟨number, List.perm_singleton.1 ?_⟩
    rw [List.perm_ext_iff_of_nodup candidates.nodup_toList (List.nodup_singleton number)]
    intro other
    rw [mem_toList, isOnly, List.mem_singleton]

/-- A member of a set of size two has one other member beside it. -/
theorem size_eq_two_iff {candidates : CandidateSet} {number : Nat}
    (member : candidates.contains number = true) :
    candidates.size = 2 ↔ ∃ second, second ≠ number ∧
      ∀ other, candidates.contains other = true ↔ other = number ∨ other = second := by
  have smaller := size_erase member
  constructor
  · intro pair
    have single : (candidates.erase number).size = 1 := by omega
    rw [size_eq_length_toList, List.length_eq_one_iff] at single
    obtain ⟨second, single⟩ := single
    have isSecond := contains_iff_of_toList_eq_singleton single
    simp only [contains_erase, Bool.and_eq_true, decide_eq_true_eq] at isSecond
    have different : second ≠ number := ((isSecond second).2 rfl).2
    refine ⟨second, different, fun other => ?_⟩
    have others := isSecond other
    by_cases same : other = number
    · simp [same, member]
    · simpa [same] using others
  · rintro ⟨second, different, isEither⟩
    have left : (candidates.erase number).contains second = true := by
      rw [contains_erase, (isEither second).2 (.inr rfl)]
      simp [different]
    have single : (candidates.erase number).size = 1 := by
      rw [size_eq_one_iff left]
      intro other
      rw [contains_erase, Bool.and_eq_true, isEither, decide_eq_true_eq]
      constructor
      · rintro ⟨isNumber | isSecond, notNumber⟩
        · exact absurd isNumber notNumber
        · exact isSecond
      · rintro rfl
        exact ⟨.inr rfl, different⟩
    omega

/-- Nothing can be taken from a set without members. -/
theorem popFirst?_eq_none_iff (candidates : CandidateSet) :
    candidates.popFirst? = none ↔ candidates.toList = [] := by
  simp [popFirst?, first?]

/-- Taking the least member leaves the rest of the list. -/
theorem popFirst?_eq_some_iff {candidates rest : CandidateSet} {number : Nat} :
    candidates.popFirst? = some (number, rest) ↔
      candidates.toList = number :: rest.toList ∧ rest = candidates.erase number := by
  unfold popFirst? first?
  rw [Option.map_eq_some_iff]
  constructor
  · rintro ⟨least, isHead, equality⟩
    simp only [Prod.mk.injEq] at equality
    obtain ⟨rfl, rfl⟩ := equality
    obtain ⟨others, listed⟩ := List.head?_eq_some_iff.1 isHead
    rw [toList_erase, listed, List.erase_cons_head]
    exact ⟨rfl, rfl⟩
  · rintro ⟨listed, rfl⟩
    exact ⟨number, by rw [listed]; rfl, rfl⟩

/-- The head of the list can be taken, which leaves the tail. -/
theorem exists_popFirst? {candidates : CandidateSet} {number : Nat} {numbers : List Nat}
    (listed : candidates.toList = number :: numbers) :
    ∃ rest, candidates.popFirst? = some (number, rest) ∧ rest.toList = numbers := by
  have taken : (candidates.erase number).toList = numbers := by
    rw [toList_erase, listed, List.erase_cons_head]
  exact ⟨_, popFirst?_eq_some_iff.2 ⟨by rw [taken, listed], rfl⟩, taken⟩

end CandidateSet
end Sudoku
