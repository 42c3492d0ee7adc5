import Sudoku.Word

/-!
# Candidate sets

A candidate set holds some of the numbers below its capacity. Its members are the places
of the ones in a row of words, and are counted as they come and go. There are no ones
from the capacity on, so that two sets of one capacity are equal when they have the same
members.
-/

namespace Sudoku

/-- A set of numbers below a capacity. -/
structure CandidateSet where
  capacity : Nat
  size : Nat
  words : Array Word
  words_size : words.size = Word.countFor capacity
  lt_capacity : ∀ number, Word.bitAt words number = true → number < capacity
  size_eq : size = (List.range capacity).countP (Word.bitAt words)
  deriving DecidableEq

namespace CandidateSet

/-- The set without members. -/
def empty (capacity : Nat) : CandidateSet where
  capacity
  size := 0
  words := Word.zeros capacity
  words_size := Array.size_replicate
  lt_capacity number member := by
    rw [Word.bitAt_zeros] at member
    simp at member
  size_eq := by
    rw [eq_comm, List.countP_eq_zero]
    intro number _
    simp [Word.bitAt_zeros]

/-- The set of all numbers below the capacity. -/
def full (capacity : Nat) : CandidateSet where
  capacity
  size := capacity
  words := Word.ones capacity
  words_size := by
    unfold Word.ones
    dsimp only
    split <;> simp
  lt_capacity number member := by
    rw [Word.bitAt_ones, decide_eq_true_eq] at member
    exact member
  size_eq := by
    rw [eq_comm, List.countP_eq_length.2, List.length_range]
    intro number inside
    rw [Word.bitAt_ones, decide_eq_true_eq]
    exact List.mem_range.1 inside

/-- Whether a number is a member. -/
def contains (candidates : CandidateSet) (number : Nat) : Bool :=
  decide (number < candidates.capacity) && Word.bitAt candidates.words number

/-- The members are the places of the ones. -/
theorem contains_eq_bitAt (candidates : CandidateSet) (number : Nat) :
    candidates.contains number = Word.bitAt candidates.words number := by
  by_cases inside : number < candidates.capacity
  · simp [contains, inside]
  · have isZero : ¬Word.bitAt candidates.words number = true :=
      fun isOne => inside (candidates.lt_capacity number isOne)
    simp [contains, inside, isZero]

/-- Members are below the capacity. -/
theorem lt_capacity_of_contains {candidates : CandidateSet} {number : Nat}
    (member : candidates.contains number = true) : number < candidates.capacity := by
  simp only [contains, Bool.and_eq_true, decide_eq_true_eq] at member
  exact member.1

/-- There is a word for every number below the capacity. -/
theorem div_lt_size_words {candidates : CandidateSet} {number : Nat}
    (inside : number < candidates.capacity) : number / 64 < candidates.words.size := by
  rw [candidates.words_size, Word.countFor]
  omega

/-- Sets of one capacity with the same members are equal. -/
theorem eq_of_contains_eq {first second : CandidateSet}
    (sameCapacity : first.capacity = second.capacity)
    (sameMembers : ∀ number, first.contains number = second.contains number) :
    first = second := by
  have sameWords : first.words = second.words := by
    apply Word.eq_of_bitAt_eq
    · rw [first.words_size, second.words_size, sameCapacity]
    · intro number
      rw [← contains_eq_bitAt, ← contains_eq_bitAt, sameMembers]
  have sameSize : first.size = second.size := by
    rw [first.size_eq, second.size_eq, sameCapacity, sameWords]
  cases first
  cases second
  simp_all

@[simp] theorem contains_empty (capacity number : Nat) :
    (empty capacity).contains number = false := by
  rw [contains_eq_bitAt]
  exact Word.bitAt_zeros capacity number

@[simp] theorem contains_full (capacity number : Nat) :
    (full capacity).contains number = decide (number < capacity) := by
  rw [contains_eq_bitAt]
  exact Word.bitAt_ones capacity number

/-! ### Inserting and erasing -/

/-- One more bit makes the count of ones greater by one. -/
theorem countP_or {before after : Nat → Bool} {number bound : Nat} (inside : number < bound)
    (missing : before number = false)
    (change : ∀ other, after other = (before other || decide (other = number))) :
    (List.range bound).countP after = (List.range bound).countP before + 1 := by
  have counts (numbers : List Nat) :
      numbers.countP after = numbers.countP before + numbers.count number := by
    induction numbers with
    | nil => rfl
    | cons other rest inductionHypothesis =>
        rw [List.countP_cons, List.countP_cons, List.count_cons, inductionHypothesis, change]
        by_cases same : other = number
        · simp [same, missing]
          omega
        · simp [same]
          omega
  rw [counts, List.count_range, if_pos inside]

/-- Whether inserting a number changes the set. -/
def lacks (candidates : CandidateSet) (number : Nat) : Bool :=
  decide (number < candidates.capacity) && !candidates.contains number

/-- A set lacks the numbers below its capacity that are no members. -/
theorem lacks_eq_true_iff (candidates : CandidateSet) (number : Nat) :
    candidates.lacks number = true ↔
      number < candidates.capacity ∧ candidates.contains number = false := by
  simp [lacks]

/-- The set with a number added, unless it is a member already or beyond the capacity. -/
def insert (candidates : CandidateSet) (number : Nat) : CandidateSet :=
  if lacking : candidates.lacks number = true then
    have inside := ((candidates.lacks_eq_true_iff number).1 lacking).1
    have bits := Word.bitAt_set (div_lt_size_words inside)
    { candidates with
      size := candidates.size + 1
      words := Word.set candidates.words number
      words_size := by rw [Word.size_set, candidates.words_size]
      lt_capacity := by
        intro other isOne
        rw [bits, Bool.or_eq_true, decide_eq_true_eq] at isOne
        rcases isOne with isOne | rfl
        · exact candidates.lt_capacity other isOne
        · exact inside
      size_eq := by
        have missing := ((candidates.lacks_eq_true_iff number).1 lacking).2
        rw [contains_eq_bitAt] at missing
        rw [countP_or inside missing bits, ← candidates.size_eq] }
  else candidates

@[simp] theorem capacity_insert (candidates : CandidateSet) (number : Nat) :
    (candidates.insert number).capacity = candidates.capacity := by
  unfold insert
  split <;> rfl

@[simp] theorem contains_insert (candidates : CandidateSet) (number other : Nat) :
    (candidates.insert number).contains other =
      (candidates.contains other ||
        decide (other = number ∧ number < candidates.capacity)) := by
  unfold insert
  split
  · next lacking =>
      have inside := ((candidates.lacks_eq_true_iff number).1 lacking).1
      rw [contains_eq_bitAt, contains_eq_bitAt, Word.bitAt_set (div_lt_size_words inside)]
      simp [inside]
  · next kept =>
      have member (inside : number < candidates.capacity) :
          candidates.contains number = true := by
        simpa [lacks, inside] using kept
      by_cases added : other = number ∧ number < candidates.capacity
      · obtain ⟨rfl, inside⟩ := added
        simp [member inside]
      · simp [added]

/-- The set with a number taken out. -/
def erase (candidates : CandidateSet) (number : Nat) : CandidateSet :=
  if member : candidates.contains number = true then
    have bits := Word.bitAt_clear candidates.words number
    { candidates with
      size := candidates.size - 1
      words := Word.clear candidates.words number
      words_size := by rw [Word.size_clear, candidates.words_size]
      lt_capacity := by
        intro other isOne
        rw [bits, Bool.and_eq_true] at isOne
        exact candidates.lt_capacity other isOne.1
      size_eq := by
        have cleared : Word.bitAt (Word.clear candidates.words number) number = false := by
          simp [bits]
        have back (other : Nat) : Word.bitAt candidates.words other =
            (Word.bitAt (Word.clear candidates.words number) other ||
              decide (other = number)) := by
          rw [contains_eq_bitAt] at member
          by_cases same : other = number <;> simp [bits, same, member]
        rw [candidates.size_eq, countP_or (lt_capacity_of_contains member) cleared back]
        rfl }
  else candidates

@[simp] theorem capacity_erase (candidates : CandidateSet) (number : Nat) :
    (candidates.erase number).capacity = candidates.capacity := by
  unfold erase
  split <;> rfl

@[simp] theorem contains_erase (candidates : CandidateSet) (number other : Nat) :
    (candidates.erase number).contains other =
      (candidates.contains other && decide (other ≠ number)) := by
  unfold erase
  split
  · rw [contains_eq_bitAt, contains_eq_bitAt]
    exact Word.bitAt_clear candidates.words number other
  · next missing =>
      by_cases same : other = number
      · subst same
        simp [missing]
      · simp [same]

/-! ### Members in order -/

/-- The members in ascending order. -/
def toList (candidates : CandidateSet) : List Nat :=
  Word.numbers candidates.words.toList 0

@[simp] theorem mem_toList (candidates : CandidateSet) (number : Nat) :
    number ∈ candidates.toList ↔ candidates.contains number = true := by
  simp [toList, Word.mem_numbers, contains_eq_bitAt]

/-- Whether there are no members. -/
def isEmpty (candidates : CandidateSet) : Bool :=
  candidates.size == 0

/-- The least member. -/
def first? (candidates : CandidateSet) : Option Nat :=
  candidates.toList.head?

/-- The least member, together with the set without it. -/
def popFirst? (candidates : CandidateSet) : Option (Nat × CandidateSet) :=
  candidates.first?.map fun number => (number, candidates.erase number)

end CandidateSet

end Sudoku
