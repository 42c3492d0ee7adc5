/-!
# Words

A row of bits is kept in words of 64 places each, the first word for the first 64 bits.
Writing a bit touches one word only. The ones are read off word by word, where a word is
shifted past each of its ones in turn.
-/

namespace Sudoku

/-- A word of 64 bits, of which the first is the least significant. -/
abbrev Word := BitVec 64

namespace Word

/-- The number of words that hold so many bits. -/
def countFor (bits : Nat) : Nat :=
  (bits + 63) / 64

/-! ### Single bits -/

/-- The word whose only one is the bit of the given number. -/
def mask (number : Nat) : Word :=
  BitVec.twoPow 64 (number % 64)

/-- The bit of the given number. -/
def bitAt (words : Array Word) (number : Nat) : Bool :=
  words.getD (number / 64) 0 &&& mask number != 0

/-- The words with the bit of the given number set. -/
def set (words : Array Word) (number : Nat) : Array Word :=
  words.modify (number / 64) (· ||| mask number)

/-- The words with the bit of the given number cleared. -/
def clear (words : Array Word) (number : Nat) : Array Word :=
  words.modify (number / 64) (· &&& ~~~mask number)

@[simp] theorem size_set (words : Array Word) (number : Nat) :
    (set words number).size = words.size := by
  simp [set]

@[simp] theorem size_clear (words : Array Word) (number : Nat) :
    (clear words number).size = words.size := by
  simp [clear]

/-- A mask picks the bit at its place. -/
theorem bitAt_eq_getLsbD (words : Array Word) (number : Nat) :
    bitAt words number = (words.getD (number / 64) 0).getLsbD (number % 64) := by
  have inside : number % 64 < 64 := Nat.mod_lt _ (by decide)
  unfold bitAt mask
  rw [BitVec.and_twoPow]
  split
  · next isOne =>
      rw [isOne, bne_iff_ne]
      intro isZero
      have same := congrArg (BitVec.getLsbD · (number % 64)) isZero
      simp [inside] at same
  · next isZero => simpa using isZero

/-- The bits of words of which one was changed. -/
theorem bitAt_modify (words : Array Word) (change : Word → Word) (place number : Nat) :
    bitAt (words.modify place change) number =
      if place = number / 64 ∧ place < words.size then
        (change (words.getD (number / 64) 0)).getLsbD (number % 64)
      else bitAt words number := by
  simp only [bitAt_eq_getLsbD, Array.getD_eq_getD_getElem?, Array.getElem?_modify]
  by_cases same : place = number / 64
  · subst same
    by_cases inside : number / 64 < words.size <;> simp [inside]
  · simp [same]

/-- Within one word a mask has the bit of its own number only. -/
theorem getLsbD_mask {number other : Nat} (sameWord : number / 64 = other / 64) :
    (mask number).getLsbD (other % 64) = decide (other = number) := by
  have inside : number % 64 < 64 := Nat.mod_lt _ (by decide)
  have samePlace : number % 64 = other % 64 ↔ other = number := by omega
  simp [mask, inside, samePlace]

/-- There are no bits beyond the words. -/
theorem bitAt_eq_false {words : Array Word} {number : Nat}
    (outside : words.size ≤ number / 64) : bitAt words number = false := by
  simp [bitAt_eq_getLsbD, outside]

/-- Setting a bit changes no other. -/
theorem bitAt_set {words : Array Word} {number : Nat} (inside : number / 64 < words.size)
    (other : Nat) :
    bitAt (set words number) other = (bitAt words other || decide (other = number)) := by
  unfold set
  rw [bitAt_modify]
  split
  · next same => rw [BitVec.getLsbD_or, getLsbD_mask same.1, bitAt_eq_getLsbD]
  · next elsewhere =>
      have different : other ≠ number := by
        rintro rfl
        exact elsewhere ⟨rfl, inside⟩
      simp [different]

/-- Clearing a bit changes no other. -/
theorem bitAt_clear (words : Array Word) (number other : Nat) :
    bitAt (clear words number) other = (bitAt words other && decide (other ≠ number)) := by
  unfold clear
  rw [bitAt_modify]
  split
  · next same =>
      have inside : other % 64 < 64 := Nat.mod_lt _ (by decide)
      rw [BitVec.getLsbD_and, BitVec.getLsbD_not, getLsbD_mask same.1, bitAt_eq_getLsbD]
      simp [inside]
  · next elsewhere =>
      by_cases different : other ≠ number
      · simp [different]
      · have same : number / 64 = other / 64 := by rw [Decidable.not_not.1 different]
        have outside : words.size ≤ other / 64 := by omega
        rw [bitAt_eq_false outside]
        rfl

/-- As many words with the same bits are equal. -/
theorem eq_of_bitAt_eq {first second : Array Word} (sizes : first.size = second.size)
    (bits : ∀ number, bitAt first number = bitAt second number) : first = second := by
  apply Array.ext sizes
  intro word inFirst inSecond
  apply BitVec.eq_of_getLsbD_eq
  intro place inside
  have same := bits (64 * word + place)
  have quotient : (64 * word + place) / 64 = word := by omega
  have remainder : (64 * word + place) % 64 = place := by omega
  simpa [bitAt_eq_getLsbD, quotient, remainder, inFirst, inSecond] using same

/-! ### Rows of zeros and ones -/

/-- Words without ones, for so many bits. -/
def zeros (bits : Nat) : Array Word :=
  Array.replicate (countFor bits) 0

/-- Words with so many ones, and with zeros in the rest of the last word. -/
def ones (bits : Nat) : Array Word :=
  let words : Array Word := Array.replicate (countFor bits) (BitVec.allOnes 64)
  let remainder := bits % 64
  if 0 < remainder then
    words.modify (countFor bits - 1) fun _ => BitVec.twoPow 64 remainder - 1
  else words

theorem bitAt_zeros (bits number : Nat) : bitAt (zeros bits) number = false := by
  by_cases inside : number / 64 < countFor bits <;> simp [bitAt_eq_getLsbD, zeros, inside]

/-- A power of two less one has ones below its exponent. -/
theorem getLsbD_twoPow_sub_one {bound : Nat} (inside : bound < 64) (place : Nat) :
    (BitVec.twoPow 64 bound - 1).getLsbD place = decide (place < bound) := by
  have power : (BitVec.twoPow 64 bound).toNat = 2 ^ bound := by
    rw [BitVec.toNat_twoPow]
    exact Nat.mod_eq_of_lt (Nat.pow_lt_pow_right (by decide) inside)
  have value : (BitVec.twoPow 64 bound - 1).toNat = 2 ^ bound - 1 := by
    rw [BitVec.toNat_sub_of_le, power]
    · rfl
    · rw [BitVec.le_def, power]
      exact Nat.two_pow_pos bound
  rw [BitVec.getLsbD, value, Nat.testBit_two_pow_sub_one]

theorem bitAt_ones (bits number : Nat) :
    bitAt (ones bits) number = decide (number < bits) := by
  have place : number % 64 < 64 := Nat.mod_lt _ (by decide)
  have whole : bitAt (Array.replicate (countFor bits) (BitVec.allOnes 64)) number =
      decide (number / 64 < countFor bits) := by
    rw [bitAt_eq_getLsbD]
    by_cases inside : number / 64 < countFor bits
    · simp only [Array.getD_eq_getD_getElem?, Array.getElem?_replicate, inside, if_true,
        Option.getD_some, BitVec.getLsbD_allOnes, place]
    · simp [inside]
  unfold ones
  dsimp only
  split
  · rw [bitAt_modify, Array.size_replicate,
      getLsbD_twoPow_sub_one (Nat.mod_lt _ (by decide)), whole]
    unfold countFor
    split <;> exact decide_eq_decide.2 (by omega)
  · rw [whole]
    unfold countFor
    exact decide_eq_decide.2 (by omega)

/-! ### Reading off ones -/

/-- The number of zeros below the lowest one. A word without ones has 64 of them. -/
def trailingZeros (word : Word) : Nat :=
  ((List.range 64).find? word.getLsbD).getD 64

/-- The word shifted past the bit at a place. -/
def shiftPast (word : Word) (place : Nat) : Word :=
  (word >>> place) &&& ~~~1#64

/-- The trailing zeros of a word are followed by its lowest one. -/
theorem getLsbD_trailingZeros {word : Word} (nonzero : word ≠ 0) :
    word.getLsbD word.trailingZeros = true ∧
      ∀ place < word.trailingZeros, word.getLsbD place = false := by
  unfold trailingZeros
  cases lowest : (List.range 64).find? word.getLsbD with
  | none =>
      have allZero : word = 0 := by
        apply BitVec.eq_of_getLsbD_eq
        intro place inside
        have isZero := List.find?_eq_none.1 lowest place (List.mem_range.2 inside)
        simpa using isZero
      exact absurd allZero nonzero
  | some place =>
      obtain ⟨isOne, _, below⟩ := List.find?_range_eq_some.1 lowest
      exact ⟨isOne, by simpa using below⟩

/-- The bits of a word that was shifted past a place. -/
theorem getLsbD_shiftPast (word : Word) (place number : Nat) :
    (word.shiftPast place).getLsbD number =
      (decide (number ≠ 0) && word.getLsbD (place + number)) := by
  unfold shiftPast
  by_cases inside : number < 64
  · rw [BitVec.getLsbD_and, BitVec.getLsbD_not, BitVec.getLsbD_ushiftRight, BitVec.getLsbD_one]
    simp [inside, Bool.and_comm]
  · have outside : 64 ≤ place + number := by omega
    simp [outside]

/-- Shifting a word past its lowest one makes it less. -/
theorem toNat_shiftPast_lt {word : Word} (nonzero : word ≠ 0) :
    (word.shiftPast word.trailingZeros).toNat < word.toNat := by
  have kept : (word.shiftPast word.trailingZeros).toNat ≤
      (word >>> word.trailingZeros).toNat := by
    unfold shiftPast
    rw [BitVec.toNat_and]
    exact Nat.and_le_left
  have shifted : (word >>> word.trailingZeros).toNat ≤ word.toNat := by
    rw [BitVec.toNat_ushiftRight]
    exact Nat.shiftRight_le _ _
  have different : word.shiftPast word.trailingZeros ≠ word >>> word.trailingZeros := by
    intro same
    have first := congrArg (BitVec.getLsbD · 0) same
    simp only [getLsbD_shiftPast, BitVec.getLsbD_ushiftRight, Nat.add_zero,
      (getLsbD_trailingZeros nonzero).1] at first
    simp at first
  have unequal := mt BitVec.eq_of_toNat_eq different
  omega

/-- The places of the ones of a word, which was shifted by so many places before. -/
def places (word : Word) (shifted : Nat) : List Nat :=
  if word = 0 then []
  else
    let place := shifted + word.trailingZeros
    place :: places (word.shiftPast word.trailingZeros) place
termination_by word.toNat
decreasing_by exact toNat_shiftPast_lt ‹_›

/-- The numbers of the ones of a list of words, with so many bits before them. -/
def numbers : List Word → Nat → List Nat
  | [], _ => []
  | word :: rest, offset => (places word 0).map (offset + ·) ++ numbers rest (offset + 64)

/-- The places that are read off a word are those of its ones. -/
theorem mem_places (word : Word) (shifted number : Nat) :
    number ∈ places word shifted ↔
      ∃ place, word.getLsbD place = true ∧ number = shifted + place := by
  fun_induction places word shifted with
  | case1 shifted => simp
  | case2 word shifted nonzero place inductionHypothesis =>
      obtain ⟨isOne, below⟩ := getLsbD_trailingZeros nonzero
      rw [List.mem_cons, inductionHypothesis]
      constructor
      · rintro (rfl | ⟨further, isOneToo, rfl⟩)
        · exact ⟨_, isOne, rfl⟩
        · rw [getLsbD_shiftPast, Bool.and_eq_true] at isOneToo
          exact ⟨_, isOneToo.2, Nat.add_assoc _ _ _⟩
      · rintro ⟨other, otherOne, rfl⟩
        have notBelow : ¬other < word.trailingZeros := fun before => by
          rw [below other before] at otherOne
          simp at otherOne
        rcases Nat.eq_or_lt_of_not_lt notBelow with same | above
        · exact .inl (by rw [same])
        · refine .inr ⟨other - word.trailingZeros, ?_, by omega⟩
          have further : word.trailingZeros + (other - word.trailingZeros) = other := by omega
          rw [getLsbD_shiftPast, further, otherOne, Bool.and_true, decide_eq_true_eq]
          omega

/-- The places are read off in ascending order. -/
theorem pairwise_places (word : Word) (shifted : Nat) :
    (places word shifted).Pairwise (· < ·) := by
  fun_induction places word shifted with
  | case1 shifted => exact .nil
  | case2 word shifted nonzero place inductionHypothesis =>
      refine List.pairwise_cons.2 ⟨?_, inductionHypothesis⟩
      intro other member
      obtain ⟨further, isOne, rfl⟩ := (mem_places _ _ _).1 member
      rw [getLsbD_shiftPast, Bool.and_eq_true, decide_eq_true_eq] at isOne
      omega

/-- The numbers that are read off words are those of their ones. -/
theorem mem_numbers (words : List Word) (offset number : Nat) :
    number ∈ numbers words offset ↔
      ∃ place, bitAt words.toArray place = true ∧ number = offset + place := by
  induction words generalizing offset with
  | nil => simp [numbers, bitAt_eq_getLsbD]
  | cons word rest inductionHypothesis =>
      have here (place : Nat) (inside : place < 64) :
          bitAt (word :: rest).toArray place = word.getLsbD place := by
        simp [bitAt_eq_getLsbD, Nat.div_eq_of_lt inside, Nat.mod_eq_of_lt inside]
      have further (place : Nat) :
          bitAt (word :: rest).toArray (64 + place) = bitAt rest.toArray place := by
        have quotient : (64 + place) / 64 = place / 64 + 1 := by omega
        simp [bitAt_eq_getLsbD, quotient]
      unfold numbers
      rw [List.mem_append, List.mem_map, inductionHypothesis]
      constructor
      · rintro (⟨place, member, rfl⟩ | ⟨place, isOne, rfl⟩)
        · obtain ⟨bit, isOne, rfl⟩ := (mem_places _ _ _).1 member
          rw [Nat.zero_add]
          exact ⟨bit, (here bit (BitVec.lt_of_getLsbD isOne)).trans isOne, rfl⟩
        · exact ⟨64 + place, (further place).trans isOne, Nat.add_assoc _ _ _⟩
      · rintro ⟨place, isOne, rfl⟩
        by_cases inside : place < 64
        · rw [here place inside] at isOne
          exact .inl ⟨place,
            (mem_places _ _ _).2 ⟨place, isOne, (Nat.zero_add _).symm⟩, rfl⟩
        · obtain ⟨rest, rfl⟩ := Nat.exists_eq_add_of_le (Nat.le_of_not_lt inside)
          rw [further] at isOne
          exact .inr ⟨rest, isOne, (Nat.add_assoc _ _ _).symm⟩

/-- The numbers are read off in ascending order. -/
theorem pairwise_numbers (words : List Word) (offset : Nat) :
    (numbers words offset).Pairwise (· < ·) := by
  induction words generalizing offset with
  | nil => exact .nil
  | cons word rest inductionHypothesis =>
      refine List.pairwise_append.2 ⟨?_, inductionHypothesis _, ?_⟩
      · rw [List.pairwise_map]
        exact (pairwise_places word 0).imp fun before => by omega
      · intro first firstMember second secondMember
        obtain ⟨place, placeMember, rfl⟩ := List.mem_map.1 firstMember
        obtain ⟨bit, isOne, rfl⟩ := (mem_places _ _ _).1 placeMember
        obtain ⟨further, _, rfl⟩ := (mem_numbers _ _ _).1 secondMember
        have inside : bit < 64 := BitVec.lt_of_getLsbD isOne
        omega

end Word
end Sudoku
