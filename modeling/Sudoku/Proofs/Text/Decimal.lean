import Sudoku.Text.Blank
import Sudoku.Text.Decimal

/-!
# Reading written integers

The digits of a number have that number as their value, wherever the value is read
off, and nothing but digits and a minus sign is written. An integer within the bounds of
a reader is therefore read back from its text.
-/

namespace Sudoku
namespace Text

/-- A digit is not blank. -/
theorem isBlank_of_isDigit {character : Char} (digit : character.isDigit = true) :
    isBlank character = false := by
  obtain ⟨least, greatest⟩ := Char.isDigit_iff_toNat.1 digit
  have least : 48 ≤ character.toNat := least
  have greatest : character.toNat ≤ 57 := greatest
  rw [isBlank, List.any_eq_false]
  simp only [blankRuns, List.mem_cons, List.not_mem_nil, or_false, Bool.and_eq_true,
    decide_eq_true_eq]
  rintro run (rfl | rfl | rfl | rfl | rfl | rfl | rfl | rfl | rfl | rfl) <;> simp only <;> omega

namespace Decimal

/-! ### What is written -/

/-- A natural number is written in digits. -/
theorem isDigit_of_mem_ofNat {value : Nat} {character : Char}
    (member : character ∈ ofNat value) : character.isDigit = true :=
  Nat.isDigit_of_mem_toDigits (by decide) (by decide) member

/-- A natural number has at least one digit. -/
theorem ofNat_ne_nil (value : Nat) : ofNat value ≠ [] :=
  Nat.toDigits_ne_nil

/-- An integer is written in digits and a minus sign. -/
theorem isDigit_of_mem_ofInt {value : Int} {character : Char}
    (member : character ∈ ofInt value) : character.isDigit = true ∨ character = '-' := by
  cases value with
  | ofNat value => exact .inl (isDigit_of_mem_ofNat member)
  | negSucc value =>
      rcases List.mem_cons.1 member with minus | member
      · exact .inr minus
      · exact .inl (isDigit_of_mem_ofNat member)

/-- An integer has at least one digit. -/
theorem ofInt_ne_nil (value : Int) : ofInt value ≠ [] := by
  cases value with
  | ofNat value => exact ofNat_ne_nil value
  | negSucc value => exact List.cons_ne_nil _ _

/-- Only zero is written with a leading zero. -/
theorem head?_ofNat_ne_zero {value : Nat} (positive : 0 < value) :
    (ofNat value).head? ≠ some '0' := by
  unfold ofNat
  -- The leading digit is that of the value without its last digit.
  induction value using Nat.strongRecOn with
  | ind value inductionHypothesis =>
      rw [Nat.toDigits_eq_if (by decide)]
      split
      · next single =>
          have digits : value ∈ List.range' 1 9 := by
            rw [List.mem_range'_1]
            omega
          have differs : ∀ digit ∈ List.range' 1 9, [digit.digitChar].head? ≠ some '0' := by
            decide
          exact differs value digits
      · next several =>
          have shorter := inductionHypothesis (value / 10) (by omega) (by omega)
          obtain ⟨digit, rest, digits⟩ := List.exists_cons_of_ne_nil
            (Nat.toDigits_ne_nil : Nat.toDigits 10 (value / 10) ≠ [])
          rw [digits] at shorter ⊢
          exact shorter

/-! ### Reading it back -/

/-- A digit is read as its value. -/
theorem digit?_of_isDigit {character : Char} (digit : character.isDigit = true) :
    digit? character = some (character.toNat - '0'.toNat) := by
  obtain ⟨least, greatest⟩ := Char.isDigit_iff_toNat.1 digit
  exact if_pos ⟨least, greatest⟩

/-- Digits are read as their value, if it is within the bound. -/
theorem readDigits_eq_ok {bound : Nat} {overflow : DecimalFault} {digits : List Char}
    (areDigits : ∀ character ∈ digits, character.isDigit = true) {magnitude : Nat}
    (within : Nat.ofDigitChars 10 digits magnitude ≤ bound) :
    readDigits bound overflow magnitude digits =
      .ok (Nat.ofDigitChars 10 digits magnitude) := by
  induction digits generalizing magnitude with
  | nil => rfl
  | cons character rest inductionHypothesis =>
      rw [Nat.ofDigitChars_cons] at within ⊢
      -- The magnitude never falls on the way, so it is within the bound here already.
      have soFar : 10 * magnitude + (character.toNat - '0'.toNat) ≤ bound := by
        rw [Nat.ofDigitChars_eq_ofDigitChars_zero] at within
        have grown := Nat.le_mul_of_pos_left
          (10 * magnitude + (character.toNat - '0'.toNat)) (Nat.pow_pos (by decide : 0 < 10)
            (n := rest.length))
        omega
      rw [readDigits, digit?_of_isDigit (areDigits character List.mem_cons_self)]
      simp only [if_pos soFar]
      exact inductionHypothesis
        (fun other member => areDigits other (List.mem_cons_of_mem _ member)) within

/-- A written number is read as a magnitude within the bound. -/
theorem readMagnitude_ofNat {bound value : Nat} {overflow : DecimalFault}
    (within : value ≤ bound) : readMagnitude bound overflow (ofNat value) = .ok value := by
  have valued : Nat.ofDigitChars 10 (ofNat value) 0 = value := Nat.ofDigitChars_ten_toDigits
  unfold readMagnitude
  rw [if_neg (by simpa using ofNat_ne_nil value),
    readDigits_eq_ok (fun _ => isDigit_of_mem_ofNat) (by rwa [valued]), valued]

/-- A number that is written without a sign starts with a digit. -/
theorem ofNat_ne_cons {value : Nat} {sign : Char} (noDigit : ¬ sign.isDigit = true)
    (rest : List Char) : ofNat value ≠ sign :: rest := by
  intro signed
  exact noDigit (isDigit_of_mem_ofNat (by rw [signed]; exact List.mem_cons_self))

/-- A natural number within the bound is read back from its text. -/
theorem readNat_ofNat {value : Nat} (within : value ≤ greatestNat) :
    readNat (ofNat value) = .ok value := by
  unfold readNat
  split
  · next signed => exact absurd signed (ofNat_ne_cons (by decide) _)
  · exact readMagnitude_ofNat within

/-- An integer within the bounds is read back from its text. -/
theorem readInt_ofInt {value : Int} (least : -(greatestNegated : Int) ≤ value)
    (greatest : value ≤ greatestInt) : readInt (ofInt value) = .ok value := by
  cases value with
  | ofNat value =>
      have within : value ≤ greatestInt := Int.ofNat_le.1 greatest
      rw [ofInt]
      unfold readInt
      split
      · next signed => exact absurd signed (ofNat_ne_cons (by decide) _)
      · next signed => exact absurd signed (ofNat_ne_cons (by decide) _)
      · rw [readMagnitude_ofNat within]
        rfl
  | negSucc value =>
      have within : value + 1 ≤ greatestNegated := by
        rw [Int.negSucc_eq] at least
        omega
      rw [ofInt, readInt, readMagnitude_ofNat within]
      exact congrArg Except.ok (Int.negSucc_eq value).symm

end Decimal
end Text
end Sudoku
