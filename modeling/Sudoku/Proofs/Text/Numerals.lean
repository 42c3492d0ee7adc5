import Sudoku.Proofs.Error
import Sudoku.Proofs.Text.Decimal

/-!
# Spellings of integers

An integer is spelled by digits, of which the first ones may be zeros, after a sign. All
spellings of integers within the bounds are read, and nothing else is. In any other text
the reader blames the first character that is no digit, or that takes the magnitude of
what was read so far beyond the bound.
-/

namespace Sudoku
namespace Text
namespace Decimal

/-! ### Spellings -/

/-- At least one digit, with a value that is within a bound. -/
structure Numeral (bound : Nat) (digits : List Char) (value : Nat) : Prop where
  nonempty : digits ≠ []
  areDigits : ∀ character ∈ digits, character.isDigit = true
  value_eq : Nat.ofDigitChars 10 digits 0 = value
  within : value ≤ bound

/-- The texts for a natural number. -/
inductive SpellsNat : List Char → Nat → Prop
  | plain {digits : List Char} {value : Nat} (numeral : Numeral greatestNat digits value) :
      SpellsNat digits value
  | plus {digits : List Char} {value : Nat} (numeral : Numeral greatestNat digits value) :
      SpellsNat ('+' :: digits) value

/-- The texts for an integer. -/
inductive SpellsInt : List Char → Int → Prop
  | plain {digits : List Char} {value : Nat} (numeral : Numeral greatestInt digits value) :
      SpellsInt digits value
  | plus {digits : List Char} {value : Nat} (numeral : Numeral greatestInt digits value) :
      SpellsInt ('+' :: digits) value
  | minus {digits : List Char} {value : Nat} (numeral : Numeral greatestNegated digits value) :
      SpellsInt ('-' :: digits) (-(value : Int))

/-- Why a text is no numeral. After digits with a value that is within the bound comes
something else, or one digit too many. -/
inductive Misread (bound : Nat) (overflow : DecimalFault) : List Char → DecimalFault → Prop
  | empty : Misread bound overflow [] .invalidDigit
  | foreign {digits rest : List Char} {character : Char}
      (areDigits : ∀ digit ∈ digits, digit.isDigit = true)
      (within : Nat.ofDigitChars 10 digits 0 ≤ bound) (noDigit : character.isDigit = false) :
      Misread bound overflow (digits ++ character :: rest) .invalidDigit
  | beyond {digits rest : List Char} {character : Char}
      (areDigits : ∀ digit ∈ digits, digit.isDigit = true)
      (within : Nat.ofDigitChars 10 digits 0 ≤ bound) (isDigit : character.isDigit = true)
      (exceeds : bound < Nat.ofDigitChars 10 (digits ++ [character]) 0) :
      Misread bound overflow (digits ++ character :: rest) overflow

/-- A text that begins with neither sign. -/
def Unsigned (text : List Char) : Prop :=
  ∀ character ∈ text.head?, character ≠ '+' ∧ character ≠ '-'

/-- Why a text is no integer, which is why there is no numeral after its sign. -/
inductive MisreadInt : List Char → DecimalFault → Prop
  | unsigned {text : List Char} {fault : DecimalFault} (noSign : Unsigned text)
      (misread : Misread greatestInt .tooLarge text fault) : MisreadInt text fault
  | plus {digits : List Char} {fault : DecimalFault}
      (misread : Misread greatestInt .tooLarge digits fault) :
      MisreadInt ('+' :: digits) fault
  | minus {digits : List Char} {fault : DecimalFault}
      (misread : Misread greatestNegated .tooSmall digits fault) :
      MisreadInt ('-' :: digits) fault

/-! ### Digits -/

/-- What is no digit has no value as one. -/
theorem digit?_eq_none {character : Char} (noDigit : character.isDigit = false) :
    digit? character = none := by
  refine if_neg fun bounds => ?_
  rw [Char.isDigit_iff_toNat.2 bounds] at noDigit
  simp at noDigit

/-- A magnitude does not fall with further digits. -/
theorem le_ofDigitChars (digits : List Char) (magnitude : Nat) :
    magnitude ≤ Nat.ofDigitChars 10 digits magnitude := by
  rw [Nat.ofDigitChars_eq_ofDigitChars_zero]
  have grown := Nat.le_mul_of_pos_left magnitude
    (Nat.pow_pos (by decide : 0 < 10) (n := digits.length))
  omega

/-- Where reading digits stops before the end of the text. -/
structure Stops (bound : Nat) (overflow : DecimalFault) (magnitude : Nat)
    (digits : List Char) (character : Char) (fault : DecimalFault) : Prop where
  areDigits : ∀ digit ∈ digits, digit.isDigit = true
  within : Nat.ofDigitChars 10 digits magnitude ≤ bound
  blames : character.isDigit = false ∧ fault = .invalidDigit ∨
    character.isDigit = true ∧
      bound < Nat.ofDigitChars 10 (digits ++ [character]) magnitude ∧ fault = overflow

variable {bound : Nat} {overflow : DecimalFault}

/-- Digits that were read have their value, and it is within the bound. -/
theorem of_readDigits_eq_ok {magnitude value : Nat} {text : List Char}
    (start : magnitude ≤ bound) (read : readDigits bound overflow magnitude text = .ok value) :
    (∀ character ∈ text, character.isDigit = true) ∧
      Nat.ofDigitChars 10 text magnitude = value ∧ value ≤ bound := by
  induction text generalizing magnitude with
  | nil =>
      rw [← Except.ok.inj read]
      exact ⟨by simp, rfl, start⟩
  | cons character rest inductionHypothesis =>
      rw [readDigits] at read
      cases isDigit : character.isDigit with
      | false => simp [digit?_eq_none isDigit] at read
      | true =>
          rw [digit?_of_isDigit isDigit] at read
          simp only at read
          split at read
          · next within =>
              obtain ⟨areDigits, same, inBound⟩ := inductionHypothesis within read
              refine ⟨List.forall_mem_cons.2 ⟨isDigit, areDigits⟩, ?_, inBound⟩
              rw [Nat.ofDigitChars_cons, same]
          · simp at read

/-- Reading digits fails where it stops. -/
theorem exists_stops_of_readDigits_eq_error {magnitude : Nat} {text : List Char}
    {fault : DecimalFault} (start : magnitude ≤ bound)
    (read : readDigits bound overflow magnitude text = .error fault) :
    ∃ digits character rest, text = digits ++ character :: rest ∧
      Stops bound overflow magnitude digits character fault := by
  induction text generalizing magnitude with
  | nil => simp [readDigits] at read
  | cons character rest inductionHypothesis =>
      rw [readDigits] at read
      cases isDigit : character.isDigit with
      | false =>
          simp only [digit?_eq_none isDigit, Except.error.injEq] at read
          exact ⟨[], character, rest, rfl, by simp, start, .inl ⟨isDigit, read.symm⟩⟩
      | true =>
          rw [digit?_of_isDigit isDigit] at read
          simp only at read
          split at read
          · next within =>
              obtain ⟨digits, other, behind, rfl, stops⟩ := inductionHypothesis within read
              refine ⟨character :: digits, other, behind, rfl, ?_, ?_, ?_⟩
              · exact List.forall_mem_cons.2 ⟨isDigit, stops.areDigits⟩
              · rw [Nat.ofDigitChars_cons]
                exact stops.within
              · rw [List.cons_append, Nat.ofDigitChars_cons]
                exact stops.blames
          · next exceeds =>
              refine ⟨[], character, rest, rfl, by simp, start, .inr ⟨isDigit, ?_, ?_⟩⟩
              · rw [List.nil_append, Nat.ofDigitChars_cons]
                exact Nat.lt_of_not_le exceeds
              · exact (Except.error.inj read).symm

/-- Where reading digits stops, it fails. -/
theorem Stops.readDigits_eq {magnitude : Nat} {digits : List Char} {character : Char}
    {fault : DecimalFault} (stops : Stops bound overflow magnitude digits character fault)
    (rest : List Char) :
    readDigits bound overflow magnitude (digits ++ character :: rest) = .error fault := by
  induction digits generalizing magnitude with
  | nil =>
      rw [List.nil_append, readDigits]
      rcases stops.blames with ⟨noDigit, rfl⟩ | ⟨isDigit, exceeds, rfl⟩
      · rw [digit?_eq_none noDigit]
      · rw [List.nil_append, Nat.ofDigitChars_cons] at exceeds
        rw [digit?_of_isDigit isDigit]
        exact if_neg (Nat.not_le_of_lt exceeds)
  | cons digit others inductionHypothesis =>
      obtain ⟨isDigit, areDigits⟩ := List.forall_mem_cons.1 stops.areDigits
      have within := stops.within
      have blames := stops.blames
      rw [Nat.ofDigitChars_cons] at within
      rw [List.cons_append, Nat.ofDigitChars_cons] at blames
      rw [List.cons_append, readDigits, digit?_of_isDigit isDigit]
      simp only [if_pos (Nat.le_trans (le_ofDigitChars others _) within)]
      exact inductionHypothesis ⟨areDigits, within, blames⟩

/-! ### Numerals -/

/-- Exactly the numerals are read as magnitudes. -/
theorem readMagnitude_eq_ok_iff (digits : List Char) (value : Nat) :
    readMagnitude bound overflow digits = .ok value ↔ Numeral bound digits value := by
  unfold readMagnitude
  constructor
  · intro read
    split at read
    · simp at read
    · next nonempty =>
        obtain ⟨areDigits, same, within⟩ := of_readDigits_eq_ok (Nat.zero_le bound) read
        exact ⟨by simpa using nonempty, areDigits, same, within⟩
  · rintro ⟨nonempty, areDigits, rfl, within⟩
    rw [if_neg (by simpa using nonempty), readDigits_eq_ok areDigits within]

/-- All other texts are misread. -/
theorem readMagnitude_eq_error_iff (text : List Char) (fault : DecimalFault) :
    readMagnitude bound overflow text = .error fault ↔ Misread bound overflow text fault := by
  unfold readMagnitude
  constructor
  · intro read
    split at read
    · next empty =>
        rw [List.isEmpty_iff.1 empty, ← Except.error.inj read]
        exact .empty
    · obtain ⟨digits, character, rest, rfl, stops⟩ :=
        exists_stops_of_readDigits_eq_error (Nat.zero_le bound) read
      rcases stops.blames with ⟨noDigit, rfl⟩ | ⟨isDigit, exceeds, rfl⟩
      · exact .foreign stops.areDigits stops.within noDigit
      · exact .beyond stops.areDigits stops.within isDigit exceeds
  · rintro (_ | ⟨areDigits, within, noDigit⟩ | ⟨areDigits, within, isDigit, exceeds⟩)
    · rfl
    · rw [if_neg (by simp)]
      exact Stops.readDigits_eq ⟨areDigits, within, .inl ⟨noDigit, rfl⟩⟩ _
    · rw [if_neg (by simp)]
      exact Stops.readDigits_eq ⟨areDigits, within, .inr ⟨isDigit, exceeds, rfl⟩⟩ _

/-- A numeral does not begin with a sign. -/
theorem Numeral.unsigned {digits : List Char} {value : Nat}
    (numeral : Numeral bound digits value) : Unsigned digits := by
  intro character first
  have isDigit := numeral.areDigits character (List.mem_of_mem_head? first)
  constructor
  · rintro rfl
    exact absurd isDigit (by decide)
  · rintro rfl
    exact absurd isDigit (by decide)

/-! ### Signs -/

/-- A text begins with one of the signs, or is without a sign. -/
theorem sign_cases (text : List Char) :
    (∃ digits, text = '-' :: digits) ∨ (∃ digits, text = '+' :: digits) ∨ Unsigned text := by
  cases text with
  | nil => exact .inr (.inr (by simp [Unsigned]))
  | cons character rest =>
      by_cases minus : character = '-'
      · exact .inl ⟨rest, by rw [minus]⟩
      by_cases plus : character = '+'
      · exact .inr (.inl ⟨rest, by rw [plus]⟩)
      · exact .inr (.inr (by simp [Unsigned, minus, plus]))

theorem readInt_minus (digits : List Char) :
    readInt ('-' :: digits) = (readMagnitude greatestNegated .tooSmall digits).map
      fun magnitude : Nat => -(magnitude : Int) := by
  change (readMagnitude _ _ digits >>= _).map _ = _
  cases readMagnitude greatestNegated .tooSmall digits <;> rfl

theorem readInt_plus (digits : List Char) :
    readInt ('+' :: digits) =
      (readMagnitude greatestInt .tooLarge digits).map Int.ofNat :=
  rfl

theorem readInt_of_unsigned {text : List Char} (noSign : Unsigned text) :
    readInt text = (readMagnitude greatestInt .tooLarge text).map Int.ofNat := by
  unfold readInt
  split
  · exact absurd rfl (noSign '-' rfl).2
  · exact absurd rfl (noSign '+' rfl).1
  · rfl

theorem readNat_plus (digits : List Char) :
    readNat ('+' :: digits) = readMagnitude greatestNat .tooLarge digits :=
  rfl

theorem readNat_of_ne_plus {text : List Char} (noPlus : ∀ digits, text ≠ '+' :: digits) :
    readNat text = readMagnitude greatestNat .tooLarge text := by
  unfold readNat
  split
  · next digits => exact absurd rfl (noPlus digits)
  · rfl

/-! ### Numbers -/

/-- Exactly the spellings of natural numbers are read. -/
theorem readNat_eq_ok_iff (text : List Char) (value : Nat) :
    readNat text = .ok value ↔ SpellsNat text value := by
  constructor
  · intro read
    by_cases plus : ∃ digits, text = '+' :: digits
    · obtain ⟨digits, rfl⟩ := plus
      exact .plus ((readMagnitude_eq_ok_iff _ _).1 read)
    · rw [readNat_of_ne_plus (not_exists.1 plus), readMagnitude_eq_ok_iff] at read
      exact .plain read
  · rintro (numeral | numeral)
    · rw [readNat_of_ne_plus, readMagnitude_eq_ok_iff]
      · exact numeral
      · rintro digits rfl
        exact absurd rfl (numeral.unsigned '+' rfl).1
    · rw [readNat_plus, readMagnitude_eq_ok_iff]
      exact numeral

/-- Exactly the spellings of integers are read. -/
theorem readInt_eq_ok_iff (text : List Char) (value : Int) :
    readInt text = .ok value ↔ SpellsInt text value := by
  constructor
  · intro read
    rcases sign_cases text with ⟨digits, rfl⟩ | ⟨digits, rfl⟩ | noSign
    · rw [readInt_minus, Error.map_eq_ok_iff] at read
      obtain ⟨magnitude, read, rfl⟩ := read
      exact .minus ((readMagnitude_eq_ok_iff _ _).1 read)
    · rw [readInt_plus, Error.map_eq_ok_iff] at read
      obtain ⟨magnitude, read, rfl⟩ := read
      exact .plus ((readMagnitude_eq_ok_iff _ _).1 read)
    · rw [readInt_of_unsigned noSign, Error.map_eq_ok_iff] at read
      obtain ⟨magnitude, read, rfl⟩ := read
      exact .plain ((readMagnitude_eq_ok_iff _ _).1 read)
  · rintro (numeral | numeral | numeral)
    · rw [readInt_of_unsigned numeral.unsigned, Error.map_eq_ok_iff]
      exact ⟨_, (readMagnitude_eq_ok_iff _ _).2 numeral, rfl⟩
    · rw [readInt_plus, Error.map_eq_ok_iff]
      exact ⟨_, (readMagnitude_eq_ok_iff _ _).2 numeral, rfl⟩
    · rw [readInt_minus, Error.map_eq_ok_iff]
      exact ⟨_, (readMagnitude_eq_ok_iff _ _).2 numeral, rfl⟩

/-- All other texts are misread as integers. -/
theorem readInt_eq_error_iff (text : List Char) (fault : DecimalFault) :
    readInt text = .error fault ↔ MisreadInt text fault := by
  constructor
  · intro read
    rcases sign_cases text with ⟨digits, rfl⟩ | ⟨digits, rfl⟩ | noSign
    · rw [readInt_minus, Error.map_eq_error_iff, readMagnitude_eq_error_iff] at read
      exact .minus read
    · rw [readInt_plus, Error.map_eq_error_iff, readMagnitude_eq_error_iff] at read
      exact .plus read
    · rw [readInt_of_unsigned noSign, Error.map_eq_error_iff, readMagnitude_eq_error_iff] at read
      exact .unsigned noSign read
  · rintro (⟨noSign, misread⟩ | misread | misread)
    · rw [readInt_of_unsigned noSign, Error.map_eq_error_iff, readMagnitude_eq_error_iff]
      exact misread
    · rw [readInt_plus, Error.map_eq_error_iff, readMagnitude_eq_error_iff]
      exact misread
    · rw [readInt_minus, Error.map_eq_error_iff, readMagnitude_eq_error_iff]
      exact misread

/-! ### Characters that end a number -/

/-- A character that is neither a digit nor a sign. -/
structure Foreign (character : Char) : Prop where
  noDigit : character.isDigit = false
  noPlus : character ≠ '+'
  noMinus : character ≠ '-'

/-- A text in which a foreign character follows has a sign only if it had one before. -/
theorem Unsigned.append_foreign {text : List Char} (noSign : Unsigned text) {character : Char}
    (isForeign : Foreign character) (rest : List Char) :
    Unsigned (text ++ character :: rest) := by
  cases text with
  | nil => simp [Unsigned, isForeign.noPlus, isForeign.noMinus]
  | cons sign others => exact noSign

section

variable {first second : Char} (firstForeign : Foreign first) (secondForeign : Foreign second)

include firstForeign secondForeign

/-- A magnitude that ends with a foreign character is misread for what comes before it. -/
theorem readMagnitude_append_foreign (text rest others : List Char) :
    readMagnitude bound overflow (text ++ first :: rest) =
      readMagnitude bound overflow (text ++ second :: others) := by
  have digits (magnitude : Nat) :
      readDigits bound overflow magnitude (text ++ first :: rest) =
        readDigits bound overflow magnitude (text ++ second :: others) := by
    induction text generalizing magnitude with
    | nil =>
        simp only [List.nil_append, readDigits, digit?_eq_none firstForeign.noDigit,
          digit?_eq_none secondForeign.noDigit]
    | cons character behind inductionHypothesis =>
        simp only [List.cons_append, readDigits, inductionHypothesis]
  unfold readMagnitude
  rw [if_neg (by simp), if_neg (by simp), digits]

/-- A natural number that ends with a foreign character is misread all the same. -/
theorem readNat_append_foreign (text rest others : List Char) :
    readNat (text ++ first :: rest) = readNat (text ++ second :: others) := by
  by_cases plus : ∃ digits, text = '+' :: digits
  · obtain ⟨digits, rfl⟩ := plus
    exact readMagnitude_append_foreign firstForeign secondForeign digits rest others
  · have noPlus {character : Char} (isForeign : Foreign character) (behind digits : List Char) :
        text ++ character :: behind ≠ '+' :: digits := by
      cases text with
      | nil => simp [isForeign.noPlus]
      | cons sign behind =>
          rintro ⟨⟩
          exact plus ⟨behind, rfl⟩
    rw [readNat_of_ne_plus (noPlus firstForeign rest),
      readNat_of_ne_plus (noPlus secondForeign others)]
    exact readMagnitude_append_foreign firstForeign secondForeign text rest others

/-- An integer that ends with a foreign character is misread all the same. -/
theorem readInt_append_foreign (text rest others : List Char) :
    readInt (text ++ first :: rest) = readInt (text ++ second :: others) := by
  rcases sign_cases text with ⟨digits, rfl⟩ | ⟨digits, rfl⟩ | noSign
  · rw [List.cons_append, List.cons_append, readInt_minus, readInt_minus,
      readMagnitude_append_foreign firstForeign secondForeign digits rest others]
  · rw [List.cons_append, List.cons_append, readInt_plus, readInt_plus,
      readMagnitude_append_foreign firstForeign secondForeign digits rest others]
  · rw [readInt_of_unsigned (noSign.append_foreign firstForeign rest),
      readInt_of_unsigned (noSign.append_foreign secondForeign others),
      readMagnitude_append_foreign firstForeign secondForeign text rest others]

end

end Decimal
end Text
end Sudoku
