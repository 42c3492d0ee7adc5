import Mathlib.Data.List.TakeWhile
import Sudoku.Proofs.Json.Grammar
import Sudoku.Proofs.Text.Decimal

/-!
# How integers and quoted texts are written

An integer is written without leading zeros, and so as a number of JSON. Within a quoted
text, every character is written as itself or as an escape that stands for it. What is
written is what the grammar asks for.
-/

namespace Sudoku
namespace Json

/-! ### Integers -/

/-- The digits of a number are its value. -/
theorem digitsValue_ofNat (value : Nat) : digitsValue (Text.Decimal.ofNat value) = value :=
  Nat.ofDigitChars_ten_toDigits

/-- The digits of a number are a number of JSON, since they have no leading zero. -/
theorem isWhole_ofNat (value : Nat) : isWhole (Text.Decimal.ofNat value) = true := by
  have nonempty := Text.Decimal.ofNat_ne_nil value
  have digits : isDigits (Text.Decimal.ofNat value) = true := by
    simp only [isDigits, Bool.and_eq_true, Bool.not_eq_true', List.isEmpty_eq_false_iff,
      List.all_eq_true]
    exact ⟨nonempty, fun _ => Text.Decimal.isDigit_of_mem_ofNat⟩
  unfold isWhole
  rw [digits, Bool.true_and, Bool.or_eq_true]
  rcases Nat.eq_zero_or_pos value with rfl | positive
  · exact .inr rfl
  · exact .inl (bne_iff_ne.2 (Text.Decimal.head?_ofNat_ne_zero positive))

/-- The digits of a number are read as its value, with the sign before them. Zero has no
minus sign. -/
theorem unsigned?_ofNat (negative : Bool) (literal : List Char) (value : Nat)
    (signed : negative = true → value ≠ 0) :
    unsigned? negative literal (Text.Decimal.ofNat value) =
      some (.integer (if negative then -(value : Int) else value)) := by
  have digits : ∀ character ∈ Text.Decimal.ofNat value, character.isDigit = true :=
    fun _ => Text.Decimal.isDigit_of_mem_ofNat
  have noFraction : (!([] : List Char).isEmpty || (negative && value == 0)) = false := by
    cases negative with
    | false => rfl
    | true => simpa using signed rfl
  unfold unsigned?
  simp only [List.takeWhile_eq_self_iff.2 digits, List.dropWhile_eq_nil_iff.2 digits,
    isWhole_ofNat, digitsValue_ofNat, noFraction]
  rfl

/-- An integer is read back from its text. -/
theorem scalar?_ofInt (value : Int) :
    scalar? (Text.Decimal.ofInt value) = some (.integer value) := by
  have noWord {word : List Char} {letter : Char} (member : letter ∈ word)
      (noDigit : ¬ letter.isDigit = true) (noSign : letter ≠ '-') :
      Text.Decimal.ofInt value ≠ word := by
    rintro rfl
    exact (Text.Decimal.isDigit_of_mem_ofInt member).elim noDigit noSign
  unfold scalar?
  rw [if_neg (noWord (by decide : 'l' ∈ "null".toList) (by decide) (by decide)),
    if_neg (noWord (by decide : 'r' ∈ "true".toList) (by decide) (by decide)),
    if_neg (noWord (by decide : 'l' ∈ "false".toList) (by decide) (by decide))]
  cases value with
  | ofNat value =>
      have read := unsigned?_ofNat false (Text.Decimal.ofNat value) value (by simp)
      rw [Text.Decimal.ofInt]
      unfold number?
      split
      · next signed => exact absurd signed (Text.Decimal.ofNat_ne_cons (by decide) _)
      · exact read
  | negSucc value =>
      have read := unsigned?_ofNat true ('-' :: Text.Decimal.ofNat (value + 1)) (value + 1)
        (fun _ => Nat.succ_ne_zero value)
      exact read

/-- A word or number spells its value. -/
theorem Token.Spells.literal {text : List Char} {value : Json} (nonempty : text ≠ [])
    (areScalar : ∀ character ∈ text, Scan.isScalar character = true)
    (valued : scalar? text = some value) : Token.Spells [.scalar value] text := by
  have spells := Token.Spells.scalar nonempty areScalar valued (by simp) .nil
  rwa [List.append_nil] at spells

/-- An integer is written as a text that spells it. -/
theorem Token.Spells.integer (value : Int) :
    Token.Spells [.scalar (.integer value)] (Text.Decimal.ofInt value) := by
  refine .literal (Text.Decimal.ofInt_ne_nil value) ?_ (scalar?_ofInt value)
  intro character member
  rcases Text.Decimal.isDigit_of_mem_ofInt member with digit | rfl
  · simp [Scan.isScalar, Char.isAlphanum, digit]
  · decide

/-! ### Quoted texts -/

/-- The piece that a written character is scanned into. -/
def Piece.ofWritten (character : Char) : Piece :=
  if character.toNat < 0x20 then .unit character.toNat else .plain character

/-- A unit that is no half of a surrogate pair stands for a character. -/
theorem Piece.characters?_unit {unit : Nat} (noHigh : Piece.isHigh unit = false)
    (noLow : Piece.isLow unit = false) (rest : List Piece) :
    Piece.characters? (.unit unit :: rest) =
      (Piece.characters? rest).map (Char.ofNat unit :: ·) := by
  cases rest with
  | nil => simp [characters?, noHigh, noLow]
  | cons next others => cases next <;> simp [characters?, noHigh, noLow]

/-- The pieces of written characters stand for these characters. -/
theorem Piece.characters?_map_ofWritten (characters : List Char) :
    Piece.characters? (characters.map Piece.ofWritten) = some characters := by
  induction characters with
  | nil => rfl
  | cons character rest inductionHypothesis =>
      rw [List.map_cons, Piece.ofWritten]
      split
      · next control =>
          have noHigh : Piece.isHigh character.toNat = false := by
            simp only [isHigh, Bool.and_eq_false_iff, decide_eq_false_iff_not]
            omega
          have noLow : Piece.isLow character.toNat = false := by
            simp only [isLow, Bool.and_eq_false_iff, decide_eq_false_iff_not]
            omega
          rw [characters?_unit noHigh noLow, inductionHypothesis, Char.ofNat_toNat]
          rfl
      · rw [characters?, inductionHypothesis]
        rfl

/-- The digits of a unit have its value. -/
theorem forall₂_hexDigits {unit : Nat} (bound : unit < 0x10000) :
    List.Forall₂ (fun digit value => Scan.hexDigit? digit = some value) (hexDigits unit)
      [unit / 4096, unit / 256 % 16, unit / 16 % 16, unit % 16] := by
  have digit : ∀ value < 16, Scan.hexDigit? value.digitChar = some value := by decide
  refine .cons (digit _ ?_) (.cons (digit _ ?_) (.cons (digit _ ?_) (.cons (digit _ ?_) .nil)))
  all_goals omega

/-- A written character spells its piece. -/
theorem Piece.Spells.escape_append (character : Char) {pieces : List Piece} {rest : List Char}
    (spells : Piece.Spells pieces rest) :
    Piece.Spells (.ofWritten character :: pieces) (escape character ++ rest) := by
  unfold escape
  split
  · next isQuote =>
      rw [isQuote]
      exact .letter rfl spells
  · next noQuote =>
      split
      · next isBackslash =>
          rw [isBackslash]
          exact .letter rfl spells
      · next noBackslash =>
          rw [Piece.ofWritten]
          split
          · next control =>
              have digits :=
                Piece.Spells.unit (forall₂_hexDigits (Nat.lt_trans control (by decide))) spells
              -- The digits add up to the unit.
              have value : 16 * (16 * (16 * (character.toNat / 4096) +
                  character.toNat / 256 % 16) + character.toNat / 16 % 16) +
                    character.toNat % 16 = character.toNat := by
                omega
              rwa [value] at digits
          · next noControl => exact .plain noQuote noBackslash noControl spells

/-- Written characters spell their pieces. -/
theorem Piece.Spells.flatMap_escape (characters : List Char) :
    Piece.Spells (characters.map Piece.ofWritten) (characters.flatMap escape) := by
  induction characters with
  | nil => exact .nil
  | cons character rest inductionHypothesis =>
      rw [List.map_cons, List.flatMap_cons]
      exact inductionHypothesis.escape_append character

/-- A quoted text spells the text. -/
theorem Token.Spells.quote (content : String) :
    Token.Spells [.text (some content)] (quote (some content)) := by
  have spells := Token.Spells.text (Piece.Spells.flatMap_escape content.toList) .nil
  have text : Piece.text? (content.toList.map Piece.ofWritten) = some content := by
    unfold Piece.text?
    rw [Piece.characters?_map_ofWritten, Option.map_some, String.ofList_toList]
  rwa [text] at spells

end Json
end Sudoku
