import Mathlib.Data.List.Basic
import Sudoku.Proofs.Json.Grammar

/-!
# Scanning what the grammar spells

A scan that is between tokens goes on in the same way whatever came before. After a word
or number it still has to see where that ends, and whatever cannot belong to it shows it.
So every text is scanned into the tokens that it spells.
-/

namespace Sudoku
namespace Json

namespace Scan

/-! ### Complete tokens -/

/-- The tokens of a scan whose last token is complete, when no more of the text belongs
to it. -/
def settled? (scan : Scan) : Option (List Token) :=
  match scan.place with
  | .between => some scan.tokens
  | .scalar characters => endScalar scan.tokens characters
  | _ => none

/-- A scan can finish when its last token is complete. -/
theorem finish_eq (scan : Scan) : scan.finish = scan.settled?.map List.reverse := by
  obtain ⟨place, tokens⟩ := scan
  cases place <;> rfl

/-- A mark is neither white space nor a quote nor part of a word or number. -/
theorem stepBetween_mark {mark : Char} {token : Token} (isMark : mark? mark = some token)
    (tokens : List Token) : stepBetween tokens mark = some ⟨.between, token :: tokens⟩ := by
  unfold mark? at isMark
  split at isMark
  case h_7 => simp at isMark
  all_goals
    rw [← Option.some.inj isMark]
    rfl

/-! ### Quoted texts -/

/-- A letter that stands for a character is not the one before a unit. -/
theorem stepEscaped_letter {letter character : Char}
    (standsFor : escaped? letter = some character) (tokens : List Token)
    (pieces : List Piece) :
    stepEscaped tokens pieces letter = some ⟨.quoted (.plain character :: pieces), tokens⟩ := by
  have noUnit : letter ≠ 'u' := by
    rintro rfl
    simp [escaped?] at standsFor
  unfold stepEscaped
  rw [if_neg noUnit, standsFor, Option.map_some]

/-- Four digits are scanned into a unit. -/
theorem foldlM_digits {digits : List Char} {first second third fourth : Nat}
    (valued : List.Forall₂ (fun digit value => hexDigit? digit = some value) digits
      [first, second, third, fourth])
    (pieces : List Piece) (tokens : List Token) :
    digits.foldlM step ⟨.unit pieces 0 0, tokens⟩ =
      some ⟨.quoted (.unit (16 * (16 * (16 * first + second) + third) + fourth) :: pieces),
        tokens⟩ := by
  rcases valued with _ | ⟨oneValued, _ | ⟨twoValued, _ | ⟨threeValued, _ | ⟨fourValued, ⟨⟩⟩⟩⟩⟩
  simp [step, stepUnit, oneValued, twoValued, threeValued, fourValued]

end Scan

/-- The characters between quotes are scanned into the pieces that they spell. -/
theorem Piece.Spells.foldlM_step {pieces : List Piece} {inner : List Char}
    (spells : Piece.Spells pieces inner) (before : List Piece) (tokens : List Token) :
    inner.foldlM Scan.step ⟨.quoted before, tokens⟩ =
      some ⟨.quoted (pieces.reverse ++ before), tokens⟩ := by
  induction spells generalizing before with
  | nil => rfl
  | @plain character _ _ noQuote noBackslash noControl _ inductionHypothesis =>
      have stepped : Scan.step ⟨.quoted before, tokens⟩ character =
          some ⟨.quoted (.plain character :: before), tokens⟩ := by
        simp [Scan.step, Scan.stepQuoted, noQuote, noBackslash, noControl]
      rw [List.foldlM_cons, stepped, Option.bind_eq_bind, Option.bind_some,
        inductionHypothesis]
      simp
  | @letter letter character _ _ standsFor _ inductionHypothesis =>
      have escaped : Scan.step ⟨.quoted before, tokens⟩ '\\' =
          some ⟨.escaped before, tokens⟩ := rfl
      have stepped : Scan.step ⟨.escaped before, tokens⟩ letter =
          some ⟨.quoted (.plain character :: before), tokens⟩ :=
        Scan.stepEscaped_letter standsFor tokens before
      rw [List.foldlM_cons, escaped, Option.bind_eq_bind, Option.bind_some, List.foldlM_cons,
        stepped, Option.bind_eq_bind, Option.bind_some, inductionHypothesis]
      simp
  | unit valued _ inductionHypothesis =>
      have escaped : Scan.step ⟨.quoted before, tokens⟩ '\\' =
          some ⟨.escaped before, tokens⟩ := rfl
      have opened : Scan.step ⟨.escaped before, tokens⟩ 'u' =
          some ⟨.unit before 0 0, tokens⟩ := rfl
      rw [List.cons_append, List.cons_append, List.foldlM_cons, escaped, Option.bind_eq_bind,
        Option.bind_some, List.foldlM_cons, opened, Option.bind_eq_bind, Option.bind_some,
        List.foldlM_append, Scan.foldlM_digits valued, Option.bind_eq_bind, Option.bind_some,
        inductionHypothesis]
      simp

/-! ### Words and numbers -/

/-- A character of a word or number is neither white space nor a quote. -/
theorem Scan.stepBetween_scalar {character : Char}
    (isScalar : Scan.isScalar character = true) (tokens : List Token) :
    Scan.stepBetween tokens character = some ⟨.scalar [character], tokens⟩ := by
  have noSpace : ¬ Scan.isSpace character = true := by
    intro isSpace
    simp only [Scan.isSpace, Bool.or_eq_true, beq_iff_eq] at isSpace
    rcases isSpace with ((rfl | rfl) | rfl) | rfl <;> exact absurd isScalar (by decide)
  have noQuote : character ≠ '"' := by
    rintro rfl
    exact absurd isScalar (by decide)
  unfold Scan.stepBetween
  rw [if_neg noSpace, if_neg noQuote, if_pos isScalar]

/-- The characters of a word or number are gathered. -/
theorem Scan.foldlM_scalar {literal : List Char} (nonempty : literal ≠ [])
    (areScalar : ∀ character ∈ literal, isScalar character = true) (before : List Token) :
    literal.foldlM step ⟨.between, before⟩ = some ⟨.scalar literal.reverse, before⟩ := by
  have goesOn {characters rest : List Char}
      (restScalar : ∀ character ∈ rest, isScalar character = true) :
      rest.foldlM step ⟨.scalar characters, before⟩ =
        some ⟨.scalar (rest.reverse ++ characters), before⟩ := by
    induction rest generalizing characters with
    | nil => rfl
    | cons character others inductionHypothesis =>
        have isScalar := restScalar character List.mem_cons_self
        have stepped : step ⟨.scalar characters, before⟩ character =
            some ⟨.scalar (character :: characters), before⟩ := if_pos isScalar
        rw [List.foldlM_cons, stepped, Option.bind_eq_bind, Option.bind_some,
          inductionHypothesis fun other member =>
            restScalar other (List.mem_cons_of_mem character member)]
        simp
  cases literal with
  | nil => exact absurd rfl nonempty
  | cons character rest =>
      have started : step ⟨.between, before⟩ character =
          some ⟨.scalar [character], before⟩ :=
        stepBetween_scalar (areScalar character List.mem_cons_self) before
      rw [List.foldlM_cons, started, Option.bind_eq_bind, Option.bind_some,
        goesOn fun other member => areScalar other (List.mem_cons_of_mem character member)]
      simp

/-- A word or number is complete when the text ends or goes on with a character that does not
belong to it, and the rest is then scanned as between tokens. -/
theorem Scan.foldlM_after_scalar {literal rest : List Char} {value : Json}
    (valued : scalar? literal = some value)
    (ends : ∀ character ∈ rest.head?, isScalar character = false) (before : List Token) :
    (rest.foldlM step ⟨.scalar literal.reverse, before⟩).bind settled? =
      (rest.foldlM step ⟨.between, .scalar value :: before⟩).bind settled? := by
  have ended : endScalar before literal.reverse = some (.scalar value :: before) := by
    rw [endScalar, List.reverse_reverse, valued, Option.map_some]
  cases rest with
  | nil => exact ended
  | cons character others =>
      have stepped : step ⟨.scalar literal.reverse, before⟩ character =
          step ⟨.between, .scalar value :: before⟩ character := by
        simp only [step, ends character rfl, ended]
        rfl
      rw [List.foldlM_cons, List.foldlM_cons, stepped]

/-! ### Texts -/

/-- A text is scanned into the tokens that it spells, wherever the scan is between tokens. -/
theorem Token.Spells.foldlM_step {tokens : List Token} {text : List Char}
    (spells : Token.Spells tokens text) (before : List Token) :
    (text.foldlM Scan.step ⟨.between, before⟩).bind Scan.settled? =
      some (tokens.reverse ++ before) := by
  induction spells generalizing before with
  | nil => rfl
  | @blank character _ _ isSpace _ inductionHypothesis =>
      have stepped : Scan.step ⟨.between, before⟩ character = some ⟨.between, before⟩ :=
        if_pos isSpace
      rw [List.foldlM_cons, stepped, Option.bind_eq_bind, Option.bind_some,
        inductionHypothesis]
  | @mark character token _ _ isMark _ inductionHypothesis =>
      have stepped : Scan.step ⟨.between, before⟩ character =
          some ⟨.between, token :: before⟩ :=
        Scan.stepBetween_mark isMark before
      rw [List.foldlM_cons, stepped, Option.bind_eq_bind, Option.bind_some,
        inductionHypothesis]
      simp
  | @text pieces inner tokens rest quoted _ inductionHypothesis =>
      have opened : Scan.step ⟨.between, before⟩ '"' = some ⟨.quoted [], before⟩ := rfl
      have closed : Scan.step ⟨.quoted (pieces.reverse ++ []), before⟩ '"' =
          some ⟨.between, .text (Piece.text? pieces) :: before⟩ := by
        simp [Scan.step, Scan.stepQuoted, Scan.add]
      rw [List.foldlM_cons, opened, Option.bind_eq_bind, Option.bind_some, List.foldlM_append,
        quoted.foldlM_step, Option.bind_eq_bind, Option.bind_some, List.foldlM_cons, closed,
        Option.bind_eq_bind, Option.bind_some, inductionHypothesis]
      simp
  | scalar nonempty areScalar valued ends _ inductionHypothesis =>
      rw [List.foldlM_append, Scan.foldlM_scalar nonempty areScalar, Option.bind_eq_bind,
        Option.bind_some, Scan.foldlM_after_scalar valued ends, inductionHypothesis]
      simp

/-- A whole text is scanned into the tokens that it spells. -/
theorem Token.Spells.ofText? {tokens : List Token} {text : List Char}
    (spells : Token.Spells tokens text) : Token.ofText? text = some tokens := by
  have scanned := spells.foldlM_step []
  unfold Token.ofText?
  rw [Option.bind_eq_some_iff] at scanned ⊢
  obtain ⟨scan, scanned, settled⟩ := scanned
  refine ⟨scan, scanned, ?_⟩
  rw [Scan.finish_eq, settled]
  simp

end Json
end Sudoku
