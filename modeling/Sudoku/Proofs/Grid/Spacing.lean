import Sudoku.Grid.Code
import Sudoku.Proofs.Text.Spacing

/-!
# Blanks in grid codes

Reading a code ignores blanks on both sides of a separator. This holds of codes that are
read and, with the same error, of those that are not.
-/

namespace Sudoku

variable {alphabet : Alphabet} {first second : List Char}

open Text (Respaced)

/-- The separators of a code: of the box shape and the entries, of two entries, of a value
and a box shape, and of the two dimensions of a box. -/
def Grid.separators : List Char :=
  [';', ',', '@', 'x']

namespace Grid

/-- No separator is part of a number. -/
theorem foreign_of_mem_separators : ∀ separator ∈ separators,
    Text.Decimal.Foreign separator := by
  simp only [separators, List.forall_mem_cons]
  exact ⟨⟨by decide, by decide, by decide⟩, ⟨by decide, by decide, by decide⟩,
    ⟨by decide, by decide, by decide⟩, ⟨by decide, by decide, by decide⟩, by simp⟩

/-- No separator is blank. -/
theorem isBlank_of_mem_separators :
    ∀ separator ∈ separators, Text.isBlank separator = false := by
  simp only [separators, List.forall_mem_cons]
  exact ⟨by decide, by decide, by decide, by decide, by simp⟩

end Grid

open Grid

/-! ### Numbers -/

namespace Text.Respaced

variable (respaced : Respaced separators first second)

include respaced

/-- Both texts are the same once they are trimmed, or both have a foreign character after
the same characters. -/
theorem trim_eq_or_foreign :
    Text.trim first = Text.trim second ∨
      ∃ text here there rest others, Decimal.Foreign here ∧ Decimal.Foreign there ∧
        Text.trim first = text ++ here :: rest ∧ Text.trim second = text ++ there :: others :=
  respaced.trim.eq_or_foreign (bare_trim second) foreign_of_mem_separators

theorem readNat_trim_eq :
    Decimal.readNat (Text.trim first) = Decimal.readNat (Text.trim second) := by
  rcases respaced.trim_eq_or_foreign with
    same | ⟨text, here, there, rest, others, hereForeign, thereForeign, split, splitToo⟩
  · rw [same]
  · rw [split, splitToo]
    exact Decimal.readNat_append_foreign hereForeign thereForeign text rest others

end Text.Respaced

/-! ### Box shapes -/

namespace BoxShape

/-- A box shape is read from a respaced text as it is from the text. -/
theorem ofCode?_eq_of_respaced (respaced : Respaced separators first second) :
    ofCode? first = ofCode? second := by
  have cut := respaced.pieces (isBlank_of_mem_separators 'x' (by decide))
  unfold ofCode?
  generalize Text.pieces 'x' first = pieces, Text.pieces 'x' second = others at cut ⊢
  rcases cut with _ | ⟨width, _ | ⟨height, _ | _⟩⟩
  · rfl
  · rfl
  · simp only [width.readNat_trim_eq, height.readNat_trim_eq]
  · rfl

/-- There may be blanks around a box shape. -/
theorem ofCode?_trim (text : List Char) : ofCode? (Text.trim text) = ofCode? text := by
  obtain ⟨before, after, beforeBlank, afterBlank, split⟩ := Text.padded_trim text
  have behind : Respaced separators (Text.trim text) (Text.trim text ++ after) := by
    have inserted : Respaced separators (Text.trim text ++ [])
        (Text.trim text ++ (after ++ [])) := .insert afterBlank (.inr (by simp))
    rwa [List.append_nil, List.append_nil] at inserted
  have around : Respaced separators (Text.trim text ++ after)
      (before ++ (Text.trim text ++ after)) := .prepend beforeBlank _
  rw [ofCode?_eq_of_respaced behind, ofCode?_eq_of_respaced around, ← split]

end BoxShape

/-! ### Entries -/

namespace Grid

/-- The value of a cell is read from a respaced text as it is from the text. -/
theorem readValue_eq_of_respaced (respaced : Respaced separators first second)
    (location : Location) :
    (readValue location (Text.trim first) : Except Error (Option (Symbol alphabet))) =
      readValue location (Text.trim second) := by
  rcases respaced.trim_eq_or_foreign with
    same | ⟨text, here, there, rest, others, hereForeign, thereForeign, split, splitToo⟩
  · rw [same]
  · have numbers := Text.Decimal.readInt_append_foreign hereForeign thereForeign text rest others
    unfold readValue
    rw [split, splitToo, numbers]
    simp

/-- A cell is read from a respaced entry as it is from the entry. -/
theorem readEntry_eq_of_respaced (respaced : Respaced separators first second)
    (location : Location) :
    (readEntry location first : Except Error (Cell alphabet)) = readEntry location second := by
  obtain ⟨values, shapes⟩ := respaced.cutOnce (isBlank_of_mem_separators '@' (by decide))
  unfold readEntry
  rw [readValue_eq_of_respaced values]
  rcases shapes with ⟨none, noneToo⟩ | ⟨shape, other, some, someToo, respacedShape⟩
  · rw [none, noneToo]
  · simp only [some, someToo, BoxShape.ofCode?_trim,
      BoxShape.ofCode?_eq_of_respaced respacedShape]

/-- The cells of a grid are read from respaced entries as they are from the entries. -/
theorem readEntries_eq_of_respaced {entries others : List (List Char)}
    (respaced : List.Forall₂ (Respaced separators) entries others) (size number : Nat) :
    (readEntries size number entries : Except Error (List (Cell alphabet))) =
      readEntries size number others := by
  induction respaced generalizing number with
  | nil => rfl
  | cons head _ inductionHypothesis =>
      rw [readEntries, readEntries, readEntry_eq_of_respaced head, inductionHypothesis]

/-- A grid is read from a respaced code as it is from the code. -/
theorem readCode_eq_of_respaced (respaced : Respaced separators first second) :
    (readCode first : Except Error (Grid alphabet)) = readCode second := by
  have cut := respaced.pieces (isBlank_of_mem_separators ';' (by decide))
  unfold readCode
  generalize Text.pieces ';' first = pieces, Text.pieces ';' second = others at cut ⊢
  rcases cut with _ | ⟨shape, _ | ⟨entries, _ | _⟩⟩
  · rfl
  · rfl
  · have respacedEntries := entries.pieces (isBlank_of_mem_separators ',' (by decide))
    simp only [BoxShape.ofCode?_trim, BoxShape.ofCode?_eq_of_respaced shape,
      respacedEntries.length_eq, readEntries_eq_of_respaced respacedEntries]
  · rfl

end Grid
end Sudoku
