import Sudoku.Text.Blank
import Sudoku.Text.Pieces

/-!
# Cutting what was joined

Cutting at a separator undoes joining when the separator does not occur within the
texts that were joined. Trimming leaves a text without blanks as it is.
-/

namespace Sudoku
namespace Text

/-- The separator starts a new first piece. -/
theorem attach_separator (separator : Char) (pieces : List (List Char)) :
    attach separator separator pieces = [] :: pieces :=
  if_pos rfl

/-- Every other character goes to the front of the first piece. -/
theorem attach_of_ne {separator character : Char} (differs : character ≠ separator)
    (piece : List Char) (others : List (List Char)) :
    attach separator character (piece :: others) = (character :: piece) :: others :=
  if_neg differs

/-- A text without the separator is one piece. -/
theorem pieces_of_not_mem {separator : Char} {text : List Char}
    (free : separator ∉ text) : pieces separator text = [text] := by
  induction text with
  | nil => rfl
  | cons character rest inductionHypothesis =>
      rw [List.mem_cons, not_or] at free
      rw [pieces_cons, inductionHypothesis free.2, attach_of_ne (Ne.symm free.1)]

/-- The first piece ends at the first separator. -/
theorem pieces_append {separator : Char} {text : List Char} (free : separator ∉ text)
    (rest : List Char) :
    pieces separator (text ++ separator :: rest) = text :: pieces separator rest := by
  induction text with
  | nil =>
      rw [List.nil_append, pieces_cons, attach_separator]
  | cons character others inductionHypothesis =>
      rw [List.mem_cons, not_or] at free
      rw [List.cons_append, pieces_cons, inductionHypothesis free.2,
        attach_of_ne (Ne.symm free.1)]

/-- The characters of joined texts are those of the texts and the separator. -/
theorem mem_join {separator character : Char} {texts : List (List Char)}
    (member : character ∈ join separator texts) :
    character = separator ∨ ∃ text ∈ texts, character ∈ text := by
  fun_induction join separator texts with
  | case1 => simp at member
  | case2 text => exact .inr ⟨text, List.mem_cons_self, member⟩
  | case3 text others _ inductionHypothesis =>
      rcases List.mem_append.1 member with inText | behind
      · exact .inr ⟨text, List.mem_cons_self, inText⟩
      · rcases List.mem_cons.1 behind with isSeparator | inOthers
        · exact .inl isSeparator
        · exact (inductionHypothesis inOthers).imp_right fun ⟨other, isOther, inOther⟩ =>
            ⟨other, List.mem_cons_of_mem text isOther, inOther⟩

/-- The characters of the texts are in what is joined of them. -/
theorem mem_join_of_mem {separator character : Char} {text : List Char}
    {texts : List (List Char)} (isText : text ∈ texts) (member : character ∈ text) :
    character ∈ join separator texts := by
  fun_induction join separator texts with
  | case1 => simp at isText
  | case2 only =>
      rwa [List.mem_singleton.1 isText] at member
  | case3 first others _ inductionHypothesis =>
      rcases List.mem_cons.1 isText with rfl | isOther
      · exact List.mem_append_left _ member
      · exact List.mem_append_right _ (List.mem_cons_of_mem _ (inductionHypothesis isOther))

/-- Cutting undoes joining. -/
theorem pieces_join {separator : Char} {texts : List (List Char)} (nonempty : texts ≠ [])
    (free : ∀ text ∈ texts, separator ∉ text) :
    pieces separator (join separator texts) = texts := by
  induction texts with
  | nil => exact absurd rfl nonempty
  | cons text others inductionHypothesis =>
      have textFree := free text List.mem_cons_self
      cases others with
      | nil => exact pieces_of_not_mem textFree
      | cons second rest =>
          have othersFree := fun other member => free other (List.mem_cons_of_mem text member)
          rw [join, pieces_append textFree,
            inductionHypothesis (List.cons_ne_nil _ _) othersFree]
          simp

/-- Joining texts puts the separator between them. -/
theorem join_eq_intercalate (separator : Char) (texts : List (List Char)) :
    join separator texts = [separator].intercalate texts := by
  fun_induction join separator texts with
  | case1 => rfl
  | case2 text => rw [List.intercalate_singleton]
  | case3 text others nonempty inductionHypothesis =>
      obtain ⟨second, rest, rfl⟩ := List.exists_cons_of_ne_nil nonempty
      rw [inductionHypothesis, List.intercalate_cons_cons, List.append_assoc,
        List.singleton_append]

/-- A text without blanks is left as it is by trimming. -/
theorem trim_eq_self {text : List Char}
    (noBlank : ∀ character ∈ text, isBlank character = false) : trim text = text := by
  have kept {others : List Char} (noBlank : ∀ character ∈ others, isBlank character = false) :
      others.dropWhile isBlank = others := by
    cases others with
    | nil => rfl
    | cons character rest =>
        rw [List.dropWhile_cons_of_neg (by simp [noBlank character List.mem_cons_self])]
  unfold trim
  rw [kept noBlank, kept, List.reverse_reverse]
  intro character member
  exact noBlank character (List.mem_reverse.1 member)

end Text
end Sudoku
