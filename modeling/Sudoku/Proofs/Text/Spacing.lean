import Mathlib.Data.List.DropRight
import Mathlib.Data.List.Forall2
import Sudoku.Proofs.Text.Numerals
import Sudoku.Proofs.Text.Pieces

/-!
# Blanks in texts

Trimming a text leaves what is between the blanks at its two ends. Blanks that are put at
an end of a text or next to a separator stay there when the text is cut and its parts are
trimmed, so that they are trimmed away in the end. Where a separator is left over, there
is no number with the blanks nor without them.
-/

namespace Sudoku
namespace Text

/-! ### Trimming -/

/-- A text of blanks. -/
def Blank (text : List Char) : Prop :=
  ∀ character ∈ text, isBlank character = true

instance (text : List Char) : Decidable (Blank text) :=
  List.decidableBAll (fun character => isBlank character = true) text

/-- A text that neither begins nor ends with a blank. -/
structure Bare (text : List Char) : Prop where
  first : ∀ character ∈ text.head?, isBlank character = false
  last : ∀ character ∈ text.getLast?, isBlank character = false

/-- A text consists of a core and of the blanks around it. -/
def Padded (core text : List Char) : Prop :=
  ∃ before after, Blank before ∧ Blank after ∧ text = before ++ (core ++ after)

theorem trim_eq_rdropWhile (text : List Char) :
    trim text = (text.dropWhile isBlank).rdropWhile isBlank :=
  rfl

theorem Blank.append {first second : List Char} (firstBlank : Blank first)
    (secondBlank : Blank second) : Blank (first ++ second) :=
  List.forall_mem_append.2 ⟨firstBlank, secondBlank⟩

/-- Blanks before a text are trimmed away. -/
theorem trim_append_of_blank {blanks : List Char} (blank : Blank blanks) (text : List Char) :
    trim (blanks ++ text) = trim text := by
  rw [trim_eq_rdropWhile, List.dropWhile_append_of_pos blank, ← trim_eq_rdropWhile]

/-- What begins with no blank begins with none after the blanks before it are gone. -/
theorem head?_dropWhile_isBlank (text : List Char) :
    ∀ character ∈ (text.dropWhile isBlank).head?, isBlank character = false := by
  intro character first
  have notBlank := List.head?_dropWhile_not isBlank text
  rw [Option.mem_def] at first
  rw [first] at notBlank
  simpa using notBlank

/-- What is left after the blanks at the end are gone ends with no blank. -/
theorem getLast?_rdropWhile_isBlank (text : List Char) :
    ∀ character ∈ (text.rdropWhile isBlank).getLast?, isBlank character = false := by
  intro character last
  obtain ⟨nonempty, rfl⟩ := List.mem_getLast?_eq_getLast last
  simpa using List.rdropWhile_last_not isBlank text nonempty

/-- A trimmed text begins and ends with no blank. -/
theorem bare_trim (text : List Char) : Bare (trim text) where
  first character first := by
    obtain ⟨behind, split⟩ := List.rdropWhile_prefix isBlank (text.dropWhile isBlank)
    apply head?_dropWhile_isBlank text character
    rw [← split]
    exact List.mem_head?_append_of_mem_head? first
  last := getLast?_rdropWhile_isBlank _

/-- What is trimmed away is blank. -/
theorem padded_trim (text : List Char) : Padded (trim text) text := by
  refine ⟨text.takeWhile isBlank, (text.dropWhile isBlank).rtakeWhile isBlank, ?_, ?_, ?_⟩
  · exact fun character member => List.mem_takeWhile_imp member
  · exact fun character member => List.mem_rtakeWhile_imp member
  · rw [trim_eq_rdropWhile, List.rdropWhile_append_rtakeWhile, List.takeWhile_append_dropWhile]

/-- Trimming leaves the core of a text. -/
theorem Padded.trim_eq {core text : List Char} (padded : Padded core text)
    (bare : Bare core) : trim text = core := by
  obtain ⟨before, after, beforeBlank, afterBlank, rfl⟩ := padded
  have dropped : (core ++ after).rdropWhile isBlank = core.rdropWhile isBlank := by
    unfold List.rdropWhile
    rw [List.reverse_append, List.dropWhile_append_of_pos]
    exact fun character member => afterBlank character (List.mem_reverse.1 member)
  rw [trim_append_of_blank beforeBlank, trim_eq_rdropWhile]
  cases core with
  | nil =>
      rw [List.nil_append, List.dropWhile_eq_nil_iff.2 afterBlank]
      rfl
  | cons character rest =>
      have first := bare.first character rfl
      rw [List.cons_append, List.dropWhile_cons_of_neg (by simp [first]), ← List.cons_append,
        dropped, List.rdropWhile_eq_self_iff]
      intro nonempty
      have last := bare.last _ (List.getLast?_eq_some_getLast nonempty)
      simp [last]

/-- What trimming leaves is the core. -/
theorem trim_eq_iff {core : List Char} (bare : Bare core) (text : List Char) :
    trim text = core ↔ Padded core text := by
  constructor
  · rintro rfl
    exact padded_trim text
  · exact fun padded => padded.trim_eq bare

/-! ### Characters that end a number -/

/-- A blank is neither a digit nor a sign. -/
theorem foreign_of_isBlank {character : Char} (blank : isBlank character = true) :
    Decimal.Foreign character where
  noDigit := by
    cases isDigit : character.isDigit with
    | false => rfl
    | true =>
        rw [isBlank_of_isDigit isDigit] at blank
        simp at blank
  noPlus := by
    rintro rfl
    exact absurd blank (by decide)
  noMinus := by
    rintro rfl
    exact absurd blank (by decide)

/-! ### Cutting -/

/-- The pieces of a text are those that it is joined from. -/
theorem pieces_eq_iff {separator : Char} (text : List Char) (texts : List (List Char)) :
    pieces separator text = texts ↔
      texts ≠ [] ∧ (∀ piece ∈ texts, separator ∉ piece) ∧ text = join separator texts := by
  constructor
  · rintro rfl
    refine ⟨pieces_ne_nil separator text, ?_, (join_pieces separator text).symm⟩
    induction text with
    | nil => simp
    | cons character rest inductionHypothesis =>
        rw [pieces_cons]
        unfold attach
        split
        · exact List.forall_mem_cons.2 ⟨by simp, inductionHypothesis⟩
        · next differs =>
            split
            · simp [Ne.symm differs]
            · next piece others cut =>
                rw [cut] at inductionHypothesis
                obtain ⟨free, othersFree⟩ := List.forall_mem_cons.1 inductionHypothesis
                refine List.forall_mem_cons.2 ⟨?_, othersFree⟩
                rw [List.mem_cons, not_or]
                exact ⟨Ne.symm differs, free⟩
  · rintro ⟨nonempty, free, rfl⟩
    exact pieces_join nonempty free

/-- The first piece of a text is where the text begins. -/
theorem prefix_of_pieces_eq {separator : Char} {text piece : List Char}
    {others : List (List Char)} (cut : pieces separator text = piece :: others) :
    piece <+: text := by
  obtain ⟨_, _, rfl⟩ := (pieces_eq_iff _ _).1 cut
  cases others with
  | nil => exact List.prefix_rfl
  | cons second rest => exact List.prefix_append _ _

/-- Text without the separator goes to the front of the first piece. -/
theorem pieces_append_of_free {separator : Char} {text rest piece : List Char}
    {others : List (List Char)} (free : separator ∉ text)
    (cut : pieces separator rest = piece :: others) :
    pieces separator (text ++ rest) = (text ++ piece) :: others := by
  induction text with
  | nil => exact cut
  | cons character behind inductionHypothesis =>
      rw [List.mem_cons, not_or] at free
      rw [List.cons_append, pieces_cons, inductionHypothesis free.2,
        attach_of_ne (Ne.symm free.1)]
      rfl

/-- What is behind the last separator of a text goes in front of the first piece of what
follows. -/
theorem exists_pieces_append (separator : Char) (text : List Char) :
    ∃ earlier last, last <:+ text ∧ (earlier = [] → last = text) ∧
      ∀ rest piece others, pieces separator rest = piece :: others →
        pieces separator (text ++ rest) = earlier ++ (last ++ piece) :: others := by
  induction text with
  | nil => exact ⟨[], [], List.suffix_rfl, fun _ => rfl, fun _ _ _ cut => cut⟩
  | cons character behind inductionHypothesis =>
      obtain ⟨earlier, last, isSuffix, whole, cuts⟩ := inductionHypothesis
      by_cases isSeparator : character = separator
      · refine ⟨[] :: earlier, last, isSuffix.trans (List.suffix_cons _ _), by simp, ?_⟩
        intro rest piece others cut
        rw [List.cons_append, pieces_cons, cuts rest piece others cut, isSeparator,
          attach_separator, List.cons_append]
      · cases earlier with
        | nil =>
            refine ⟨[], character :: behind, List.suffix_rfl, fun _ => rfl, ?_⟩
            intro rest piece others cut
            rw [List.cons_append, pieces_cons, cuts rest piece others cut, whole rfl,
              List.nil_append, attach_of_ne isSeparator]
            rfl
        | cons first more =>
            refine ⟨(character :: first) :: more, last,
              isSuffix.trans (List.suffix_cons _ _), by simp, ?_⟩
            intro rest piece others cut
            rw [List.cons_append, pieces_cons, cuts rest piece others cut, List.cons_append,
              attach_of_ne isSeparator]
            rfl

/-! ### Cutting once -/

/-- The characters of a text without a mark differ from it. -/
theorem bne_of_not_mem {mark : Char} {text : List Char} (free : mark ∉ text) :
    ∀ character ∈ text, (character != mark) = true := by
  intro character member
  rw [bne_iff_ne]
  rintro rfl
  exact free member

/-- A text without a mark is all there is before the first mark. -/
theorem takeWhile_of_not_mem {mark : Char} {text : List Char} (free : mark ∉ text) :
    text.takeWhile (· != mark) = text :=
  List.takeWhile_eq_self_iff.2 (bne_of_not_mem free)

/-- A text without a mark has nothing from the first mark on. -/
theorem dropWhile_of_not_mem {mark : Char} {text : List Char} (free : mark ∉ text) :
    text.dropWhile (· != mark) = [] :=
  List.dropWhile_eq_nil_iff.2 (bne_of_not_mem free)

/-- What is before the first mark. -/
theorem takeWhile_append_mark {mark : Char} {text : List Char} (free : mark ∉ text)
    (rest : List Char) : (text ++ mark :: rest).takeWhile (· != mark) = text := by
  rw [List.takeWhile_append_of_pos (bne_of_not_mem free), List.takeWhile_cons_of_neg (by simp),
    List.append_nil]

/-- What is from the first mark on. -/
theorem dropWhile_append_mark {mark : Char} {text : List Char} (free : mark ∉ text)
    (rest : List Char) : (text ++ mark :: rest).dropWhile (· != mark) = mark :: rest := by
  rw [List.dropWhile_append_of_pos (bne_of_not_mem free), List.dropWhile_cons_of_neg (by simp)]

/-! ### Respacing -/

/-- Between two texts is the end of one of them, or a separator. -/
def Seam (separators before after : List Char) : Prop :=
  (∀ character ∈ before.getLast?, character ∈ separators) ∨
    ∀ character ∈ after.head?, character ∈ separators

/-- A text becomes another one by blanks that are inserted at a seam. -/
inductive Respaced (separators : List Char) : List Char → List Char → Prop
  | insert {before blanks after : List Char} (blank : Blank blanks)
      (seam : Seam separators before after) :
      Respaced separators (before ++ after) (before ++ (blanks ++ after))

variable {separators : List Char}

/-- A seam stays one when only the text around it is left. -/
theorem Seam.mono {before after left right : List Char} (seam : Seam separators before after)
    (isSuffix : left <:+ before) (isPrefix : right <+: after) :
    Seam separators left right := by
  obtain ⟨earlier, rfl⟩ := isSuffix
  obtain ⟨later, rfl⟩ := isPrefix
  rcases seam with last | first
  · exact .inl fun character member =>
      last character (List.mem_getLast?_append_of_mem_getLast? member)
  · exact .inr fun character member =>
      first character (List.mem_head?_append_of_mem_head? member)

namespace Respaced

/-- Nothing has to be inserted. -/
theorem refl (text : List Char) : Respaced separators text text := by
  have inserted : Respaced separators ([] ++ text) ([] ++ ([] ++ text)) :=
    .insert (by simp [Blank]) (.inl (by simp))
  exact inserted

/-- Blanks at the beginning of a text. -/
theorem prepend {blanks : List Char} (blank : Blank blanks) (text : List Char) :
    Respaced separators text (blanks ++ text) := by
  have inserted : Respaced separators ([] ++ text) ([] ++ (blanks ++ text)) :=
    .insert blank (.inl (by simp))
  exact inserted

variable {first second : List Char}

/-- The pieces of a respaced text are respaced. -/
theorem pieces (respaced : Respaced separators first second) {separator : Char}
    (notBlank : isBlank separator = false) :
    List.Forall₂ (Respaced separators) (pieces separator first)
      (Text.pieces separator second) := by
  obtain ⟨blank, seam⟩ := respaced
  next before blanks after =>
  have free : separator ∉ blanks := by
    intro member
    rw [blank separator member] at notBlank
    simp at notBlank
  obtain ⟨earlier, last, isSuffix, _, cuts⟩ := exists_pieces_append separator before
  obtain ⟨piece, others, cut⟩ := List.exists_cons_of_ne_nil (pieces_ne_nil separator after)
  rw [cuts _ _ _ cut, cuts _ _ _ (pieces_append_of_free free cut)]
  refine List.rel_append (List.forall₂_same.2 fun text _ => refl text) (.cons ?_ ?_)
  · exact .insert blank (seam.mono isSuffix (prefix_of_pieces_eq cut))
  · exact List.forall₂_same.2 fun text _ => refl text

/-- What is before the first mark of a respaced text is respaced, and so is what is behind
it. -/
theorem cutOnce (respaced : Respaced separators first second) {mark : Char}
    (notBlank : isBlank mark = false) :
    Respaced separators (first.takeWhile (· != mark)) (second.takeWhile (· != mark)) ∧
      (first.dropWhile (· != mark) = [] ∧ second.dropWhile (· != mark) = [] ∨
        ∃ rest others, first.dropWhile (· != mark) = mark :: rest ∧
          second.dropWhile (· != mark) = mark :: others ∧ Respaced separators rest others) := by
  obtain ⟨blank, seam⟩ := respaced
  next before blanks after =>
  have blanksFree : mark ∉ blanks := by
    intro member
    rw [blank mark member] at notBlank
    simp at notBlank
  by_cases marked : mark ∈ before
  · obtain ⟨left, right, rfl, free⟩ := List.eq_append_cons_of_mem marked
    simp only [List.append_assoc, List.cons_append, takeWhile_append_mark free,
      dropWhile_append_mark free]
    refine ⟨refl left, .inr ⟨_, _, rfl, rfl, .insert blank ?_⟩⟩
    refine seam.mono ?_ List.prefix_rfl
    exact (List.suffix_cons mark right).trans (List.suffix_append _ _)
  by_cases markedAfter : mark ∈ after
  · obtain ⟨left, right, rfl, free⟩ := List.eq_append_cons_of_mem markedAfter
    have beforeFree : mark ∉ before ++ left := by simp [marked, free]
    have respacedFree : mark ∉ before ++ (blanks ++ left) := by
      simp [marked, free, blanksFree]
    rw [← List.append_assoc before, ← List.append_assoc blanks, ← List.append_assoc before,
      takeWhile_append_mark beforeFree, takeWhile_append_mark respacedFree,
      dropWhile_append_mark beforeFree, dropWhile_append_mark respacedFree]
    refine ⟨.insert blank (seam.mono List.suffix_rfl (List.prefix_append _ _)),
      .inr ⟨_, _, rfl, rfl, refl right⟩⟩
  · have beforeFree : mark ∉ before ++ after := by simp [marked, markedAfter]
    have respacedFree : mark ∉ before ++ (blanks ++ after) := by
      simp [marked, markedAfter, blanksFree]
    rw [takeWhile_of_not_mem beforeFree, takeWhile_of_not_mem respacedFree,
      dropWhile_of_not_mem beforeFree, dropWhile_of_not_mem respacedFree]
    exact ⟨.insert blank seam, .inl ⟨rfl, rfl⟩⟩

/-- A respaced text is respaced once both are trimmed. -/
theorem trim (respaced : Respaced separators first second) :
    Respaced separators (trim first) (Text.trim second) := by
  obtain ⟨blank, seam⟩ := respaced
  next before blanks after =>
  by_cases beforeBlank : Blank before
  · rw [trim_append_of_blank beforeBlank, trim_append_of_blank beforeBlank,
      trim_append_of_blank blank]
    exact refl _
  by_cases afterBlank : Blank after
  · have padded (added : List Char) (addedBlank : Blank added) :
        Text.trim (before ++ added) = Text.trim before := by
      obtain ⟨left, right, leftBlank, rightBlank, split⟩ := padded_trim before
      apply Padded.trim_eq _ (bare_trim before)
      refine ⟨left, right ++ added, leftBlank, rightBlank.append addedBlank, ?_⟩
      rw [← List.append_assoc (Text.trim before), ← List.append_assoc left, ← split]
    rw [padded after afterBlank, padded _ (blank.append afterBlank)]
    exact refl _
  -- Neither text is blank, and what is trimmed away of them is not at the seam.
  have core (between : List Char) :
      Text.trim (before ++ (between ++ after)) =
        before.dropWhile isBlank ++ (between ++ after.rdropWhile isBlank) := by
    apply Padded.trim_eq
    · refine ⟨before.takeWhile isBlank, after.rtakeWhile isBlank, ?_, ?_, ?_⟩
      · exact fun character member => List.mem_takeWhile_imp member
      · exact fun character member => List.mem_rtakeWhile_imp member
      · rw [List.append_assoc, List.append_assoc, List.rdropWhile_append_rtakeWhile,
          ← List.append_assoc (before.takeWhile isBlank), List.takeWhile_append_dropWhile]
    · have leftNonempty : before.dropWhile isBlank ≠ [] :=
        mt List.dropWhile_eq_nil_iff.1 beforeBlank
      have rightNonempty : after.rdropWhile isBlank ≠ [] :=
        mt List.rdropWhile_eq_nil_iff.1 afterBlank
      constructor
      · rw [List.head?_append_of_ne_nil _ leftNonempty]
        exact head?_dropWhile_isBlank before
      · rw [List.getLast?_append_of_ne_nil _ (by simp [rightNonempty]),
          List.getLast?_append_of_ne_nil _ rightNonempty]
        exact getLast?_rdropWhile_isBlank after
  have unspaced := core []
  rw [List.nil_append, List.nil_append] at unspaced
  rw [unspaced, core blanks]
  refine .insert blank (seam.mono ?_ (List.rdropWhile_prefix isBlank after))
  exact List.dropWhile_suffix isBlank

/-- Where a trimmed text is respaced, both of them have a separator or a blank, after the
same characters. -/
theorem eq_or_foreign (respaced : Respaced separators first second) (bare : Bare second)
    (foreign : ∀ separator ∈ separators, Decimal.Foreign separator) :
    first = second ∨ ∃ text here there rest others, Decimal.Foreign here ∧
      Decimal.Foreign there ∧ first = text ++ here :: rest ∧ second = text ++ there :: others := by
  obtain ⟨blank, seam⟩ := respaced
  next before blanks after =>
  cases blanks with
  | nil => exact .inl rfl
  | cons inserted more =>
      right
      have insertedBlank := blank inserted List.mem_cons_self
      rcases seam with last | next
      · rcases List.eq_nil_or_concat before with rfl | ⟨text, separator, rfl⟩
        · have notBlank := bare.first inserted rfl
          rw [insertedBlank] at notBlank
          simp at notBlank
        · have isForeign := foreign separator (last separator (by simp))
          exact ⟨text, separator, separator, after, (inserted :: more) ++ after, isForeign,
            isForeign, by simp, by simp⟩
      · cases after with
        | nil =>
            have lastBlank : isBlank ((inserted :: more).getLast (by simp)) = true :=
              blank _ (List.getLast_mem _)
            rw [List.append_nil] at bare
            have notBlank := bare.last ((inserted :: more).getLast (by simp))
              (List.mem_getLast?_append_of_mem_getLast?
                (List.getLast?_eq_some_getLast (by simp)))
            rw [lastBlank] at notBlank
            simp at notBlank
        | cons separator others =>
            exact ⟨before, separator, inserted, others, more ++ separator :: others,
              foreign separator (next separator rfl), foreign_of_isBlank insertedBlank, rfl,
              rfl⟩

end Respaced

end Text
end Sudoku
