import Sudoku.Proofs.Error
import Sudoku.Proofs.Grid.Building
import Sudoku.Proofs.Grid.Spacing

/-!
# The grammar of grid codes

A box shape is two natural numbers with an x between them, and an entry is an integer, or
nothing, that a box shape may follow behind an at sign. There may be blanks around every
number. What is read from a text is what the text spells, and a text that spells nothing
is blamed for its number, or else for its box shape.
-/

namespace Sudoku

variable {alphabet : Alphabet}

open Text (Blank Bare Padded)

/-! ### Between blanks -/

namespace Text

/-- A text in which something is spelled between blanks. -/
def Between {meaning : Type} (spells : List Char → meaning → Prop) (text : List Char)
    (meant : meaning) : Prop :=
  ∃ core, Padded core text ∧ spells core meant

theorem Bare.of_forall {text : List Char}
    (noBlank : ∀ character ∈ text, isBlank character = false) : Bare text where
  first character first := noBlank character (List.mem_of_mem_head? first)
  last character last := noBlank character (List.mem_of_getLast? last)

/-- A character that is no blank is in the core of a text when it is in the text. -/
theorem Padded.not_mem {core text : List Char} {mark : Char} (padded : Padded core text)
    (notBlank : isBlank mark = false) (free : mark ∉ core) : mark ∉ text := by
  obtain ⟨before, after, beforeBlank, afterBlank, rfl⟩ := padded
  have noBlank {blanks : List Char} (blank : Blank blanks) : mark ∉ blanks := by
    intro member
    rw [blank mark member] at notBlank
    simp at notBlank
  simp [noBlank beforeBlank, noBlank afterBlank, free]

/-- What is spelled without blanks is what is left after trimming. -/
theorem between_iff {meaning : Type} {spells : List Char → meaning → Prop}
    (noBlank : ∀ core meant, spells core meant →
      ∀ character ∈ core, isBlank character = false) (text : List Char) (meant : meaning) :
    Between spells text meant ↔ spells (trim text) meant := by
  constructor
  · rintro ⟨core, padded, spelled⟩
    rwa [padded.trim_eq (.of_forall (noBlank core meant spelled))]
  · intro spelled
    exact ⟨trim text, padded_trim text, spelled⟩

/-- Nothing is left of blanks after trimming, and of all other texts something is. -/
theorem trim_eq_nil_iff (text : List Char) : trim text = [] ↔ Blank text := by
  rw [trim_eq_iff ⟨by simp, by simp⟩]
  constructor
  · rintro ⟨before, after, beforeBlank, afterBlank, rfl⟩
    exact beforeBlank.append afterBlank
  · intro blank
    exact ⟨text, [], blank, by simp [Blank], by simp⟩

namespace Decimal

theorem Numeral.not_mem {bound value : Nat} {digits : List Char} {mark : Char}
    (numeral : Numeral bound digits value) (isForeign : Foreign mark) : mark ∉ digits := by
  intro member
  have isDigit := numeral.areDigits mark member
  rw [isForeign.noDigit] at isDigit
  simp at isDigit

/-- A natural number is spelled without foreign characters. -/
theorem SpellsNat.not_mem {text : List Char} {value : Nat} {mark : Char}
    (spelled : SpellsNat text value) (isForeign : Foreign mark) : mark ∉ text := by
  rcases spelled with numeral | numeral
  · exact numeral.not_mem isForeign
  · simp [numeral.not_mem isForeign, isForeign.noPlus]

/-- An integer is spelled without foreign characters. -/
theorem SpellsInt.not_mem {text : List Char} {value : Int} {mark : Char}
    (spelled : SpellsInt text value) (isForeign : Foreign mark) : mark ∉ text := by
  rcases spelled with numeral | numeral | numeral
  · exact numeral.not_mem isForeign
  · simp [numeral.not_mem isForeign, isForeign.noPlus]
  · simp [numeral.not_mem isForeign, isForeign.noMinus]

/-- What is without foreign characters is without blanks. -/
theorem isBlank_of_not_mem {text : List Char}
    (free : ∀ mark, Foreign mark → mark ∉ text) :
    ∀ character ∈ text, isBlank character = false := by
  intro character member
  by_contra blank
  exact free character (foreign_of_isBlank (by simpa using blank)) member

/-- A natural number may be spelled between blanks. -/
theorem readNat_trim_eq_ok_iff (text : List Char) (value : Nat) :
    readNat (trim text) = .ok value ↔ Between SpellsNat text value := by
  rw [readNat_eq_ok_iff, between_iff]
  exact fun core meant spelled => isBlank_of_not_mem fun mark => spelled.not_mem

/-- An integer may be spelled between blanks. -/
theorem readInt_trim_eq_ok_iff (text : List Char) (value : Int) :
    readInt (trim text) = .ok value ↔ Between SpellsInt text value := by
  rw [readInt_eq_ok_iff, between_iff]
  exact fun core meant spelled => isBlank_of_not_mem fun mark => spelled.not_mem

end Decimal
end Text

/-! ### Box shapes -/

namespace BoxShape

open Text (Between)
open Text.Decimal (SpellsNat)

/-- The texts for a box shape. -/
inductive Spelled : List Char → BoxShape → Prop
  | intro {width height : List Char} {shape : BoxShape}
      (widthSpelled : Between SpellsNat width shape.width)
      (heightSpelled : Between SpellsNat height shape.height) :
      Spelled (width ++ 'x' :: height) shape

/-- A separator is in no spelled natural number. -/
theorem not_mem_of_between {text : List Char} {value : Nat} {mark : Char}
    (spelled : Between SpellsNat text value) (isMark : mark ∈ Grid.separators) :
    mark ∉ text := by
  obtain ⟨core, padded, spelled⟩ := spelled
  exact padded.not_mem (Grid.isBlank_of_mem_separators mark isMark)
    (spelled.not_mem (Grid.foreign_of_mem_separators mark isMark))

/-- The only separator in a spelled box shape is the one between its dimensions. -/
theorem Spelled.not_mem {text : List Char} {shape : BoxShape} {mark : Char}
    (spelled : Spelled text shape) (isMark : mark ∈ Grid.separators) (differs : mark ≠ 'x') :
    mark ∉ text := by
  obtain ⟨width, height⟩ := spelled
  simp [not_mem_of_between width isMark, not_mem_of_between height isMark, differs]

/-- Exactly the spellings of box shapes are read. -/
theorem ofCode?_eq_some_iff (text : List Char) (shape : BoxShape) :
    ofCode? text = some shape ↔ Spelled text shape := by
  constructor
  · intro read
    unfold ofCode? at read
    split at read
    · next width height cut =>
        obtain ⟨_, _, rfl⟩ := (Text.pieces_eq_iff _ _).1 cut
        split at read
        · next widthRead heightRead =>
            rw [← Option.some.inj read]
            exact .intro ((Text.Decimal.readNat_trim_eq_ok_iff _ _).1 widthRead)
              ((Text.Decimal.readNat_trim_eq_ok_iff _ _).1 heightRead)
        · simp at read
    · simp at read
  · rintro ⟨width, height⟩
    have isMark : 'x' ∈ Grid.separators := by decide
    unfold ofCode?
    rw [Text.pieces_append (not_mem_of_between width isMark),
      Text.pieces_of_not_mem (not_mem_of_between height isMark)]
    simp only [(Text.Decimal.readNat_trim_eq_ok_iff _ _).2 width,
      (Text.Decimal.readNat_trim_eq_ok_iff _ _).2 height]

/-- What is not read as a box shape spells none. -/
theorem ofCode?_eq_none_iff (text : List Char) :
    ofCode? text = none ↔ ¬∃ shape, Spelled text shape := by
  simp only [← ofCode?_eq_some_iff, Option.eq_none_iff_forall_ne_some, not_exists, ne_eq]

end BoxShape

/-! ### Entries -/

namespace Grid

open Text (Between)
open Text.Decimal (SpellsInt MisreadInt)

/-- The texts for the value of a cell, which are blank where there is none. -/
inductive SpellsValue : List Char → Option Int → Prop
  | absent {text : List Char} (blank : Blank text) : SpellsValue text none
  | present {text : List Char} {value : Int} (spelled : Between SpellsInt text value) :
      SpellsValue text (some value)

/-- What is wrong with the text for a value: it is no integer, or one that is no symbol. -/
inductive ValueFault (alphabet : Alphabet) (text : List Char) : MalformedReason → Prop
  | misread {core : List Char} {fault : Text.DecimalFault} (padded : Padded core text)
      (bare : Bare core) (nonempty : core ≠ []) (misread : MisreadInt core fault) :
      ValueFault alphabet text (.unreadable (.number fault))
  | missing {value : Int} (spelled : Between SpellsInt text value)
      (missing : ¬alphabet.Has value) :
      ValueFault alphabet text
        (.valueOutOfDomain (String.ofList (Text.Decimal.ofInt value)))

/-- What an entry says of its cell. -/
structure Entry where
  value : Option Int
  shape : Option BoxShape
  deriving DecidableEq

namespace Entry

/-- The texts for an entry. -/
inductive Spelled : List Char → Entry → Prop
  | plain {text : List Char} {value : Option Int} (spelled : SpellsValue text value) :
      Spelled text ⟨value, none⟩
  | overridden {text shapeText : List Char} {value : Option Int} {shape : BoxShape}
      (spelled : SpellsValue text value) (shapeSpelled : shape.Spelled shapeText) :
      Spelled (text ++ '@' :: shapeText) ⟨value, some shape⟩

/-- The value of an entry, if it has one, is a symbol of the alphabet. -/
def Representable (alphabet : Alphabet) (entry : Entry) : Prop :=
  ∀ value, entry.value = some value → alphabet.Has value

/-- A cell has the value and the overrides of an entry. -/
structure Describes (entry : Entry) (cell : Cell alphabet) : Prop where
  value : cell.value.map Symbol.value = entry.value
  width : cell.boxWidth = entry.shape.map BoxShape.width
  height : cell.boxHeight = entry.shape.map BoxShape.height

end Entry

/-- What is wrong with the text of an entry: it is the value or, if there is nothing wrong
with that, the box shape behind it. -/
inductive EntryFault (alphabet : Alphabet) : List Char → MalformedReason → Prop
  | value {text rest : List Char} {reason : MalformedReason} (free : '@' ∉ text)
      (behind : ∀ character ∈ rest.head?, character = '@')
      (fault : ValueFault alphabet text reason) : EntryFault alphabet (text ++ rest) reason
  | shape {text rest : List Char} {value : Option Int} (spelled : SpellsValue text value)
      (has : ∀ number, value = some number → alphabet.Has number)
      (misspelled : ¬∃ shape, BoxShape.Spelled rest shape) :
      EntryFault alphabet (text ++ '@' :: rest) (.unreadable .boxOverride)

/-! ### Reading values -/

theorem exists_value_eq_iff (value : Int) :
    (∃ symbol : Symbol alphabet, symbol.value = value) ↔ alphabet.Has value := by
  constructor
  · rintro ⟨symbol, rfl⟩
    exact ⟨symbol.least_le, symbol.le_greatest⟩
  · rintro ⟨least, greatest⟩
    exact ⟨⟨value, least, greatest⟩, rfl⟩

/-- What is held can be a symbol when the number that is held, if any, has one. -/
theorem exists_map_value_eq_iff (value : Option Int) :
    (∃ symbol : Option (Symbol alphabet), symbol.map Symbol.value = value) ↔
      ∀ number, value = some number → alphabet.Has number := by
  cases value with
  | none => simp
  | some number =>
      simp only [Option.map_eq_some_iff, Option.some.injEq, forall_eq', ← exists_value_eq_iff]
      constructor
      · rintro ⟨_, symbol, _, same⟩
        exact ⟨symbol, same⟩
      · rintro ⟨symbol, same⟩
        exact ⟨some symbol, symbol, rfl, same⟩

theorem ofInt?_eq_none_iff (value : Int) :
    (Symbol.ofInt? value : Option (Symbol alphabet)) = none ↔ ¬alphabet.Has value := by
  simp only [← exists_value_eq_iff, ← Symbol.ofInt?_eq_some_iff,
    Option.eq_none_iff_forall_ne_some, not_exists, ne_eq]

@[simp] theorem spellsValue_none_iff (text : List Char) :
    SpellsValue text none ↔ Blank text :=
  ⟨fun | .absent blank => blank, .absent⟩

@[simp] theorem spellsValue_some_iff (text : List Char) (value : Int) :
    SpellsValue text (some value) ↔ Between SpellsInt text value :=
  ⟨fun | .present spelled => spelled, .present⟩

theorem SpellsValue.not_mem {text : List Char} {value : Option Int} {mark : Char}
    (spelled : SpellsValue text value) (isMark : mark ∈ separators) : mark ∉ text := by
  have notBlank := isBlank_of_mem_separators mark isMark
  rcases spelled with blank | ⟨core, padded, spelled⟩
  · intro member
    rw [blank mark member] at notBlank
    simp at notBlank
  · exact padded.not_mem notBlank
      (spelled.not_mem (foreign_of_mem_separators mark isMark))

/-- There is a character in every text that is read as an integer. -/
theorem isEmpty_of_readInt_eq_ok {text : List Char} {value : Int}
    (read : Text.Decimal.readInt text = .ok value) : text.isEmpty = false := by
  cases text with
  | nil => simp [Text.Decimal.readInt, Text.Decimal.readMagnitude, Except.map] at read
  | cons character rest => rfl

/-- Exactly the spellings of values that are symbols are read. -/
theorem readValue_trim_eq_ok_iff (location : Location) (text : List Char)
    (value : Option (Symbol alphabet)) :
    readValue location (Text.trim text) = .ok value ↔
      SpellsValue text (value.map Symbol.value) := by
  constructor
  · intro read
    unfold readValue at read
    split at read
    · next empty =>
        rw [← Except.ok.inj read]
        exact .absent ((Text.trim_eq_nil_iff text).1 (List.isEmpty_iff.1 empty))
    · split at read
      · simp at read
      · next number numberRead =>
          split at read
          · next symbol found =>
              rw [← Except.ok.inj read, Option.map_some, Symbol.ofInt?_eq_some_iff.1 found]
              exact .present ((Text.Decimal.readInt_trim_eq_ok_iff _ _).1 numberRead)
          · simp at read
  · intro spelled
    cases value with
    | none =>
        rw [Option.map_none, spellsValue_none_iff] at spelled
        rw [(Text.trim_eq_nil_iff text).2 spelled]
        rfl
    | some symbol =>
        rw [Option.map_some, spellsValue_some_iff, ← Text.Decimal.readInt_trim_eq_ok_iff] at spelled
        unfold readValue
        simp only [isEmpty_of_readInt_eq_ok spelled, Bool.false_eq_true, if_false, spelled,
          Symbol.ofInt?_value]

/-- All other texts of values are blamed for what is wrong with them. -/
theorem readValue_trim_eq_error_iff (location : Location) (text : List Char) (error : Error) :
    (readValue location (Text.trim text) : Except Error (Option (Symbol alphabet))) =
        .error error ↔
      ∃ reason, ValueFault alphabet text reason ∧ error = .malformed location reason := by
  constructor
  · intro read
    unfold readValue at read
    split at read
    · simp at read
    · next nonempty =>
        split at read
        · next fault misread =>
            refine ⟨_, .misread (Text.padded_trim text) (Text.bare_trim text) ?_
              ((Text.Decimal.readInt_eq_error_iff _ _).1 misread), (Except.error.inj read).symm⟩
            simpa using nonempty
        · next number numberRead =>
            split at read
            · simp at read
            · next missing =>
                exact ⟨_, .missing ((Text.Decimal.readInt_trim_eq_ok_iff _ _).1 numberRead)
                  ((ofInt?_eq_none_iff number).1 missing), (Except.error.inj read).symm⟩
  · rintro ⟨reason, fault, rfl⟩
    unfold readValue
    cases fault with
    | misread padded bare nonempty misread =>
        rw [padded.trim_eq bare, if_neg (by simpa using nonempty),
          (Text.Decimal.readInt_eq_error_iff _ _).2 misread]
        rfl
    | @missing value spelled missing =>
        have read := (Text.Decimal.readInt_trim_eq_ok_iff _ _).2 spelled
        simp only [isEmpty_of_readInt_eq_ok read, Bool.false_eq_true, if_false, read,
          (ofInt?_eq_none_iff value).2 missing]

/-! ### Reading entries -/

theorem readEntry_of_not_mem (location : Location) {text : List Char} (free : '@' ∉ text) :
    (readEntry location text : Except Error (Cell alphabet)) =
      (readValue location (Text.trim text)).map fun value => { value } := by
  unfold readEntry
  rw [Text.takeWhile_of_not_mem free, Text.dropWhile_of_not_mem free]
  cases (readValue location (Text.trim text) : Except Error (Option (Symbol alphabet))) <;> rfl

theorem readEntry_append (location : Location) {text : List Char} (free : '@' ∉ text)
    (rest : List Char) :
    (readEntry location (text ++ '@' :: rest) : Except Error (Cell alphabet)) =
      readValue location (Text.trim text) >>= fun value =>
        match BoxShape.ofCode? rest with
        | some shape => .ok (Cell.withBoxShape { value } shape)
        | none => .error (unreadable location .boxOverride) := by
  unfold readEntry
  rw [Text.takeWhile_append_mark free, Text.dropWhile_append_mark free]
  refine bind_congr fun value => ?_
  have trimmed := BoxShape.ofCode?_trim rest
  cases read : BoxShape.ofCode? rest <;> simp only [trimmed, read]

/-- Exactly the spellings of entries that are representable are read. -/
theorem readEntry_eq_ok_iff (location : Location) (text : List Char) (cell : Cell alphabet) :
    readEntry location text = .ok cell ↔
      ∃ entry, Entry.Spelled text entry ∧ entry.Describes cell := by
  have isMark : '@' ∈ separators := by decide
  constructor
  · intro read
    by_cases marked : '@' ∈ text
    · obtain ⟨left, right, rfl, free⟩ := List.eq_append_cons_of_mem marked
      rw [readEntry_append location free, Error.bind_eq_ok_iff] at read
      obtain ⟨value, valueRead, read⟩ := read
      rw [readValue_trim_eq_ok_iff] at valueRead
      split at read
      · next shape shapeRead =>
          rw [← Except.ok.inj read]
          exact ⟨⟨value.map Symbol.value, some shape⟩,
            .overridden valueRead ((BoxShape.ofCode?_eq_some_iff _ _).1 shapeRead),
            rfl, rfl, rfl⟩
      · simp at read
    · rw [readEntry_of_not_mem location marked, Error.map_eq_ok_iff] at read
      obtain ⟨value, valueRead, rfl⟩ := read
      rw [readValue_trim_eq_ok_iff] at valueRead
      exact ⟨⟨value.map Symbol.value, none⟩, .plain valueRead, rfl, rfl, rfl⟩
  · rintro ⟨entry, spelled, describes⟩
    obtain ⟨value, width, height⟩ := cell
    obtain ⟨sameValue, rfl, rfl⟩ := describes
    cases spelled with
    | plain spelled =>
        dsimp only at sameValue
        rw [← sameValue] at spelled
        rw [readEntry_of_not_mem location (spelled.not_mem isMark), Error.map_eq_ok_iff]
        exact ⟨value, (readValue_trim_eq_ok_iff location _ value).2 spelled, rfl⟩
    | overridden spelled shapeSpelled =>
        dsimp only at sameValue
        rw [← sameValue] at spelled
        rw [readEntry_append location (spelled.not_mem isMark), Error.bind_eq_ok_iff]
        refine ⟨value, (readValue_trim_eq_ok_iff location _ value).2 spelled, ?_⟩
        rw [(BoxShape.ofCode?_eq_some_iff _ _).2 shapeSpelled]
        rfl

/-- All other texts of entries are blamed for what is wrong with them. -/
theorem readEntry_eq_error_iff (location : Location) (text : List Char) (error : Error) :
    (readEntry location text : Except Error (Cell alphabet)) = .error error ↔
      ∃ reason, EntryFault alphabet text reason ∧ error = .malformed location reason := by
  have isMark : '@' ∈ separators := by decide
  constructor
  · intro read
    by_cases marked : '@' ∈ text
    · obtain ⟨left, right, rfl, free⟩ := List.eq_append_cons_of_mem marked
      rw [readEntry_append location free, Error.bind_eq_error_iff] at read
      rcases read with read | ⟨value, valueRead, read⟩
      · obtain ⟨reason, fault, rfl⟩ := (readValue_trim_eq_error_iff _ _ _).1 read
        exact ⟨reason, .value free (by simp) fault, rfl⟩
      · rw [readValue_trim_eq_ok_iff] at valueRead
        split at read
        · simp at read
        · next unread =>
            have representable := (exists_map_value_eq_iff _).1 ⟨value, rfl⟩
            exact ⟨_, .shape valueRead representable ((BoxShape.ofCode?_eq_none_iff _).1 unread),
              (Except.error.inj read).symm⟩
    · rw [readEntry_of_not_mem location marked, Error.map_eq_error_iff,
        readValue_trim_eq_error_iff] at read
      obtain ⟨reason, fault, rfl⟩ := read
      refine ⟨reason, ?_, rfl⟩
      have entryFault : EntryFault alphabet (text ++ []) reason :=
        .value marked (by simp) fault
      rwa [List.append_nil] at entryFault
  · rintro ⟨reason, fault, rfl⟩
    cases fault with
    | @value text rest _ free behind fault =>
        have read : (readValue location (Text.trim text) :
            Except Error (Option (Symbol alphabet))) = .error (.malformed location reason) :=
          (readValue_trim_eq_error_iff location text _).2 ⟨reason, fault, rfl⟩
        cases rest with
        | nil =>
            rw [List.append_nil, readEntry_of_not_mem location free,
              Error.map_eq_error_iff]
            exact read
        | cons mark shapeText =>
            obtain rfl : mark = '@' := behind mark rfl
            rw [readEntry_append location free, Error.bind_eq_error_iff]
            exact .inl read
    | @shape text rest value spelled has misspelled =>
        rw [readEntry_append location (spelled.not_mem isMark), Error.bind_eq_error_iff]
        obtain ⟨symbol, rfl⟩ := (exists_map_value_eq_iff value).2 has
        refine .inr ⟨symbol, (readValue_trim_eq_ok_iff location text symbol).2 spelled, ?_⟩
        rw [(BoxShape.ofCode?_eq_none_iff rest).2 misspelled]
        rfl

/-- The entries of a grid are read when each spells one that is representable. -/
theorem readEntries_eq_ok_iff (size number : Nat) (texts : List (List Char))
    (cells : List (Cell alphabet)) :
    readEntries size number texts = .ok cells ↔
      ∃ entries, List.Forall₂ Entry.Spelled texts entries ∧
        List.Forall₂ Entry.Describes entries cells := by
  induction texts generalizing number cells with
  | nil =>
      cases cells <;> simp [readEntries]
  | cons text rest inductionHypothesis =>
      simp only [readEntries, Error.bind_eq_ok_iff, readEntry_eq_ok_iff, inductionHypothesis,
        Except.ok.injEq]
      constructor
      · rintro ⟨cell, ⟨entry, spelled, describes⟩, others, ⟨entries, allSpelled, describe⟩, rfl⟩
        exact ⟨entry :: entries, .cons spelled allSpelled, .cons describes describe⟩
      · rintro ⟨_, spelled, describe⟩
        cases spelled with
        | cons headSpelled restSpelled =>
            cases describe with
            | cons headDescribes restDescribe =>
                exact ⟨_, ⟨_, headSpelled, headDescribes⟩, _, ⟨_, restSpelled, restDescribe⟩,
                  rfl⟩

/-- A text spells an entry that is representable. -/
def Readable (alphabet : Alphabet) (text : List Char) : Prop :=
  ∃ entry, Entry.Spelled text entry ∧ entry.Representable alphabet

/-- There are cells with the values of representable entries, and of no others. -/
theorem Entry.exists_describes_iff (entry : Entry) :
    (∃ cell : Cell alphabet, entry.Describes cell) ↔ entry.Representable alphabet := by
  rw [Entry.Representable, ← exists_map_value_eq_iff]
  constructor
  · rintro ⟨cell, describes⟩
    exact ⟨cell.value, describes.value⟩
  · rintro ⟨symbol, same⟩
    exact ⟨⟨symbol, _, _⟩, ⟨same, rfl, rfl⟩⟩

theorem exists_readEntry_iff (location : Location) (text : List Char) :
    (∃ cell : Cell alphabet, readEntry location text = .ok cell) ↔ Readable alphabet text := by
  simp only [readEntry_eq_ok_iff, Readable, ← Entry.exists_describes_iff]
  constructor
  · rintro ⟨cell, entry, spelled, describes⟩
    exact ⟨entry, spelled, cell, describes⟩
  · rintro ⟨entry, spelled, cell, describes⟩
    exact ⟨cell, entry, spelled, describes⟩

/-- The first entry that is not read is blamed, at the place of its cell. -/
theorem readEntries_eq_error_iff (size number : Nat) (texts : List (List Char))
    (error : Error) :
    (readEntries size number texts : Except Error (List (Cell alphabet))) = .error error ↔
      ∃ earlier text later reason, texts = earlier ++ text :: later ∧
        (∀ other ∈ earlier, Readable alphabet other) ∧ EntryFault alphabet text reason ∧
        error = .malformed (.ofPosition (.ofNumber size (number + earlier.length))) reason := by
  induction texts generalizing number with
  | nil => simp [readEntries]
  | cons text rest inductionHypothesis =>
      simp only [readEntries, Error.bind_eq_error_iff, readEntry_eq_error_iff,
        inductionHypothesis, reduceCtorEq, and_false, exists_false, or_false]
      constructor
      · rintro (⟨reason, fault, rfl⟩ | ⟨cell, read, earlier, other, later, reason, rfl,
          readable, fault, rfl⟩)
        · exact ⟨[], text, rest, reason, rfl, by simp, fault, rfl⟩
        · refine ⟨text :: earlier, other, later, reason, rfl, ?_, fault, ?_⟩
          · exact List.forall_mem_cons.2 ⟨(exists_readEntry_iff _ _).1 ⟨cell, read⟩, readable⟩
          · rw [List.length_cons, Nat.add_right_comm, Nat.add_assoc]
      · rintro ⟨earlier, other, later, reason, split, readable, fault, rfl⟩
        cases earlier with
        | nil =>
            obtain ⟨rfl, rfl⟩ := List.cons.inj split
            exact .inl ⟨reason, fault, rfl⟩
        | cons first others =>
            obtain ⟨rfl, rfl⟩ := List.cons.inj split
            obtain ⟨firstReadable, othersReadable⟩ := List.forall_mem_cons.1 readable
            obtain ⟨cell, read⟩ := (exists_readEntry_iff
              (.ofPosition (.ofNumber size number)) text).2 firstReadable
            refine .inr ⟨cell, read, others, other, later, reason, rfl, othersReadable, fault, ?_⟩
            rw [List.length_cons, Nat.add_right_comm, Nat.add_assoc]

end Grid
end Sudoku
