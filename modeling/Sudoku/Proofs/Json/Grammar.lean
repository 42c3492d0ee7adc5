import Mathlib.Data.List.Forall2
import Sudoku.Json.Token

/-!
# The grammar of JSON texts

A text spells a JSON value when it has the tokens of the value, with white space anywhere
between them. A character of a quoted text stands for itself, or is given by an escape of
one letter or of four hexadecimal digits. A word or number ends where a character comes that
cannot belong to it. All texts that spell a value are texts of the value, of which the
compact text is one.
-/

namespace Sudoku
namespace Json

/-! ### Tokens of values -/

mutual

/-- The tokens of a value. -/
def tokens : Json → List Token
  | .text content => [.text content]
  | .array items =>
      .openArray :: [Token.comma].intercalate (itemTokens items) ++ [.closeArray]
  | .object members =>
      .openObject :: [Token.comma].intercalate (memberTokens members) ++ [.closeObject]
  | scalar => [.scalar scalar]

/-- The tokens of the items of an array. -/
def itemTokens : List Json → List (List Token)
  | [] => []
  | item :: rest => tokens item :: itemTokens rest

/-- The tokens of the members of an object. -/
def memberTokens : List (Option String × Json) → List (List Token)
  | [] => []
  | (name, value) :: rest => (.text name :: .colon :: tokens value) :: memberTokens rest

end

/-- The tokens of a member of an object. -/
def tokensOfMember (member : Option String × Json) : List Token :=
  .text member.1 :: .colon :: member.2.tokens

theorem itemTokens_eq_map (items : List Json) : itemTokens items = items.map tokens := by
  induction items with
  | nil => rw [itemTokens, List.map_nil]
  | cons item rest inductionHypothesis =>
      rw [itemTokens, inductionHypothesis, List.map_cons]

theorem memberTokens_eq_map (members : List (Option String × Json)) :
    memberTokens members = members.map tokensOfMember := by
  induction members with
  | nil => rw [memberTokens, List.map_nil]
  | cons member rest inductionHypothesis =>
      rw [memberTokens, inductionHypothesis, List.map_cons, tokensOfMember]

/-! ### Spellings -/

/-- The pieces of a quoted text are spelled by the characters between its quotes. -/
inductive Piece.Spells : List Piece → List Char → Prop
  | nil : Spells [] []
  | plain {character : Char} {pieces : List Piece} {rest : List Char}
      (noQuote : character ≠ '"') (noBackslash : character ≠ '\\')
      (noControl : ¬character.toNat < 0x20) (spells : Spells pieces rest) :
      Spells (.plain character :: pieces) (character :: rest)
  | letter {letter character : Char} {pieces : List Piece} {rest : List Char}
      (standsFor : Scan.escaped? letter = some character) (spells : Spells pieces rest) :
      Spells (.plain character :: pieces) ('\\' :: letter :: rest)
  | unit {digits : List Char} {first second third fourth : Nat} {pieces : List Piece}
      {rest : List Char}
      (valued : List.Forall₂ (fun digit value => Scan.hexDigit? digit = some value) digits
        [first, second, third, fourth])
      (spells : Spells pieces rest) :
      Spells (.unit (16 * (16 * (16 * first + second) + third) + fourth) :: pieces)
        ('\\' :: 'u' :: digits ++ rest)

/-- Tokens are spelled by a text. -/
inductive Token.Spells : List Token → List Char → Prop
  | nil : Spells [] []
  | blank {character : Char} {tokens : List Token} {rest : List Char}
      (isSpace : Scan.isSpace character = true) (spells : Spells tokens rest) :
      Spells tokens (character :: rest)
  | mark {character : Char} {token : Token} {tokens : List Token} {rest : List Char}
      (isMark : Scan.mark? character = some token) (spells : Spells tokens rest) :
      Spells (token :: tokens) (character :: rest)
  | text {pieces : List Piece} {inner : List Char} {tokens : List Token} {rest : List Char}
      (quoted : Piece.Spells pieces inner) (spells : Spells tokens rest) :
      Spells (.text (Piece.text? pieces) :: tokens) ('"' :: (inner ++ '"' :: rest))
  | scalar {literal : List Char} {value : Json} {tokens : List Token} {rest : List Char}
      (nonempty : literal ≠ [])
      (areScalar : ∀ character ∈ literal, Scan.isScalar character = true)
      (valued : scalar? literal = some value)
      (ends : ∀ character ∈ rest.head?, Scan.isScalar character = false)
      (spells : Spells tokens rest) :
      Spells (.scalar value :: tokens) (literal ++ rest)

/-- A text is a text of a value. -/
def Spells (json : Json) (text : List Char) : Prop :=
  Token.Spells json.tokens text

/-! ### Putting together -/

/-- A mark belongs to no word or number. -/
theorem Scan.isScalar_of_mark {character : Char} {token : Token}
    (isMark : mark? character = some token) : isScalar character = false := by
  unfold mark? at isMark
  split at isMark
  case h_7 => simp at isMark
  all_goals rfl

namespace Token.Spells

/-- Texts can be put together with a mark between them. -/
theorem append_mark {first second : List Token} {firstText secondText : List Char}
    (firstSpells : Token.Spells first firstText) (secondSpells : Token.Spells second secondText)
    {mark : Char} {token : Token} (isMark : Scan.mark? mark = some token) :
    Token.Spells (first ++ token :: second) (firstText ++ mark :: secondText) := by
  induction firstSpells with
  | nil => exact .mark isMark secondSpells
  | blank isSpace _ inductionHypothesis => exact .blank isSpace inductionHypothesis
  | mark isFirst _ inductionHypothesis => exact .mark isFirst inductionHypothesis
  | text quoted _ inductionHypothesis =>
      rw [List.cons_append, List.cons_append, List.append_assoc]
      exact .text quoted inductionHypothesis
  | @scalar literal value tokens rest nonempty areScalar valued ends _ inductionHypothesis =>
      rw [List.append_assoc]
      refine .scalar nonempty areScalar valued ?_ inductionHypothesis
      cases rest with
      | nil =>
          rintro character ⟨⟩
          exact Scan.isScalar_of_mark isMark
      | cons => exact ends

/-- A mark can follow a text. -/
theorem mark_last {tokens : List Token} {text : List Char} (spells : Token.Spells tokens text)
    {mark : Char} {token : Token} (isMark : Scan.mark? mark = some token) :
    Token.Spells (tokens ++ [token]) (text ++ [mark]) :=
  spells.append_mark .nil isMark

/-- A text can stand between two marks. -/
theorem enclosed {tokens : List Token} {text : List Char} (spells : Token.Spells tokens text)
    {opening closing : Char} {openToken closeToken : Token}
    (opens : Scan.mark? opening = some openToken)
    (closes : Scan.mark? closing = some closeToken) :
    Token.Spells (openToken :: tokens ++ [closeToken]) (opening :: text ++ [closing]) :=
  .mark opens (spells.mark_last closes)

/-- Texts with commas between them spell the tokens with commas between them. -/
theorem join {tokens : List (List Token)} {texts : List (List Char)}
    (spell : List.Forall₂ Token.Spells tokens texts) :
    Token.Spells ([Token.comma].intercalate tokens) (Text.join ',' texts) := by
  induction spell with
  | nil =>
      rw [List.intercalate_nil]
      exact .nil
  | @cons first firstText others otherTexts spells othersSpell inductionHypothesis =>
      cases othersSpell with
      | nil =>
          rw [List.intercalate_singleton]
          exact spells
      | cons =>
          have comma : Scan.mark? ',' = some .comma := rfl
          rw [List.intercalate_cons_cons, List.append_assoc]
          exact spells.append_mark inductionHypothesis comma

end Token.Spells

end Json
end Sudoku
