import Sudoku.Json.Parser
import Sudoku.Proofs.Json.Scanning
import Sudoku.Proofs.Json.Spelling

/-!
# Reading JSON back

The compact text of a value is a text of the value, and every text of a value is read as
the value, for arrays and objects nested to any depth.
-/

namespace Sudoku
namespace Json

/-- A value that its text tells everything about: its texts are sequences of characters,
and its numbers that are no integers have a literal that is read as them. -/
inductive IsFaithful : Json → Prop
  | null : IsFaithful .null
  | bool (value : Bool) : IsFaithful (.bool value)
  | integer (value : Int) : IsFaithful (.integer value)
  | decimal {literal : List Char} (nonempty : literal ≠ [])
      (areScalar : ∀ character ∈ literal, Scan.isScalar character = true)
      (valued : scalar? literal = some (.decimal literal)) : IsFaithful (.decimal literal)
  | text (content : String) : IsFaithful (.text (some content))
  | array {items : List Json} (faithful : ∀ item ∈ items, IsFaithful item) :
      IsFaithful (.array items)
  | object {members : List (Option String × Json)}
      (named : ∀ member ∈ members, member.1.isSome = true)
      (faithful : ∀ member ∈ members, IsFaithful member.2) : IsFaithful (.object members)

/-! ### Writing -/

theorem writeItems_eq_map (items : List Json) : writeItems items = items.map write := by
  induction items with
  | nil => rw [writeItems, List.map_nil]
  | cons item rest inductionHypothesis =>
      rw [writeItems, inductionHypothesis, List.map_cons]

theorem writeMembers_eq_map (members : List (Option String × Json)) :
    writeMembers members =
      members.map fun member => quote member.1 ++ ':' :: member.2.write := by
  induction members with
  | nil => rw [writeMembers, List.map_nil]
  | cons member rest inductionHypothesis =>
      rw [writeMembers, inductionHypothesis, List.map_cons]

/-- The text of a member spells its tokens when the text of its value does. -/
theorem Token.Spells.member {member : Option String × Json} (named : member.1.isSome = true)
    (spells : member.2.Spells member.2.write) :
    Token.Spells (tokensOfMember member) (Json.quote member.1 ++ ':' :: member.2.write) := by
  obtain ⟨name, value⟩ := member
  obtain ⟨content, rfl⟩ := Option.isSome_iff_exists.1 named
  exact (Token.Spells.quote content).append_mark spells rfl

/-- The compact text of a faithful value is a text of the value. -/
theorem IsFaithful.spells_write {json : Json} (faithful : json.IsFaithful) :
    json.Spells json.write := by
  induction faithful with
  | null => exact .literal (by decide) (List.all_eq_true.1 (by decide)) rfl
  | bool value =>
      cases value <;> exact .literal (by decide) (List.all_eq_true.1 (by decide)) rfl
  | integer value => exact .integer value
  | decimal nonempty areScalar valued => exact .literal nonempty areScalar valued
  | text content => exact .quote content
  | array _ itemsHypothesis =>
      rw [Spells, write, tokens, writeItems_eq_map, itemTokens_eq_map]
      refine .enclosed (.join ?_) rfl rfl
      rw [List.forall₂_map_left_iff, List.forall₂_map_right_iff, List.forall₂_same]
      exact itemsHypothesis
  | object named _ membersHypothesis =>
      rw [Spells, write, tokens, writeMembers_eq_map, memberTokens_eq_map]
      refine .enclosed (.join ?_) rfl rfl
      rw [List.forall₂_map_left_iff, List.forall₂_map_right_iff, List.forall₂_same]
      exact fun member isMember => .member (named member isMember)
        (membersHypothesis member isMember)

/-! ### Parsing -/

/-- Parts with commas between them are read one after another. A part is read wherever
the next part is expected, and a comma makes the next part expected. -/
theorem foldlM_intercalate {part : Type} (spelling : part → List Token)
    (expected complete : List part → Expectation)
    (comma : ∀ before, (complete before).step .comma = some (expected before))
    {others : List part}
    (given : ∀ next ∈ others, ∀ before,
      (spelling next).foldlM Expectation.step (expected before) =
        some (complete (next :: before)))
    {start : Expectation} {first : part} {before : List part}
    (started : (spelling first).foldlM Expectation.step start =
      some (complete (first :: before))) :
    ([Token.comma].intercalate ((first :: others).map spelling)).foldlM Expectation.step start =
      some (complete ((first :: others).reverse ++ before)) := by
  induction others generalizing start first before with
  | nil =>
      rw [List.map_singleton, List.intercalate_singleton, started]
      rfl
  | cons second rest inductionHypothesis =>
      obtain ⟨secondGiven, restGiven⟩ := List.forall_mem_cons.1 given
      have later := inductionHypothesis restGiven (secondGiven (first :: before))
      rw [List.map_cons] at later
      rw [List.map_cons, List.map_cons, List.intercalate_cons_cons, List.append_assoc,
        List.foldlM_append, started, Option.bind_eq_bind, Option.bind_some,
        List.singleton_append, List.foldlM_cons, comma, Option.bind_eq_bind,
        Option.bind_some, later]
      simp

/-- Tokens between two marks are read between the marks. -/
theorem foldlM_enclosed {start inner complete result : Expectation} {opening closing : Token}
    {between : List Token} (opened : start.step opening = some inner)
    (given : between.foldlM Expectation.step inner = some complete)
    (closed : complete.step closing = some result) :
    (opening :: between ++ [closing]).foldlM Expectation.step start = some result := by
  rw [List.cons_append, List.foldlM_cons, opened, Option.bind_eq_bind, Option.bind_some,
    List.foldlM_append, given, Option.bind_eq_bind, Option.bind_some, List.foldlM_cons, closed]
  rfl

/-- The first item of an array is read like any other. -/
theorem foldlM_firstItem (json : Json) (outer : List Container) :
    json.tokens.foldlM Expectation.step (.firstItem outer) =
      json.tokens.foldlM Expectation.step (.anyValue (.array [] :: outer)) := by
  cases json <;> rfl

/-- The tokens of a value are read as the value, wherever a value is expected. -/
theorem foldlM_tokens (json : Json) (outer : List Container) :
    json.tokens.foldlM Expectation.step (.anyValue outer) = some (.after json outer) := by
  match json with
  | .null => rfl
  | .bool _ => rfl
  | .integer _ => rfl
  | .decimal _ => rfl
  | .text _ => rfl
  | .array [] => rfl
  | .object [] => rfl
  | .array (first :: rest) =>
      have given : ∀ next ∈ first :: rest, ∀ outer, next.tokens.foldlM Expectation.step
          (.anyValue outer) = some (.after next outer) :=
        fun next member outer => foldlM_tokens next outer
      obtain ⟨firstGiven, restGiven⟩ := List.forall_mem_cons.1 given
      have started : first.tokens.foldlM Expectation.step (.firstItem outer) =
          some (.nextItem [first] outer) :=
        (foldlM_firstItem first outer).trans (firstGiven (.array [] :: outer))
      have all := foldlM_intercalate tokens
        (fun before => .anyValue (.array before :: outer)) (fun items => .nextItem items outer)
        (fun _ => rfl) (fun next member before => restGiven next member (.array before :: outer))
        started
      rw [tokens, itemTokens_eq_map]
      exact foldlM_enclosed rfl all (by simp [Expectation.step])
  | .object (first :: rest) =>
      have given : ∀ next ∈ first :: rest, ∀ outer, next.2.tokens.foldlM Expectation.step
          (.anyValue outer) = some (.after next.2 outer) :=
        fun next member outer => foldlM_tokens next.2 outer
      obtain ⟨firstGiven, restGiven⟩ := List.forall_mem_cons.1 given
      have started : (tokensOfMember first).foldlM Expectation.step (.firstName outer) =
          some (.nextMember [first] outer) :=
        firstGiven (.object [] first.1 :: outer)
      have all := foldlM_intercalate tokensOfMember
        (fun before => .nextName before outer) (fun members => .nextMember members outer)
        (fun _ => rfl)
        (fun next member before => restGiven next member (.object before next.1 :: outer))
        started
      rw [tokens, memberTokens_eq_map]
      exact foldlM_enclosed rfl all (by simp [Expectation.step])
termination_by sizeOf json
decreasing_by
  · have smaller := List.sizeOf_lt_of_mem member
    simp only [array.sizeOf_spec]
    omega
  · have smaller := List.sizeOf_lt_of_mem member
    obtain ⟨name, value⟩ := next
    simp only [object.sizeOf_spec, Prod.mk.sizeOf_spec] at smaller ⊢
    omega

/-- Every text of a value is read as the value. -/
theorem Spells.ofText?_eq {json : Json} {text : List Char} (spells : json.Spells text) :
    ofText? (String.ofList text) = some json := by
  have parsed : json.tokens.foldlM Expectation.step (.anyValue []) = some (.done json) :=
    foldlM_tokens json []
  unfold ofText?
  rw [String.toList_ofList, Token.Spells.ofText? spells, Option.bind_some, ofTokens?, parsed]
  rfl

end Json
end Sudoku
