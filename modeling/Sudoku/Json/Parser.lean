import Sudoku.Json.Token

/-!
# Reading JSON

A value is read from its tokens one by one, with the arrays and objects that are
still open on a stack. Values may be nested to any depth.
-/

namespace Sudoku
namespace Json

/-- An array or object that is still open around the value to come, which is its
next item or the value of the given name. Items and members come latest first. -/
inductive Container
  | array (items : List Json)
  | object (members : List (Option String × Json)) (name : Option String)

/-- What has to come next, within the containers that are open, innermost first. -/
inductive Expectation
  | anyValue (outer : List Container)
  | firstItem (outer : List Container)
  | nextItem (items : List Json) (outer : List Container)
  | firstName (outer : List Container)
  | nextName (members : List (Option String × Json)) (outer : List Container)
  | colon (members : List (Option String × Json)) (name : Option String)
      (outer : List Container)
  | nextMember (members : List (Option String × Json)) (outer : List Container)
  | done (json : Json)

namespace Expectation

/-- What comes after a value. -/
def after (json : Json) : List Container → Expectation
  | [] => .done json
  | .array items :: outer => .nextItem (json :: items) outer
  | .object members name :: outer => .nextMember ((name, json) :: members) outer

/-- What comes after the first token of a value. -/
def begin (outer : List Container) : Token → Option Expectation
  | .scalar value => some (after value outer)
  | .text content => some (after (.text content) outer)
  | .openArray => some (.firstItem outer)
  | .openObject => some (.firstName outer)
  | _ => none

/-- What comes after a token. -/
def step : Expectation → Token → Option Expectation
  | .anyValue outer, token => begin outer token
  | .firstItem outer, .closeArray => some (after (.array []) outer)
  | .firstItem outer, token => begin (.array [] :: outer) token
  | .nextItem items outer, .comma => some (.anyValue (.array items :: outer))
  | .nextItem items outer, .closeArray => some (after (.array items.reverse) outer)
  | .firstName outer, .closeObject => some (after (.object []) outer)
  | .firstName outer, .text content => some (.colon [] content outer)
  | .nextName members outer, .text content => some (.colon members content outer)
  | .colon members name outer, .colon => some (.anyValue (.object members name :: outer))
  | .nextMember members outer, .comma => some (.nextName members outer)
  | .nextMember members outer, .closeObject =>
      some (after (.object members.reverse) outer)
  | _, _ => none

/-- The value that is complete. -/
def result? : Expectation → Option Json
  | .done json => some json
  | _ => none

end Expectation

/-- Read a value from its tokens. -/
def ofTokens? (tokens : List Token) : Option Json :=
  (tokens.foldlM Expectation.step (.anyValue [])).bind Expectation.result?

/-- Read a value from its text. -/
def ofText? (text : String) : Option Json :=
  (Token.ofText? text.toList).bind ofTokens?

end Json
end Sudoku
