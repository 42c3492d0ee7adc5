import Sudoku.Json.Parser

/-!
# Codecs

A codec reads the values of a type from documents and writes them as documents. Either may
fail, with a text that says why. Values that have a JSON form have a codec for compact JSON
texts.
-/

namespace Sudoku

/-- A way to read values from documents and to write them as documents. -/
structure Codec (value : Type) where
  /-- The value of a document, or why it has none. -/
  read : String → Except String value
  /-- The document of a value, or why it has none. -/
  write : value → Except String String

/-- The codec of values that are written as JSON values and read from them. -/
def Json.codec {value : Type} (toJson : value → Json) (ofJson? : Json → Option value) :
    Codec value where
  read document :=
    match (ofText? document).bind ofJson? with
    | some held => .ok held
    | none => .error "malformed document"
  write held := .ok (toJson held).render

end Sudoku
