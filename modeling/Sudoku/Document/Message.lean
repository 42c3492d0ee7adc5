import Sudoku.Document.Codec
import Sudoku.Error
import Sudoku.Json.Record
import Sudoku.Message.Basic

/-!
# Messages as documents

The JSON form of a message. Parts that are missing are left out when a message is
written, and may be null when it is read. A document is read and written by a codec of
messages, whatever it is; what the codec says when it fails goes into the error.
-/

namespace Sudoku

namespace CellMessage

/-- The JSON value of a cell. -/
def toJson (message : CellMessage) : Json :=
  .ofFields <|
    Json.field "value" (message.value.map fun value => .integer value.toInt) ++
    Json.field "width" (message.width.map fun width => .integer width.toNat) ++
    Json.field "height" (message.height.map fun height => .integer height.toNat)

/-- The cell of a JSON value. -/
def ofJson? (json : Json) : Option CellMessage :=
  match json.fields? ["value", "width", "height"] with
  | some [value, width, height] => do
      let value ← Json.optional? Json.int64? value
      let width ← Json.optional? Json.uint32? width
      let height ← Json.optional? Json.uint32? height
      some { value, width, height }
  | _ => none

end CellMessage

namespace RowMessage

/-- The JSON value of a row. -/
def toJson (message : RowMessage) : Json :=
  .ofFields <|
    Json.field "cells" (message.cells.map fun cells => .array (cells.map CellMessage.toJson))

/-- The row of a JSON value. -/
def ofJson? (json : Json) : Option RowMessage :=
  match json.fields? ["cells"] with
  | some [cells] => do
      let cells ← Json.optional? (Json.list? CellMessage.ofJson?) cells
      some { cells }
  | _ => none

end RowMessage

namespace GridMessage

/-- The JSON value of a grid. -/
def toJson (message : GridMessage) : Json :=
  .ofFields <|
    Json.field "rows" (message.rows.map fun rows => .array (rows.map RowMessage.toJson)) ++
    Json.field "box_width" (message.boxWidth.map fun width => .integer width.toNat) ++
    Json.field "box_height" (message.boxHeight.map fun height => .integer height.toNat) ++
    Json.field "domain" (message.domain.map fun values =>
      .array (values.map fun value => .integer value.toInt))

/-- The grid of a JSON value. -/
def ofJson? (json : Json) : Option GridMessage :=
  match json.fields? ["rows", "box_width", "box_height", "domain"] with
  | some [rows, boxWidth, boxHeight, domain] => do
      let rows ← Json.optional? (Json.list? RowMessage.ofJson?) rows
      let boxWidth ← Json.optional? Json.uint32? boxWidth
      let boxHeight ← Json.optional? Json.uint32? boxHeight
      let domain ← Json.optional? (Json.list? Json.int64?) domain
      some { rows, boxWidth, boxHeight, domain }
  | _ => none

end GridMessage

namespace GameMessage

/-- The JSON value of a game. -/
def toJson (message : GameMessage) : Json :=
  .ofFields <|
    Json.field "grids" (message.grids.map fun grids => .array (grids.map GridMessage.toJson))

/-- The game of a JSON value. -/
def ofJson? (json : Json) : Option GameMessage :=
  match json.fields? ["grids"] with
  | some [grids] => do
      let grids ← Json.optional? (Json.list? GridMessage.ofJson?) grids
      some { grids }
  | _ => none

/-- The codec of messages as compact JSON. -/
def codec : Codec GameMessage :=
  Json.codec toJson ofJson?

/-- The document of a message. -/
def toDocument (message : GameMessage) (codec : Codec GameMessage) : Except Error String :=
  (codec.write message).mapError fun text => .internal (.other text)

/-- Read a message from a document. -/
def ofDocument (codec : Codec GameMessage) (document : String) : Except Error GameMessage :=
  (codec.read document).mapError fun text =>
    .malformed .unknown (.unreadable (.document text))

end GameMessage

end Sudoku
