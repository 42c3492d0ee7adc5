import Sudoku.Json.Basic

/-!
# Records in JSON

A record has a fixed sequence of named fields. It is written as an object, and
read from an object, or from an array of its fields in their sequence. Names that
the record does not have are passed over, but the same field must not come twice,
and every name has to be a sequence of characters.
-/

namespace Sudoku
namespace Json

/-! ### Writing -/

/-- An object of the given fields. -/
def ofFields (fields : List (String × Json)) : Json :=
  .object (fields.map fun field => (some field.1, field.2))

/-- A field that is left out when it is absent. -/
def field (name : String) (value : Option Json) : List (String × Json) :=
  (value.map fun json => (name, json)).toList

/-- A value that is null when it is absent. -/
def orNull (value : Option Json) : Json :=
  value.getD .null

/-! ### Reading -/

/-- The values of a name among the members of an object. -/
def valuesOf (name : String) (members : List (Option String × Json)) : List Json :=
  (members.filter fun member => member.1 == some name).map Prod.snd

/-- The value of a name that comes at most once. -/
def valueOf? (members : List (Option String × Json)) (name : String) :
    Option (Option Json) :=
  match valuesOf name members with
  | [] => some none
  | [json] => some (some json)
  | _ :: _ :: _ => none

/-- The fields of a record, as far as they are there. -/
def fields? (names : List String) : Json → Option (List (Option Json))
  | .object members =>
      if members.all fun member => member.1.isSome then names.mapM (valueOf? members)
      else none
  | .array items =>
      if items.length ≤ names.length then
        some (items.map some ++ List.replicate (names.length - items.length) none)
      else none
  | _ => none

/-- Read a field that may be absent or null. -/
def optional? {value : Type} (read? : Json → Option value) :
    Option Json → Option (Option value)
  | none => some none
  | some .null => some none
  | some json => (read? json).map some

/-- Read a field that has a default. -/
def orDefault? {value : Type} (read? : Json → Option value) (default : value) :
    Option Json → Option value
  | none => some default
  | some json => read? json

/-- Read an array of values. -/
def list? {value : Type} (read? : Json → Option value) : Json → Option (List value)
  | .array items => items.mapM read?
  | _ => none

/-- Read a truth value. -/
def bool? : Json → Option Bool
  | .bool value => some value
  | _ => none

/-- Read a signed integer of 64 bits. -/
def int64? : Json → Option Int64
  | .integer value =>
      if -0x8000000000000000 ≤ value ∧ value < 0x8000000000000000 then
        some (Int64.ofInt value)
      else none
  | _ => none

/-- Read an unsigned integer of 32 bits. -/
def uint32? : Json → Option UInt32
  | .integer value =>
      if 0 ≤ value ∧ value < 0x100000000 then some (UInt32.ofNat value.toNat) else none
  | _ => none

/-- Read an unsigned integer of 64 bits. -/
def uint64? : Json → Option UInt64
  | .integer value =>
      if 0 ≤ value ∧ value < 0x10000000000000000 then some (UInt64.ofNat value.toNat)
      else none
  | _ => none

end Json
end Sudoku
