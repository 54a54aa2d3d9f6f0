import ListQuery.Json.Number
import ListQuery.Json.Reader
import ListQuery.Query

/-! JSON values as values of other types. A structure is read from an object, whose members may
come in any order and among others, or from an array of its fields in their order. -/

namespace ListQuery.Json

/-- A text. -/
def text? : Json → Option String
  | .text value => value
  | _ => none

/-- A truth value. -/
def bool? : Json → Option Bool
  | .bool value => some value
  | _ => none

/-- Whether an integer fits into 64 bits with a sign. -/
def fitsInt64 (i : Int) : Bool :=
  Int64.minValue.toInt ≤ i && i ≤ Int64.maxValue.toInt

/-- An integer of 64 bits. -/
def int64? : Json → Option Int64
  | .number n =>
    match n.meaning? with
    | some (.int i) => if fitsInt64 i then some (Int64.ofInt i) else none
    | _ => none
  | _ => none

/-- Null or an integer of 64 bits. -/
def optionalInt64? : Json → Option (Option Int64)
  | .null => some none
  | json => (int64? json).map some

/-- A list of which every item is read. -/
def list? {α : Type} (item : Json → Option α) : Json → Option (List α)
  | .array items => items.mapM item
  | _ => none

/-- The values under the keys of an object. The last of two values under one key counts, but
each has to be readable. -/
def map? {α : Type} (value : Json → Option α) : Json → Option (Association String α)
  | .object members =>
    (members.mapM fun (member : Option String × Json) => do
      let key ← member.1
      let value ← value member.2
      return (key, value)).map Association.ofList
  | _ => none

/-- The fields of a structure, absent where they are missing. No field may come twice, and an
array may not be longer than the structure. -/
def fields? (names : List String) : Json → Option (List (Option Json))
  | .array items =>
    if items.length ≤ names.length then
      some (items.map some ++ List.replicate (names.length - items.length) none)
    else none
  | .object members =>
    let keys := members.map (·.1)
    if keys.contains none || names.any fun name => 1 < keys.count (some name) then none
    else some (names.map fun name => (members.find? (·.1 == some name)).map (·.2))
  | _ => none

/-- A field that may be missing. -/
def orDefault {α : Type} (default : α) (value : Json → Option α) : Option Json → Option α
  | none => some default
  | some json => value json

end ListQuery.Json

namespace ListQuery

/-- A constant. Integers beyond 64 bits with a sign are floats; a text is a text even where it
could be an instant. -/
def Scalar.ofJson? : Json → Option Scalar
  | .null => some .null
  | .bool value => some (.bool value)
  | .number n =>
    n.meaning?.map fun
      | .int i =>
        if Json.fitsInt64 i then .int (Int64.ofInt i) else .float (Binary64.ofInt i)
      | .float x => .float x
  | .text value => value.map .text
  | .array _ | .object _ => none

/-- A query. Every field may be missing. -/
def Query.ofJson? (json : Json) : Option Query := do
  match ← Json.fields? ["filter", "orderBy", "offset", "limit"] json with
  | [filter, orderBy, offset, limit] =>
    let filter ← Json.orDefault "" Json.text? filter
    let orderBy ← Json.orDefault "" Json.text? orderBy
    let offset ← Json.orDefault none Json.optionalInt64? offset
    let limit ← Json.orDefault none Json.optionalInt64? limit
    return { filter, orderBy, offset, limit }
  | _ => none

end ListQuery
