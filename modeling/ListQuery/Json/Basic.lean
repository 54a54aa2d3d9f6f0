import ListQuery.Association

/-! JSON values as they are written: numbers keep their digits, and texts and keys whose escapes
are no characters are kept apart, because nobody may ask for them. -/

namespace ListQuery

/-- A number as it is written. -/
structure JsonNumber where
  negative : Bool
  whole : List Char
  fraction : List Char
  exponent : Option (Bool × List Char)
deriving DecidableEq

/-- A JSON value. A text is absent where its escapes leave half of a surrogate pair alone. -/
inductive Json where
  | null
  | bool (value : Bool)
  | number (value : JsonNumber)
  | text (value : Option String)
  | array (items : List Json)
  | object (members : List (Option String × Json))

end ListQuery
