import ListQuery.Scalar

/-! Texts and constants as JSON. -/

namespace ListQuery.Json

/-- How one character stands inside a text. Controls are escaped, all else stands for itself. -/
def writtenChar (c : Char) : List Char :=
  if c = '"' || c = '\\' then ['\\', c]
  else if c = '\x08' then ['\\', 'b']
  else if c = '\x0c' then ['\\', 'f']
  else if c = '\n' then ['\\', 'n']
  else if c = '\r' then ['\\', 'r']
  else if c = '\t' then ['\\', 't']
  else if c.toNat < 32 then
    ['\\', 'u', '0', '0', Nat.digitChar (c.toNat / 16), Nat.digitChar (c.toNat % 16)]
  else [c]

/-- A text between quotes. -/
def writtenText (text : String) : String :=
  String.ofList ('"' :: (text.toList.flatMap writtenChar ++ ['"']))

end ListQuery.Json

namespace ListQuery.Scalar

/-- The constant as JSON. A float that is not finite is null. -/
def json : Scalar → String
  | null => "null"
  | bool value => if value then "true" else "false"
  | int value => toString value.toInt
  | float value => if value.isNaN || value.isInfinite then "null" else value.written .json
  | text value => Json.writtenText value
  | instant value => Json.writtenText value.zulu

end ListQuery.Scalar
