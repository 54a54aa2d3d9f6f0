import ListQuery.Json.Basic

/-! JSON values read from text. -/

namespace ListQuery.Json

/-- The blanks of JSON. -/
def isBlank (c : Char) : Bool :=
  c == ' ' || c == '\t' || c == '\n' || c == '\r'

/-- A character of a text, or a unit of sixteen bits given by an escape. -/
inductive Piece where
  | char (c : Char)
  | unit (code : Nat)

/-- The value of a digit in base sixteen. -/
def hexDigit? (c : Char) : Option Nat :=
  if c.isDigit then some (c.toNat - '0'.toNat)
  else if 'a' ≤ c && c ≤ 'f' then some (c.toNat - 'a'.toNat + 10)
  else if 'A' ≤ c && c ≤ 'F' then some (c.toNat - 'A'.toNat + 10)
  else none

/-- The number of four digits in base sixteen. -/
def hex? (a b c d : Char) : Option Nat := do
  let a ← hexDigit? a
  let b ← hexDigit? b
  let c ← hexDigit? c
  let d ← hexDigit? d
  return ((a * 16 + b) * 16 + c) * 16 + d

/-- The character of a short escape. -/
def shortEscape? (c : Char) : Option Char :=
  if c = '"' || c = '\\' || c = '/' then some c
  else if c = 'b' then some '\x08'
  else if c = 'f' then some '\x0c'
  else if c = 'n' then some '\n'
  else if c = 'r' then some '\r'
  else if c = 't' then some '\t'
  else none

/-- The pieces up to the closing quote, and the rest after it. Controls have to be escaped. -/
def pieces? : List Char → Option (List Piece × List Char)
  | [] => none
  | '"' :: rest => some ([], rest)
  | '\\' :: 'u' :: a :: b :: c :: d :: rest => do
    let code ← hex? a b c d
    let (later, rest) ← pieces? rest
    return (.unit code :: later, rest)
  | '\\' :: e :: rest => do
    let c ← shortEscape? e
    let (later, rest) ← pieces? rest
    return (.char c :: later, rest)
  | c :: rest =>
    if c.toNat < 32 || c = '\\' then none
    else (pieces? rest).map fun (later, rest) => (.char c :: later, rest)

/-- The characters of pieces. Two halves of a surrogate pair are one character; a half alone is
none. -/
def characters? : List Piece → Option (List Char)
  | [] => some []
  | .char c :: rest => (characters? rest).map (c :: ·)
  | .unit high :: .unit low :: rest =>
    if 0xD800 ≤ high && high < 0xDC00 then
      if 0xDC00 ≤ low && low < 0xE000 then
        let code := 0x10000 + (high - 0xD800) * 0x400 + (low - 0xDC00)
        (characters? rest).map (Char.ofNat code :: ·)
      else none
    else if 0xDC00 ≤ high && high < 0xE000 then none
    else (characters? (.unit low :: rest)).map (Char.ofNat high :: ·)
  | .unit code :: rest =>
    if 0xD800 ≤ code && code < 0xE000 then none
    else (characters? rest).map (Char.ofNat code :: ·)

/-- The text that pieces spell, if they spell one. -/
def spelled (pieces : List Piece) : Option String :=
  (characters? pieces).map String.ofList

/-- A number and the rest. A leading zero stands alone, and digits follow a point and an
exponent's mark. -/
def number? (content : List Char) : Option (JsonNumber × List Char) := do
  let (negative, afterSign) :=
    match content with
    | '-' :: rest => (true, rest)
    | rest => (false, rest)
  let whole := afterSign.takeWhile Char.isDigit
  if whole.isEmpty || (whole.head? = some '0' && 1 < whole.length) then none
  let (fraction, afterFraction) ←
    match afterSign.dropWhile Char.isDigit with
    | '.' :: rest =>
      let digits := rest.takeWhile Char.isDigit
      if digits.isEmpty then none else some (digits, rest.dropWhile Char.isDigit)
    | rest => some ([], rest)
  match afterFraction with
  | [] => some (⟨negative, whole, fraction, none⟩, [])
  | mark :: rest =>
    if mark = 'e' || mark = 'E' then
      let (down, rest) :=
        match rest with
        | '-' :: rest => (true, rest)
        | '+' :: rest => (false, rest)
        | rest => (false, rest)
      let digits := rest.takeWhile Char.isDigit
      if digits.isEmpty then none
      else some (⟨negative, whole, fraction, some (down, digits)⟩, rest.dropWhile Char.isDigit)
    else some (⟨negative, whole, fraction, none⟩, mark :: rest)

/-- The parts that JSON is made of. -/
inductive Part where
  | value (json : Json)
  | text (value : Option String)
  | openArray
  | closeArray
  | openObject
  | closeObject
  | comma
  | colon

/-- The part at the head of a text, and the rest. -/
def part? (c : Char) (rest : List Char) : Option (Part × List Char) :=
  if c = '[' then some (.openArray, rest)
  else if c = ']' then some (.closeArray, rest)
  else if c = '\x7b' then some (.openObject, rest)
  else if c = '\x7d' then some (.closeObject, rest)
  else if c = ',' then some (.comma, rest)
  else if c = ':' then some (.colon, rest)
  else if c = '"' then (pieces? rest).map fun (spelling, rest) => (.text (spelled spelling), rest)
  else if ['n', 'u', 'l', 'l'].isPrefixOf (c :: rest) then some (.value .null, rest.drop 3)
  else if ['t', 'r', 'u', 'e'].isPrefixOf (c :: rest) then some (.value (.bool true), rest.drop 3)
  else if ['f', 'a', 'l', 's', 'e'].isPrefixOf (c :: rest) then
    some (.value (.bool false), rest.drop 4)
  else (number? (c :: rest)).map fun (numeral, rest) => (.value (.number numeral), rest)

/-- The parts of a text in at most so many steps. Every part takes a character, so that steps
as many as characters are enough. -/
def partsWithin : Nat → List Char → Option (List Part)
  | 0, content => if (content.dropWhile isBlank).isEmpty then some [] else none
  | steps + 1, content =>
    match content.dropWhile isBlank with
    | [] => some []
    | c :: rest => do
      let (part, rest) ← part? c rest
      let later ← partsWithin steps rest
      return part :: later

/-- The parts of a text. -/
def parts (content : List Char) : Option (List Part) :=
  partsWithin content.length content

/-- A list or an object that is not closed yet, its newest entry first. -/
inductive Frame where
  | array (items : List Json)
  | object (members : List (Option String × Json))
  /-- An object with a key that has no value yet. -/
  | keyed (members : List (Option String × Json)) (key : Option String)

/-- What may come next. -/
inductive Next where
  /-- A value. -/
  | value
  /-- A value or the end of an empty list. -/
  | firstItem
  /-- A key or the end of an empty object. -/
  | firstKey
  | key
  | colon
  /-- A comma or the end of what is open. -/
  | separator

/-- A value is complete: it joins what is open. -/
def complete (json : Json) : List Frame → Option Json × List Frame
  | [] => (some json, [])
  | .array items :: frames => (none, .array (json :: items) :: frames)
  | .keyed members key :: frames => (none, .object ((key, json) :: members) :: frames)
  | .object members :: frames => (none, .object members :: frames)

/-- Puts parts together, innermost first. Nothing may follow the outermost value. -/
def assemble (next : Next) (frames : List Frame) : List Part → Option Json
  | [] => none
  | part :: rest =>
    let finish (json : Json) (frames : List Frame) : Option Json :=
      match complete json frames with
      | (some whole, _) => if rest.isEmpty then some whole else none
      | (none, frames) => assemble .separator frames rest
    match next, part, frames with
    | .value, .value json, frames | .firstItem, .value json, frames => finish json frames
    | .value, .text spelling, frames | .firstItem, .text spelling, frames =>
      finish (.text spelling) frames
    | .value, .openArray, frames | .firstItem, .openArray, frames =>
      assemble .firstItem (.array [] :: frames) rest
    | .value, .openObject, frames | .firstItem, .openObject, frames =>
      assemble .firstKey (.object [] :: frames) rest
    | .firstItem, .closeArray, .array items :: frames
    | .separator, .closeArray, .array items :: frames => finish (.array items.reverse) frames
    | .firstKey, .closeObject, .object members :: frames
    | .separator, .closeObject, .object members :: frames => finish (.object members.reverse) frames
    | .firstKey, .text key, .object members :: frames
    | .key, .text key, .object members :: frames =>
      assemble .colon (.keyed members key :: frames) rest
    | .colon, .colon, frames => assemble .value frames rest
    | .separator, .comma, .array items :: frames => assemble .value (.array items :: frames) rest
    | .separator, .comma, .object members :: frames =>
      assemble .key (.object members :: frames) rest
    | _, _, _ => none

/-- The value of a text that holds one and nothing else. -/
def read? (text : String) : Option Json :=
  (parts text.toList).bind (assemble .value [])

end ListQuery.Json
