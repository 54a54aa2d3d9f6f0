import ListQuery.Calendar.Instant
import ListQuery.Number.Numeral
import ListQuery.Text.Blank

/-! Instants read from text. Three forms are tried in turn: RFC 3339 with an offset, a date and
a time without one, and a date alone. -/

namespace ListQuery.Calendar

/-- A step of reading: what was read and the rest of the text. -/
abbrev Reading (α : Type) := List Char → Option (α × List Char)

/-- A number of at least one and at most `most` digits, as many as there are. -/
def digits (most : Nat) : Reading Nat := fun text =>
  let run := (text.takeWhile Char.isDigit).take most
  if run.isEmpty then none else some (Numeral.natural run, text.drop run.length)

/-- A number of exactly `count` digits. -/
def exactly (count : Nat) : Reading Nat := fun text =>
  let run := text.take count
  if run.length = count && run.all Char.isDigit then
    some (Numeral.natural run, text.drop count)
  else none

/-- A character that has to come next. -/
def mark (c : Char) : Reading Unit
  | [] => none
  | first :: rest => if first = c then some ((), rest) else none

/-- A fraction of a second in nanoseconds; from the tenth digit on it is cut off. -/
def fraction : Reading Nat
  | '.' :: text =>
    let run := text.takeWhile Char.isDigit
    if run.isEmpty then none
    else
      let kept := run.take 9
      some (Numeral.natural kept * tenTo (9 - kept.length), text.drop run.length)
  | text => some (0, text)

/-- An offset in minutes: the letter for zero, or a sign, two digits of hours up to 23, a colon
and two digits of minutes. -/
def offset : Reading Int
  | [] => none
  | c :: rest =>
    if c = 'Z' || c = 'z' then some (0, rest)
    else if c = '+' || c = '-' || c = '−' then do
      let (hours, rest) ← exactly 2 rest
      let (_, rest) ← mark ':' rest
      let (minutes, rest) ← exactly 2 rest
      if hours < 24 && minutes < 60 then
        let total : Int := hours * 60 + minutes
        some (if c = '+' then total else -total, rest)
      else none
    else none

/-- A year of four digits, or with a sign a year of any length. -/
def signedYear : Reading Int
  | '-' :: rest => (digits rest.length rest).map fun (year, rest) => (-(year : Int), rest)
  | '+' :: rest => (digits rest.length rest).map fun (year, rest) => ((year : Int), rest)
  | text => (exactly 4 text).map fun (year, rest) => ((year : Int), rest)

/-- RFC 3339: date, one of three separators, time, fraction and offset, with nothing after.
`year` reads the year. -/
def rfc3339 (year : Reading Int) (text : List Char) : Option Instant := do
  let (year, rest) ← year text
  let (_, rest) ← mark '-' rest
  let (month, rest) ← exactly 2 rest
  let (_, rest) ← mark '-' rest
  let (day, rest) ← exactly 2 rest
  let (_, rest) ← ((mark 'T' rest).or (mark 't' rest)).or (mark ' ' rest)
  let (hour, rest) ← exactly 2 rest
  let (_, rest) ← mark ':' rest
  let (minute, rest) ← exactly 2 rest
  let (_, rest) ← mark ':' rest
  let (second, rest) ← exactly 2 rest
  let (nano, rest) ← fraction rest
  let (minutes, rest) ← offset rest
  if rest.isEmpty then
    let date ← Date.ofNumbers? year month day
    let civil ← Instant.ofNumbers? date hour minute second nano
    civil.minus? minutes
  else none

/-- A number in a loose form: blanks before it, and no need for all its digits. -/
def loose (most : Nat) : Reading Nat := fun text =>
  digits most (Text.trimStart text)

/-- A year in a loose form: up to four digits, or with a sign any number of them. -/
def looseYear : Reading Int := fun text =>
  match Text.trimStart text with
  | '-' :: rest => (digits rest.length rest).map fun (year, rest) => (-(year : Int), rest)
  | '+' :: rest => (digits rest.length rest).map fun (year, rest) => ((year : Int), rest)
  | text => (digits 4 text).map fun (year, rest) => ((year : Int), rest)

/-- A date in the loose form. -/
def looseDate : Reading Date := fun text => do
  let (year, rest) ← looseYear text
  let (_, rest) ← mark '-' rest
  let (month, rest) ← loose 2 rest
  let (_, rest) ← mark '-' rest
  let (day, rest) ← loose 2 rest
  let date ← Date.ofNumbers? year month day
  some (date, rest)

/-- A date and a time in the loose form, taken as universal time. -/
def looseDateTime (text : List Char) : Option Instant := do
  let (date, rest) ← looseDate text
  let (_, rest) ← mark 'T' rest
  let (hour, rest) ← loose 2 rest
  let (_, rest) ← mark ':' rest
  let (minute, rest) ← loose 2 rest
  let (_, rest) ← mark ':' rest
  let (second, rest) ← loose 2 rest
  if rest.isEmpty then Instant.ofNumbers? date hour minute second 0 else none

/-- A date alone stands for its first instant. -/
def dateAlone (text : List Char) : Option Instant := do
  let (date, rest) ← looseDate text
  if rest.isEmpty then some (Instant.midnight date) else none

/-- The instant a text stands for. -/
def read? (text : String) : Option Instant :=
  let cs := text.toList
  ((rfc3339 (fun cs => (exactly 4 cs).map fun (year, rest) => ((year : Int), rest)) cs).or
    (looseDateTime cs)).or (dateAlone cs)

end ListQuery.Calendar

namespace ListQuery.Instant

/-- Reads the written form back, years with a sign included. -/
def ofRfc3339? (text : String) : Option Instant :=
  Calendar.rfc3339 Calendar.signedYear text.toList

end ListQuery.Instant
