import ListQuery.Number.Binary64
import ListQuery.Text.Ascii

/-! Numbers read from text. The whole text has to be a numeral; what is wrong with it is a
`NumeralFault`. -/

namespace ListQuery

/-- What is wrong with the text of a number. -/
inductive NumeralFault where
  | emptyInteger
  | invalidDigit
  | tooLarge
  | tooSmall
  | emptyFloat
  | invalidFloat
deriving DecidableEq

namespace NumeralFault

/-- The wording of a fault. -/
def message : NumeralFault → String
  | emptyInteger => "cannot parse integer from empty string"
  | invalidDigit => "invalid digit found in string"
  | tooLarge => "number too large to fit in target type"
  | tooSmall => "number too small to fit in target type"
  | emptyFloat => "cannot parse float from empty string"
  | invalidFloat => "invalid float literal"

end NumeralFault

namespace Numeral

/-- The value of an ASCII digit. -/
def digit? (c : Char) : Option Nat :=
  if c.isDigit then some (c.toNat - '0'.toNat) else none

/-- Digits read from the left onto what was read before. Of a bad digit and a value that has
left its bounds the one met first counts; at one digit the bad digit does. -/
def digits (least greatest : Int) (negative : Bool) (value : Int) :
    List Char → Except NumeralFault Int
  | [] => .ok value
  | c :: rest =>
    match digit? c with
    | none => .error .invalidDigit
    | some d =>
      let value := if negative then value * 10 - d else value * 10 + d
      if greatest < value then .error .tooLarge
      else if value < least then .error .tooSmall
      else digits least greatest negative value rest

/-- An integer between bounds. A plus sign is always allowed, a minus sign only where numbers
below zero are. -/
def integer (least greatest : Int) : List Char → Except NumeralFault Int
  | [] => .error .emptyInteger
  | '+' :: rest =>
    if rest.isEmpty then .error .invalidDigit else digits least greatest false 0 rest
  | '-' :: rest =>
    if rest.isEmpty || 0 ≤ least then .error .invalidDigit else digits least greatest true 0 rest
  | text => digits least greatest false 0 text

/-- The integers of 64 bits. -/
def int64 (text : String) : Except NumeralFault Int64 :=
  (integer Int64.minValue.toInt Int64.maxValue.toInt text.toList).map Int64.ofInt

/-- The value of a run of digits. -/
def natural (run : List Char) : Nat :=
  run.foldl (fun value c => value * 10 + (digit? c).getD 0) 0

/-- An exponent: a mark, an optional sign and digits; nothing is the exponent zero. -/
def exponent? : List Char → Option Int
  | [] => some 0
  | mark :: rest =>
    if mark.toLower != 'e' then none
    else
      let (negative, run) :=
        match rest with
        | '-' :: run => (true, run)
        | '+' :: run => (false, run)
        | run => (false, run)
      if run.isEmpty || !run.all Char.isDigit then none
      else some (if negative then -(natural run : Int) else natural run)

/-- A decimal without its sign: digits, a point that has a digit on at least one side, and an
exponent. -/
def decimal? (negative : Bool) (text : List Char) : Option Binary64 :=
  let whole := text.takeWhile Char.isDigit
  let rest := text.dropWhile Char.isDigit
  let (fraction, rest) :=
    match rest with
    | '.' :: rest => (rest.takeWhile Char.isDigit, rest.dropWhile Char.isDigit)
    | rest => ([], rest)
  if whole.isEmpty && fraction.isEmpty then none
  else
    (exponent? rest).map fun exponent =>
      Binary64.ofDecimal negative (natural (whole ++ fraction)) (exponent - fraction.length)

/-- The words for what is not finite, in any case. -/
def word? (negative : Bool) (text : List Char) : Option Binary64 :=
  let small := String.ofList (Text.asciiLower text)
  if small = "inf" || small = "infinity" then some (Binary64.infinity negative)
  else if small = "nan" then some Binary64.nan
  else none

/-- A floating-point number, rounded from its exact decimal value. -/
def float (text : String) : Except NumeralFault Binary64 :=
  let (negative, rest) :=
    match text.toList with
    | '-' :: rest => (true, rest)
    | '+' :: rest => (false, rest)
    | rest => (false, rest)
  if text.isEmpty then .error .emptyFloat
  else
    match (word? negative rest).or (decimal? negative rest) with
    | some value => .ok value
    | none => .error .invalidFloat

end Numeral

end ListQuery
