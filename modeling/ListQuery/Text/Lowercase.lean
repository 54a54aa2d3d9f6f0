import ListQuery.Text.CaseTable
import ListQuery.Text.Cased
import ListQuery.Text.CaseIgnorable

/-! Lower case by the full Unicode mapping: the small letter of each character, the dotted
capital i as an i with a dot above, and the sigma by its place in the word. -/

namespace ListQuery.Text

/-- Whether the nearest character, marks passed over, is a letter with case. -/
def meetsCased (neighbours : List Char) : Bool :=
  match neighbours.dropWhile caseIgnorable.contains with
  | [] => false
  | c :: _ => cased.contains c

/-- The lower case of one character. A capital sigma ends a word when a cased letter stands
before it and none after it. -/
def lowerChar (before : List Char) (c : Char) (after : List Char) : List Char :=
  if c.toNat < 128 then [c.toLower]
  else if c = 'Σ' then
    if meetsCased before && !meetsCased after then ['ς'] else ['σ']
  else if c = 'İ' then ['i', Char.ofNat 0x307]
  else
    match smallLetter? c.toNat with
    | some code => [Char.ofNat code]
    | none => [c]

/-- Lower case of a text whose earlier characters, nearest first, are known. -/
def lowerAfter (before : List Char) : List Char → List Char
  | [] => []
  | c :: rest => lowerChar before c rest ++ lowerAfter (c :: before) rest

/-- The lower case of a text. -/
def lowercase (text : String) : String :=
  String.ofList (lowerAfter [] text.toList)

end ListQuery.Text
