import ListQuery.Filter.Token
import ListQuery.Text.Ascii
import ListQuery.Text.Blank
import ListQuery.Text.Letter
import ListQuery.Text.Size

/-! A filter text as tokens. Blanks separate tokens and are passed over; every other character
belongs to one token, so the tokens' texts and the blanks make up the input. -/

namespace ListQuery.Filter

/-- A token's kind, its text and the rest of the input. -/
structure Lexeme where
  kind : TokenKind
  text : List Char
  rest : List Char

namespace Lexeme

/-- The characters of a name after its first. -/
def isNameChar (c : Char) : Bool :=
  Text.isLetter c || Text.isNumber c || c == '.' || c == '_'

/-- The first character of a name. -/
def isNameStart (c : Char) : Bool :=
  Text.isLetter c || c == '_'

/-- A name is a property, unless it is one of the two words that join clauses. -/
def ofName (name : String) : TokenKind :=
  if Text.sameIgnoringCase name "and" then .and
  else if Text.sameIgnoringCase name "or" then .or
  else .identifier name

/-- A point with digits after it, and the rest. -/
def fraction? : List Char → Option (List Char × List Char)
  | '.' :: d :: more =>
    if d.isDigit then
      some ('.' :: (d :: more).takeWhile Char.isDigit, (d :: more).dropWhile Char.isDigit)
    else none
  | _ => none

/-- The digits of a number, with its fraction, and the rest. -/
def numeral (text : List Char) : List Char × List Char :=
  match fraction? (text.dropWhile Char.isDigit) with
  | some (fraction, rest) => (text.takeWhile Char.isDigit ++ fraction, rest)
  | none => (text.takeWhile Char.isDigit, text.dropWhile Char.isDigit)

/-- What stands before the closing quote, and the rest after it. Two quotes in a row do not
close. -/
def quotedBody? : List Char → Option (List Char × List Char)
  | '\'' :: '\'' :: rest => (quotedBody? rest).map fun (inner, rest) => ('\'' :: '\'' :: inner, rest)
  | '\'' :: rest => some ([], rest)
  | c :: rest => (quotedBody? rest).map fun (inner, rest) => (c :: inner, rest)
  | [] => none

/-- Whether a number begins here. -/
def startsNumber (c : Char) (rest : List Char) : Bool :=
  c.isDigit || (c == '-' && (rest.head?.map Char.isDigit).getD false)

/-- The token of a single character, if it is one. -/
def single? (c : Char) : Option TokenKind :=
  if c = ',' then some .comma
  else if c = '(' then some .opening
  else if c = ')' then some .closing
  else if c = '!' then some .exclamation
  else if c = '*' then some .asterisk
  else if c = '&' then some .and
  else if c = '|' then some .or
  else if c = '=' then some .equalsSign
  else none

/-- The token at the head of a text that does not begin with a blank. -/
def first (c : Char) (rest : List Char) : Lexeme :=
  match Operator.leading? (c :: rest) with
  | some op => ⟨.operator op, op.symbol.toList, (c :: rest).drop op.symbol.toList.length⟩
  | none =>
    if startsNumber c rest then
      if c = '-' then
        let (digits, rest) := numeral rest
        ⟨.number (String.ofList ('-' :: digits)), '-' :: digits, rest⟩
      else
        let (digits, rest) := numeral (c :: rest)
        ⟨.number (String.ofList digits), digits, rest⟩
    else
      match single? c with
      | some kind => ⟨kind, [c], rest⟩
      | none =>
        if c = '\'' then
          match quotedBody? rest with
          | some (inner, after) =>
            ⟨.string (String.ofList inner), '\'' :: (inner ++ ['\'']), after⟩
          | none => ⟨.unterminated, c :: rest, []⟩
        else if isNameStart c then
          let name := c :: rest.takeWhile isNameChar
          ⟨ofName (String.ofList name), name, rest.dropWhile isNameChar⟩
        else ⟨.illegal c, [c], rest⟩

theorem fraction?_append {text fraction rest : List Char}
    (found : fraction? text = some (fraction, rest)) : fraction ++ rest = text := by
  unfold fraction? at found
  split at found
  · split at found
    · simp only [Option.some.injEq, Prod.mk.injEq] at found
      obtain ⟨rfl, rfl⟩ := found
      simp only [List.cons_append, List.takeWhile_append_dropWhile]
    · simp at found
  · simp at found

theorem numeral_append (text : List Char) : (numeral text).1 ++ (numeral text).2 = text := by
  unfold numeral
  split
  · rename_i fraction rest found
    simp only [List.append_assoc, fraction?_append found, List.takeWhile_append_dropWhile]
  · simp only [List.takeWhile_append_dropWhile]

theorem quotedBody?_append {text inner rest : List Char}
    (closed : quotedBody? text = some (inner, rest)) : inner ++ '\'' :: rest = text := by
  fun_induction quotedBody? text generalizing inner with
  | case1 more ih =>
    obtain ⟨⟨body, after⟩, found, same⟩ := Option.map_eq_some_iff.1 closed
    simp only [Prod.mk.injEq] at same
    obtain ⟨rfl, rfl⟩ := same
    simp [← ih found]
  | case2 more _ =>
    simp only [Option.some.injEq, Prod.mk.injEq] at closed
    obtain ⟨rfl, rfl⟩ := closed
    rfl
  | case3 c more _ _ ih =>
    obtain ⟨⟨body, after⟩, found, same⟩ := Option.map_eq_some_iff.1 closed
    simp only [Prod.mk.injEq] at same
    obtain ⟨rfl, rfl⟩ := same
    simp [← ih found]
  | case4 => simp at closed

/-- A token's text and the rest make up the input. -/
theorem first_append (c : Char) (rest : List Char) :
    (first c rest).text ++ (first c rest).rest = c :: rest := by
  unfold first
  split
  · rename_i op leads
    have starts := Operator.leading?_isPrefixOf leads
    rw [List.prefix_iff_eq_append] at starts
    exact starts
  · split
    · split
      · rename_i minus
        simp [minus, numeral_append]
      · exact numeral_append (c :: rest)
    · split
      · rfl
      · split
        · rename_i quote
          split
          · rename_i inner after closed
            simp [quote, quotedBody?_append closed]
          · simp
        · split
          · simp
          · rfl

/-- A token takes at least one character. -/
theorem first_text_ne_nil (c : Char) (rest : List Char) : (first c rest).text ≠ [] := by
  unfold first
  split
  · exact Operator.symbol_ne_nil _
  · split
    · split
      · simp
      · rename_i starts minus
        have digit : c.isDigit = true := by
          simp only [startsNumber, Bool.or_eq_true, Bool.and_eq_true, beq_iff_eq] at starts
          exact starts.elim id fun both => absurd both.1 minus
        simp only [numeral, List.takeWhile_cons, digit, if_true]
        split <;> simp
    · split
      · simp
      · split
        · split <;> simp
        · split <;> simp

theorem first_rest_length (c : Char) (rest : List Char) :
    (first c rest).rest.length < rest.length + 1 := by
  have whole := congrArg List.length (first_append c rest)
  have taken := List.length_pos_iff.2 (first_text_ne_nil c rest)
  simp only [List.length_append, List.length_cons] at whole
  omega

end Lexeme

/-- The tokens of a text that begins at a byte position. -/
def tokensFrom (position : Nat) (text : List Char) : List Token :=
  match _left : text.dropWhile Text.isBlank with
  | [] => []
  | c :: rest =>
    let start := position + Text.byteSize (text.takeWhile Text.isBlank)
    let lexeme := Lexeme.first c rest
    let stop := start + Text.byteSize lexeme.text
    ⟨lexeme.kind, start, stop⟩ :: tokensFrom stop lexeme.rest
termination_by text.length
decreasing_by
  have shorter := Lexeme.first_rest_length c rest
  have kept := (List.dropWhile_sublist Text.isBlank (l := text)).length_le
  rw [_left] at kept
  exact Nat.lt_of_lt_of_le shorter kept

/-- All tokens of a text, those included that the language does not have. -/
def tokens (text : String) : List Token :=
  tokensFrom 0 text.toList

end ListQuery.Filter
