import ListQuery.Filter.Operator
import ListQuery.Text.Escaped
import ListQuery.Text.Term

/-! Tokens of the filter language, with their places in the input. -/

namespace ListQuery.Filter

/-- What a token is. -/
inductive TokenKind where
  /-- A property, dots included, or one of the words for a value. -/
  | identifier (name : String)
  /-- The text between quotes, its own quotes still doubled. -/
  | string (inner : String)
  /-- Digits with an optional sign and fraction. -/
  | number (numeral : String)
  | operator (op : Operator)
  /-- An equals sign that belongs to no operator. -/
  | equalsSign
  | comma
  | opening
  | closing
  | exclamation
  | asterisk
  | and
  | or
  /-- A character that begins no token. -/
  | illegal (c : Char)
  /-- A quote that is never closed. -/
  | unterminated
deriving DecidableEq

namespace TokenKind

/-- The name of the kind. -/
def name : TokenKind → String
  | identifier _ => "Identifier"
  | string _ => "String"
  | number _ => "Number"
  | operator _ | equalsSign => "Operator"
  | comma => "Comma"
  | opening => "LParen"
  | closing => "RParen"
  | exclamation => "Exclamation"
  | asterisk => "Asterisk"
  | and => "And"
  | or => "Or"
  | illegal _ => "Illegal"
  | unterminated => "UnterminatedString"

/-- The text that a token carries. -/
def lexeme? : TokenKind → Option String
  | identifier text | string text | number text => some text
  | operator op => some op.symbol
  | equalsSign => some "="
  | _ => none

/-- The kind by its name, around the text it carries. -/
def term (kind : TokenKind) : Text.Term :=
  match kind.lexeme? with
  | some lexeme => .tuple kind.name [.word (Text.escaped lexeme)]
  | none => .word kind.name

/-- Whether the token stands where an operator has to. -/
def isOperator : TokenKind → Bool
  | operator _ | equalsSign => true
  | _ => false

/-- Whether the token is one that the language has. -/
def isLegal : TokenKind → Bool
  | illegal _ | unterminated => false
  | _ => true

end TokenKind

/-- A token and the bytes that it takes up: from `start` up to `stop`, exclusive. -/
structure Token where
  kind : TokenKind
  start : Nat
  stop : Nat
deriving DecidableEq

end ListQuery.Filter
