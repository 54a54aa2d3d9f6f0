import ListQuery.Filter.Token
import ListQuery.Literal

/-! What can be wrong with a query, by cause, and the wording of each cause. -/

namespace ListQuery

open ListQuery.Filter

/-- What stops a text from being tokens. -/
inductive LexicalFault where
  | unexpectedCharacter (c : Char)
  | unterminatedString
deriving DecidableEq

/-- What the grammar can ask for. -/
inductive Expected where
  | propertyOrGroup
  | group
  | operator
  | value
deriving DecidableEq

/-- What stops tokens from being a filter. -/
inductive GrammarFault where
  /-- Another token stands where something is asked for. -/
  | found (expected : Expected) (kind : TokenKind)
  /-- The input ends where something is asked for. -/
  | ended (expected : Expected)
  /-- An operator that the language does not have. -/
  | unknownOperator (symbol : String)
  | unmatchedClosing
  /-- A group that is not closed, with the place of its parenthesis. -/
  | unmatchedOpening (start : Nat)
  /-- A token after the end of the filter. -/
  | leftOver (kind : TokenKind)
  /-- A tree of more levels than the limit. -/
  | tooManyLevels (limit : Nat)
  /-- More open groups than the limit. -/
  | tooManyGroups (limit : Nat)
deriving DecidableEq

/-- Why an operator does not apply to a property. -/
inductive Unsupported where
  /-- A text operator on a field of another type. -/
  | notText (typeName : String)
  /-- A comparison with a record or a list of records. -/
  | notComparable (typeName : String)
deriving DecidableEq

/-- What is wrong with a query. -/
inductive QueryError where
  | lexical (fault : LexicalFault) (position : Nat)
  | grammar (fault : GrammarFault) (position : Option Nat)
  | unresolvedFilter (property : String)
  | unresolvedOrdering (property : String)
  /-- A literal has no value of the type that the property needs. -/
  | conversion (property value typeName : String) (fault : LiteralFault)
  | notACollection (property : String)
  | unsupportedOperator (property : String) (operator : Operator) (reason : Unsupported)
  /-- A list of literals for an operator that takes one. -/
  | valueCount (property : String) (operator : Operator) (count : Nat)
deriving DecidableEq

/-- The wording of a lexical fault. -/
def LexicalFault.message : LexicalFault → String
  | unexpectedCharacter c => "unexpected character '" ++ c.toString ++ "'"
  | unterminatedString => "unterminated string literal"

/-- What is asked for, in words. -/
def Expected.words : Expected → String
  | propertyOrGroup => "property or '('"
  | group => "'('"
  | operator => "operator"
  | value => "value"

/-- The wording of a fault of the grammar. -/
def GrammarFault.message : GrammarFault → String
  | found expected kind => "expected " ++ expected.words ++ ", found " ++ kind.term.compact
  | ended .propertyOrGroup => "unexpected end of input"
  | ended expected => "expected " ++ expected.words ++ ", but reached end of input"
  | unknownOperator symbol => "unknown operator '" ++ symbol ++ "'"
  | unmatchedClosing => "unmatched ')'"
  | unmatchedOpening start => "unmatched '(' opened at " ++ toString start
  | leftOver kind => "unexpected token " ++ kind.term.compact
  | tooManyLevels limit => "query too deeply nested (more than " ++ toString limit ++ " levels)"
  | tooManyGroups limit => "query too deeply nested (more than " ++ toString limit ++ " groups)"

/-- Why an operator does not apply, in words. -/
def Unsupported.message : Unsupported → String
  | notText typeName => typeName ++ " is not a text field"
  | notComparable typeName => typeName ++ " values cannot be compared with a literal"

namespace QueryError

/-- The wording of an error. -/
def message : QueryError → String
  | lexical fault position => "lexical error at " ++ toString position ++ ": " ++ fault.message
  | grammar fault position =>
    "syntax error" ++ (match position with | some p => " at " ++ toString p | none => "") ++ ": "
      ++ fault.message
  | unresolvedFilter property => "invalid filter property '" ++ property ++ "'"
  | unresolvedOrdering property => "invalid ordering property '" ++ property ++ "'"
  | conversion property value typeName fault =>
    "cannot convert '" ++ value ++ "' to " ++ typeName ++ " for property '" ++ property ++ "': "
      ++ fault.message
  | notACollection property => "property '" ++ property ++ "' is not a collection"
  | unsupportedOperator property operator reason =>
    "operator " ++ operator.symbol ++ " cannot be applied to property '" ++ property ++ "': "
      ++ reason.message
  | valueCount property operator count =>
    "operator " ++ operator.symbol ++ " on property '" ++ property
      ++ "' expects a single value, got " ++ toString count

/-- Errors in the text of a query, as against its use of the schema. -/
def isInputError : QueryError → Bool
  | lexical .. | grammar .. | conversion .. => true
  | _ => false

end QueryError

end ListQuery
