/-! The comparison operators of the filter language. -/

namespace ListQuery.Filter

/-- A comparison of a property with one or more literals. -/
inductive Operator where
  | equal
  | notEqual
  | greater
  | greaterOrEqual
  | less
  | lessOrEqual
  | oneOf
  | contains
  | startsWith
  | endsWith
deriving DecidableEq

namespace Operator

/-- How the operator is written. -/
def symbol : Operator → String
  | equal => "=="
  | notEqual => "!="
  | greater => ">"
  | greaterOrEqual => ">="
  | less => "<"
  | lessOrEqual => "<="
  | oneOf => "|="
  | contains => "-=-"
  | startsWith => "=-"
  | endsWith => "-="

/-- The operator's name. -/
def name : Operator → String
  | equal => "Equal"
  | notEqual => "NotEqual"
  | greater => "GreaterThan"
  | greaterOrEqual => "GreaterThanOrEqual"
  | less => "LessThan"
  | lessOrEqual => "LessThanOrEqual"
  | oneOf => "In"
  | contains => "Contains"
  | startsWith => "StartsWith"
  | endsWith => "EndsWith"

/-- All operators, each before those whose symbol begins its own. -/
def all : List Operator :=
  [contains, equal, notEqual, greaterOrEqual, lessOrEqual, oneOf, startsWith, endsWith, greater,
    less]

/-- The operator of a symbol. -/
def ofSymbol? (symbol : String) : Option Operator :=
  all.find? fun op => op.symbol == symbol

/-- Operators that make sense on text alone. -/
def isText : Operator → Bool
  | contains | startsWith | endsWith => true
  | _ => false

/-- The longest operator that a text begins with. -/
def leading? (text : List Char) : Option Operator :=
  all.find? fun op => op.symbol.toList.isPrefixOf text

theorem symbol_ne_nil (op : Operator) : op.symbol.toList ≠ [] := by
  cases op <;> decide

theorem leading?_isPrefixOf {text : List Char} {op : Operator} (leads : leading? text = some op) :
    op.symbol.toList <+: text := by
  simpa using List.find?_some leads

end Operator

end ListQuery.Filter
