import ListQuery.FieldPath
import ListQuery.Value.Order

/-! Predicates: compiled filters, and what they say of a value. -/

namespace ListQuery

/-- A comparison with a constant. -/
inductive Comparison where
  | eq
  | ne
  | gt
  | ge
  | lt
  | le
deriving DecidableEq

/-- Where a text has to hold a pattern. -/
inductive TextMatch where
  | contains
  | startsWith
  | endsWith
deriving DecidableEq

/-- The field that is compared, its text in lower case if asked for. -/
structure Operand where
  path : FieldPath
  foldCase : Bool
deriving DecidableEq

/-- A test given by the program. Two tests are the same when they have one identity, which
copies keep. -/
structure NativeTest where
  name : String
  identity : Nat
  test : Value → Bool

/-- A condition on a value. The quantifiers range over the elements of the list at a path. -/
inductive Predicate where
  | compare (operand : Operand) (comparison : Comparison) (constant : Scalar)
  | oneOf (operand : Operand) (constants : List Scalar)
  | text (operand : Operand) (position : TextMatch) (pattern : String)
  | any (path : FieldPath) (inner : Predicate)
  | all (path : FieldPath) (inner : Predicate)
  | and (left right : Predicate)
  | or (left right : Predicate)
  | not (inner : Predicate)
  | native (test : NativeTest)

namespace Value

/-- The value at a path. A null on the way is null at the end; a field that is not there, or a
step into anything else, has no value. -/
def lookup? (subject : Value) : FieldPath → Option Value
  | [] => some subject
  | name :: rest =>
    match subject with
    | record fields =>
      match fieldOf? name fields with
      | some value => value.lookup? rest
      | none => none
    | null => some null
    | _ => none

/-- The value that an operand stands for. -/
def operand? (subject : Value) (operand : Operand) : Option Value :=
  (subject.lookup? operand.path).map fun value =>
    match value with
    | text s => if operand.foldCase then text (Text.lowercase s) else text s
    | other => other

end Value

namespace Comparison

/-- Whether a comparison holds. Equality and its opposite are always decided; the others need
an order of value and constant. -/
def holds (comparison : Comparison) (value : Value) (constant : Scalar) : Bool :=
  match comparison with
  | eq => value.equals constant
  | ne => !value.equals constant
  | gt => value.compareTo? constant == some .gt
  | ge => value.compareTo? constant == some .gt || value.compareTo? constant == some .eq
  | lt => value.compareTo? constant == some .lt
  | le => value.compareTo? constant == some .lt || value.compareTo? constant == some .eq

/-- The comparison's name. -/
def name : Comparison → String
  | eq => "Eq"
  | ne => "Ne"
  | gt => "Gt"
  | ge => "Ge"
  | lt => "Lt"
  | le => "Le"

end Comparison

namespace TextMatch

/-- Whether a text holds the pattern there. -/
def holds (position : TextMatch) (pattern text : String) : Bool :=
  match position with
  | contains => Text.contains pattern.toList text.toList
  | startsWith => pattern.toList.isPrefixOf text.toList
  | endsWith => pattern.toList.isSuffixOf text.toList

/-- The position's name. -/
def name : TextMatch → String
  | contains => "Contains"
  | startsWith => "StartsWith"
  | endsWith => "EndsWith"

end TextMatch

namespace Predicate

/-- Whether a value meets the condition. A field without a value meets no condition; a null
list has no element that fails. -/
def holds : Predicate → Value → Bool
  | compare operand comparison constant, subject =>
    match subject.operand? operand with
    | some value => comparison.holds value constant
    | none => false
  | oneOf operand constants, subject =>
    match subject.operand? operand with
    | some value => constants.any value.equals
    | none => false
  | text operand position pattern, subject =>
    match subject.operand? operand with
    | some (.text value) => position.holds pattern value
    | _ => false
  | any path inner, subject =>
    match subject.lookup? path with
    | some (.list items) => items.any inner.holds
    | _ => false
  | all path inner, subject =>
    match subject.lookup? path with
    | some (.list items) => items.all inner.holds
    | some .null => true
    | _ => false
  | and left right, subject => left.holds subject && right.holds subject
  | or left right, subject => left.holds subject || right.holds subject
  | not inner, subject => !inner.holds subject
  | native test, subject => test.test subject

/-- The condition negated, if asked to. -/
def negatedIf (negated : Bool) (predicate : Predicate) : Predicate :=
  if negated then not predicate else predicate

/-- Whether two conditions are the same, their constants in numeric order and their tests by
identity. -/
def same : Predicate → Predicate → Bool
  | compare o c s, compare o' c' s' => o == o' && c == c' && s.same s'
  | oneOf o ss, oneOf o' ss' =>
    o == o' && ss.length == ss'.length && (ss.zip ss').all fun (s, s') => s.same s'
  | text o m p, text o' m' p' => o == o' && m == m' && p == p'
  | any f p, any f' p' => f == f' && p.same p'
  | all f p, all f' p' => f == f' && p.same p'
  | and l r, and l' r' => l.same l' && r.same r'
  | or l r, or l' r' => l.same l' && r.same r'
  | not p, not p' => p.same p'
  | native t, native t' => t.identity == t'.identity
  | _, _ => false

end Predicate

/-- The operand by its constructor. -/
def Operand.term (operand : Operand) : Text.Term :=
  .record "Operand" [("path", operand.path.term), ("fold_case", .ofBool operand.foldCase)]

/-- The predicate by its constructors. -/
def Predicate.term : Predicate → Text.Term
  | compare operand comparison constant =>
    .record "Compare"
      [("field", operand.term), ("op", .word comparison.name), ("value", constant.term)]
  | oneOf operand constants =>
    .record "In" [("field", operand.term), ("values", .list (constants.map Scalar.term))]
  | text operand position pattern =>
    .record "Text"
      [ ("field", operand.term), ("op", .word position.name),
        ("value", .word (Text.escaped pattern)) ]
  | any path inner => .record "Any" [("field", path.term), ("predicate", inner.term)]
  | all path inner => .record "All" [("field", path.term), ("predicate", inner.term)]
  | and left right => .tuple "And" [left.term, right.term]
  | or left right => .tuple "Or" [left.term, right.term]
  | not inner => .tuple "Not" [inner.term]
  | native test => .tuple "Native" [.tuple "NativePredicate" [.word test.name]]

end ListQuery
