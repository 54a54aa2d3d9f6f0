import ListQuery.Proofs.Compile.Outcome
import ListQuery.Proofs.Filter.Parsing

/-! Texts of a single clause: a property, an operator and its literals, with an asterisk behind the
operator or the property or without. What such a text compiles to is what its clause compiles to. -/

namespace ListQuery

namespace Compile

open ListQuery.Filter (Operator TokenKind Values Clause Derives OpenAtMost Plain textKinds maxDepth
  openAtMost_of_plain parse_of_derives)

/-- The tokens of an operator with its literals. -/
def clauseKinds (operator : Operator) (caseInsensitive : Bool) (literals : List TokenKind) :
    List TokenKind :=
  .operator operator :: if caseInsensitive then .asterisk :: literals else literals

section Texts

variable {M : Type} [Schema M] [DecidableEq M] {config : Config M} {model : M} {property : String}
  {operator : Operator} {raw : List (Option String)} {caseInsensitive : Bool}
  {literals : List TokenKind} {text : String}

variable (property operator caseInsensitive) in
theorem clause_clauseKinds (values : Values literals raw) :
    Clause property (clauseKinds operator caseInsensitive literals)
      (.clause property operator raw false caseInsensitive) := by
  cases caseInsensitive with
  | false => exact .exact operator values
  | true => exact .folded operator values

/-- A text of one clause comes to what the clause comes to. -/
theorem compileFilter_clause (values : Values literals raw)
    (read : textKinds text =
      .identifier property :: clauseKinds operator caseInsensitive literals) :
    (compileFilter config model text).result =
      (filter config (.model model)
        (.clause property operator raw false caseInsensitive)).result := by
  have clause := clause_clauseKinds property operator caseInsensitive values
  have derives : Derives .disjunction
      (.identifier property :: clauseKinds operator caseInsensitive literals) _ :=
    .conjunction (.term (.property (.clause clause)))
  have low : (Filter.clause property operator raw false caseInsensitive).height ≤ maxDepth := by
    simp [Filter.height, maxDepth]
  have few : OpenAtMost maxDepth _ :=
    (openAtMost_of_plain clause.plain).cons (k := .identifier property) (by simp [Plain])
  exact compileFilter_result (parse_of_derives read derives low few)

/-- With an asterisk behind the property the clause is asked of every element. -/
theorem compileFilter_everyElement (values : Values literals raw)
    (read : textKinds text =
      .identifier property :: .asterisk :: clauseKinds operator caseInsensitive literals) :
    (compileFilter config model text).result =
      (filter config (.model model) (.collection property
        (.clause "" operator raw false caseInsensitive) .all false)).result := by
  have clause := clause_clauseKinds "" operator caseInsensitive values
  have derives : Derives .disjunction
      (.identifier property :: .asterisk :: clauseKinds operator caseInsensitive literals) _ :=
    .conjunction (.term (.property (.allElements clause)))
  have low : (Filter.collection property
      (.clause "" operator raw false caseInsensitive) .all false).height ≤ maxDepth := by
    simp [Filter.height, maxDepth]
  have few : OpenAtMost maxDepth _ :=
    ((openAtMost_of_plain clause.plain).cons (k := .asterisk) (by simp [Plain])).cons
      (k := .identifier property) (by simp [Plain])
  exact compileFilter_result (parse_of_derives read derives low few)

end Texts

/-! ### Clauses on fields that are found -/

section Found

variable {M : Type} [Schema M] [DecidableEq M] {config : Config M} {model : M} {property : String}
  {resolved : Resolved M} {operator : Operator} {raw : List (Option String)} {negated : Bool}
  (found : resolve config model property = some resolved)

include found

/-- A clause on an ignored field is passed over. -/
theorem filter_ignoredClause (ignored : resolved.filterIgnored = true) (foldCase : Bool) :
    (filter config (.model model) (.clause property operator raw negated foldCase)).result =
      if config.strict then .error (.unresolvedFilter property) else .ok none := by
  have hidden : visible? config (.model model) property = none := by
    simp [visible?, found, ignored]
  obtain ⟨reason, same⟩ := clause_of_hidden hidden operator raw negated foldCase
  rw [filter, same, result_dropped]

/-- A clause on a field that has neither a converter nor a hook, nor elements or fields of its own,
is the clause on its type. -/
theorem filter_scalarClause (kept : resolved.filterIgnored = false)
    (scalar : resolved.type.isSortable = true) (typed : resolved.convert = none)
    (unhooked : resolved.customFilter = none) {foldCase : Bool} {p : Predicate}
    (asked : scalarClause property resolved.path resolved.type none foldCase operator raw = .ok p) :
    (filter config (.model model) (.clause property operator raw negated foldCase)).result =
      .ok (some (p.negatedIf negated)) := by
  have visible : visible? config (.model model) property =
      some ⟨resolved.path, resolved.type, resolved.convert, resolved.customFilter⟩ := by
    simp [visible?, found, kept]
  have made : condition property ⟨resolved.path, resolved.type, none, none⟩ foldCase operator raw =
      .ok p := by
    rw [← asked]
    cases type : resolved.type with
    | list | record => simp [type, FieldType.isSortable] at scalar
    | _ => rfl
  rw [filter, clause_of_visible visible, typed, unhooked, made]
  rfl

end Found

end Compile

end ListQuery
