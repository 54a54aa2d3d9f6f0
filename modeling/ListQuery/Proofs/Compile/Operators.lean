import Mathlib.Data.List.Forall2
import ListQuery.Proofs.Compile.ClauseTexts
import ListQuery.Proofs.Compile.Typing
import ListQuery.Proofs.Value.Comparing
import ListQuery.Sample.Models

/-! The operators of clauses as an algebra. Clauses on one property are joined to a text whose
filter accepts what some clause accepts. With what is known of values and constants, each operator
can be said by others: not equal by the opposite of equal, a list by equalities, and the orders that
include equality by those that do not and equality. This is so for records that hold the property,
with null and what is no number among its values. -/

namespace ListQuery

/-- The constant, in lower case if asked for. -/
def Scalar.foldedIf (foldCase : Bool) (constant : Scalar) : Scalar :=
  if foldCase then constant.foldCase else constant

theorem Scalar.foldedIf_ne_null {constant : Scalar} (present : constant ≠ .null) (foldCase : Bool) :
    constant.foldedIf foldCase ≠ .null := by
  unfold foldedIf
  cases constant <;> cases foldCase <;> simp_all [foldCase]

theorem Literal.ne_null_of_scalar {M : Type} {literal : String} {type : FieldType M} {made : Scalar}
    (read : scalar (some literal) type = .ok made) : made ≠ .null := by
  rintro rfl
  cases type?_of_scalarOf read

namespace Value

/-- What is compared where a record holds a value: the value, a text perhaps in lower case. Constants
in lower case are of the same kinds as before. -/
theorem exists_operand? {record value : Value} {path : FieldPath}
    (held : record.lookup? path = some value) (foldCase : Bool) :
    ∃ read, record.operand? ⟨path, foldCase⟩ = some read ∧
      ∀ {constant}, SameKind value constant → SameKind read (constant.foldedIf foldCase) := by
  rw [operand?, held, Option.map_some]
  refine ⟨_, rfl, fun {constant} alike => ?_⟩
  cases alike with
  | bool a b => cases foldCase <;> exact .bool a b
  | instant a b => cases foldCase <;> exact .instant a b
  | text a b => cases foldCase <;> exact .text _ _
  | number left right =>
    have plain : constant.foldedIf foldCase = constant := by
      cases constant <;> cases foldCase <;> first | rfl | cases right
    rw [plain]
    cases value with
    | text => cases left
    | _ => exact .number left right

end Value

namespace Compile

open ListQuery.Filter (Operator TokenKind Values Derives OpenAtMost Plain textKinds maxDepth
  openAtMost_of_plain parse_of_derives)

/-! ### Texts of clauses on one property -/

/-- The tokens of a clause, its literals in any spelling. -/
def ClauseTokens (property : String) (foldCase : Bool) (clause : Operator × List (Option String))
    (s : List TokenKind) : Prop :=
  ∃ literals, Values literals clause.2 ∧
    s = .identifier property :: clauseKinds clause.1 foldCase literals

/-- A text of one clause or of several with bars between them. -/
def EitherText (property : String) (foldCase : Bool)
    (clauses : List (Operator × List (Option String))) (text : String) : Prop :=
  ∃ first rest, List.Forall₂ (ClauseTokens property foldCase) clauses (first :: rest) ∧
    textKinds text = first ++ rest.flatMap (.or :: ·)

/-- A text of one clause with an exclamation mark before it. -/
def OppositeText (property : String) (foldCase : Bool) (clause : Operator × List (Option String))
    (text : String) : Prop :=
  ∃ s, ClauseTokens property foldCase clause s ∧ textKinds text = .exclamation :: s

/-- The filter of a clause. -/
def clauseFilter (property : String) (foldCase : Bool)
    (clause : Operator × List (Option String)) : Filter :=
  .clause property clause.1 clause.2 false foldCase

/-- The filters of clauses joined to a first one, from the left. -/
def joinedFilter (property : String) (foldCase : Bool) (first : Filter)
    (more : List (Operator × List (Option String))) : Filter :=
  more.foldl (fun whole clause => .or whole (clauseFilter property foldCase clause) false) first

section Tokens

variable {property : String} {foldCase : Bool} {clause : Operator × List (Option String)}
  {s : List TokenKind}

theorem ClauseTokens.derives (tokens : ClauseTokens property foldCase clause s) :
    Derives .term s (clauseFilter property foldCase clause) := by
  obtain ⟨literals, values, rfl⟩ := tokens
  exact .property (.clause (clause_clauseKinds property clause.1 foldCase values))

theorem ClauseTokens.plain (tokens : ClauseTokens property foldCase clause s) :
    ∀ k ∈ s, Plain k := by
  obtain ⟨literals, values, rfl⟩ := tokens
  exact List.forall_mem_cons.mpr ⟨by simp [Plain],
    (clause_clauseKinds property clause.1 foldCase values).plain⟩

variable {clauses : List (Operator × List (Option String))} {parts : List (List TokenKind)}

theorem plain_of_clauses
    (tokens : List.Forall₂ (ClauseTokens property foldCase) clauses parts) :
    ∀ part ∈ parts, ∀ k ∈ part, Plain k := by
  induction tokens with
  | nil => exact nofun
  | cons one _ ih => exact List.forall_mem_cons.mpr ⟨one.plain, ih⟩

theorem derives_joinedFilter {first : Filter} (derives : Derives .disjunction s first)
    (tokens : List.Forall₂ (ClauseTokens property foldCase) clauses parts) :
    Derives .disjunction (s ++ parts.flatMap (.or :: ·))
      (joinedFilter property foldCase first clauses) := by
  induction tokens generalizing s first with
  | nil => simpa [joinedFilter] using derives
  | cons one _ ih =>
    have whole := ih (derives.or (.term one.derives))
    rw [List.append_assoc] at whole
    exact whole

/-- Each clause that is joined from the right is one more level. -/
theorem height_joinedFilter {first : Filter} (positive : 1 ≤ first.height) :
    (joinedFilter property foldCase first clauses).height = first.height + clauses.length := by
  induction clauses generalizing first with
  | nil => rfl
  | cons clause more ih =>
    have joined : (Filter.or first (clauseFilter property foldCase clause) false).height =
        first.height + 1 := by
      rw [Filter.height, clauseFilter, Filter.height, Nat.max_eq_left positive]
    have whole := ih (joined ▸ Nat.le_add_left 1 _)
    rw [joined] at whole
    rw [List.length_cons, Nat.add_comm more.length, ← Nat.add_assoc]
    exact whole

end Tokens

/-- What a filter comes to if its property is passed over. -/
def passedOver {M : Type} (config : Config M) (property : String) :
    Except QueryError (Option Predicate) :=
  if config.strict then .error (.unresolvedFilter property) else .ok none

section Texts

variable {M : Type} [Schema M] [DecidableEq M] {config : Config M} {model : M} {property : String}
  {foldCase : Bool} {clauses : List (Operator × List (Option String))} {text : String}

variable (config model) in
/-- A text of clauses comes to what their filters, joined, come to. -/
theorem compileFilter_either (written : EitherText property foldCase clauses text)
    (few : clauses.length ≤ maxDepth) :
    ∃ clause more, clauses = clause :: more ∧
      (compileFilter config model text).result =
        (filter config (.model model)
          (joinedFilter property foldCase (clauseFilter property foldCase clause) more)).result := by
  obtain ⟨first, rest, tokens, read⟩ := written
  cases tokens with
  | @cons clause _ more _ here later =>
    have derives := derives_joinedFilter (.conjunction (.term here.derives)) later
    have low : (joinedFilter property foldCase (clauseFilter property foldCase clause) more).height ≤
        maxDepth := by
      rw [height_joinedFilter (by simp [clauseFilter, Filter.height]), Nat.add_comm]
      exact few
    have plain : ∀ k ∈ first ++ rest.flatMap (.or :: ·), Plain k := by
      refine List.forall_mem_append.mpr ⟨here.plain, fun k among => ?_⟩
      obtain ⟨part, mem, inside⟩ := List.mem_flatMap.mp among
      rcases List.mem_cons.mp inside with rfl | inside
      · simp [Plain]
      · exact plain_of_clauses later part mem k inside
    exact ⟨clause, more, rfl,
      compileFilter_result (parse_of_derives read derives low (openAtMost_of_plain plain))⟩

/-- A text of a clause with an exclamation mark comes to what the negated clause comes to. -/
theorem compileFilter_opposite {clause : Operator × List (Option String)}
    (written : OppositeText property foldCase clause text) :
    (compileFilter config model text).result =
      (filter config (.model model)
        (.clause property clause.1 clause.2 true foldCase)).result := by
  obtain ⟨s, tokens, read⟩ := written
  have derives : Derives .disjunction (.exclamation :: s) _ :=
    .conjunction (.term (.not tokens.derives))
  have low : ((clauseFilter property foldCase clause).toggled true).height ≤ maxDepth := by
    simp [clauseFilter, Filter.height_toggled, Filter.height, maxDepth]
  have plain : ∀ k ∈ TokenKind.exclamation :: s, Plain k :=
    List.forall_mem_cons.mpr ⟨by simp [Plain], tokens.plain⟩
  exact compileFilter_result (parse_of_derives read derives low (openAtMost_of_plain plain))

/-- What clauses accept that are joined: what one of them does. -/
theorem filter_joinedFilter {first : Filter} {p : Predicate}
    (compiled : (filter config (.model model) first).result = .ok (some p))
    {tests : List Predicate}
    (each : List.Forall₂ (fun clause test =>
      (filter config (.model model) (clauseFilter property foldCase clause)).result =
        .ok (some test)) clauses tests) :
    ∃ whole, (filter config (.model model) (joinedFilter property foldCase first clauses)).result =
        .ok (some whole) ∧
      ∀ subject, whole.holds subject = (p.holds subject || tests.any (·.holds subject)) := by
  induction each generalizing first p with
  | nil => exact ⟨p, compiled, fun subject => (Bool.or_false _).symm⟩
  | @cons clause test more tests here _ ih =>
    have both : (filter config (.model model)
        (.or first (clauseFilter property foldCase clause) false)).result =
          .ok (some (.or p test)) :=
      filter_or_eq_ok.mpr ⟨_, _, compiled, here, rfl⟩
    obtain ⟨whole, same, accepts⟩ := ih both
    refine ⟨whole, same, fun subject => ?_⟩
    rw [accepts, Predicate.holds, List.any_cons, Bool.or_assoc]

/-- A text of clauses that each come to a test comes to a condition that is met by what one of the
tests accepts. -/
theorem exists_either (written : EitherText property foldCase clauses text)
    (few : clauses.length ≤ maxDepth) {tests : List Predicate}
    (each : List.Forall₂ (fun clause test =>
      (filter config (.model model) (clauseFilter property foldCase clause)).result =
        .ok (some test)) clauses tests) :
    ∃ whole, (compileFilter config model text).result = .ok (some whole) ∧
      ∀ subject, whole.holds subject = tests.any (·.holds subject) := by
  obtain ⟨clause, more, rfl, same⟩ := compileFilter_either config model written few
  cases each with
  | cons here later =>
    obtain ⟨whole, compiled, accepts⟩ := filter_joinedFilter here later
    refine ⟨whole, same.trans compiled, fun subject => ?_⟩
    rw [accepts, List.any_cons]

section Ignored

variable {resolved : Resolved M} (found : resolve config model property = some resolved)
  (ignored : resolved.filterIgnored = true)

include found ignored

/-- What is joined from clauses that are passed over is passed over. -/
theorem filter_joinedFilter_ignored {first : Filter}
    (passed : (filter config (.model model) first).result = passedOver config property) :
    (filter config (.model model) (joinedFilter property foldCase first clauses)).result =
      passedOver config property := by
  induction clauses generalizing first with
  | nil => exact passed
  | cons clause more ih =>
    have here : (filter config (.model model) (clauseFilter property foldCase clause)).result =
        passedOver config property := filter_ignoredClause found ignored foldCase
    refine ih ?_
    rw [filter, Traced.result_bind, passed]
    cases strict : config.strict with
    | true =>
      rw [passedOver, strict]
      rfl
    | false =>
      rw [passedOver, strict] at here ⊢
      change (filter config (.model model) _ >>= _).result = _
      rw [Traced.result_bind, here]
      rfl

/-- A text of clauses that are all passed over is passed over. -/
theorem compileFilter_either_ignored (written : EitherText property foldCase clauses text)
    (few : clauses.length ≤ maxDepth) :
    (compileFilter config model text).result = passedOver config property := by
  obtain ⟨clause, more, rfl, same⟩ := compileFilter_either config model written few
  rw [same]
  exact filter_joinedFilter_ignored found ignored (filter_ignoredClause found ignored foldCase)

theorem compileFilter_opposite_ignored {clause : Operator × List (Option String)}
    (written : OppositeText property foldCase clause text) :
    (compileFilter config model text).result = passedOver config property :=
  (compileFilter_opposite written).trans (filter_ignoredClause found ignored foldCase)

end Ignored

end Texts

/-! ### Tests of a scalar field -/

section Tests

variable {M : Type} [Schema M] [DecidableEq M] {config : Config M} {model : M} {property : String}
  {resolved : Resolved M}

/-- The comparison of the value at a path with a constant, both in lower case if asked for. -/
def comparisonTest (path : FieldPath) (foldCase : Bool) (constant : Scalar)
    (comparison : Comparison) : Predicate :=
  .compare ⟨path, foldCase⟩ comparison (constant.foldedIf foldCase)

variable (property) in
omit [DecidableEq M] in
theorem constant_of_scalar {raw : Option String} {type : FieldType M} {made : Scalar}
    (read : Literal.scalar raw type = .ok made) (foldCase : Bool) :
    constant property type none foldCase raw = .ok (made.foldedIf foldCase) := by
  cases raw <;> simp [constant, read, Scalar.foldedIf]

omit [DecidableEq M] in
theorem constants_of_scalars {raw : List (Option String)} {type : FieldType M} {made : List Scalar}
    (read : List.Forall₂ (fun literal constant => Literal.scalar literal type = .ok constant)
      raw made) (foldCase : Bool) :
    constants property type none foldCase raw = .ok (made.map (·.foldedIf foldCase)) := by
  induction read with
  | nil => rfl
  | cons here _ ih =>
    rw [constants, constant_of_scalar property here, ih]
    rfl

variable (found : resolve config model property = some resolved)
  (kept : resolved.filterIgnored = false) (scalar : resolved.type.isSortable = true)
  (typed : resolved.convert = none) (unhooked : resolved.customFilter = none) (foldCase : Bool)

include found kept scalar typed unhooked

theorem filter_comparison {operator : Operator} {comparison : Comparison}
    (asks : role operator = .comparison comparison) {raw : Option String} {made : Scalar}
    (read : Literal.scalar raw resolved.type = .ok made) (negated : Bool) :
    (filter config (.model model) (.clause property operator [raw] negated foldCase)).result =
      .ok (some ((comparisonTest resolved.path (foldCase && resolved.type.isText) made
        comparison).negatedIf negated)) := by
  refine filter_scalarClause found kept scalar typed unhooked ?_
  have made := congrArg (Except.map (Predicate.compare
    ⟨resolved.path, foldCase && resolved.type.isText⟩ comparison))
    (constant_of_scalar property read (foldCase && resolved.type.isText))
  cases operator <;> cases asks <;> exact made

theorem filter_membership {raw : List (Option String)} {made : List Scalar}
    (read : List.Forall₂ (fun literal constant =>
      Literal.scalar literal resolved.type = .ok constant) raw made) :
    (filter config (.model model) (.clause property .oneOf raw false foldCase)).result =
      .ok (some (.oneOf ⟨resolved.path, foldCase && resolved.type.isText⟩
        (made.map (·.foldedIf (foldCase && resolved.type.isText))))) := by
  refine filter_scalarClause found kept scalar typed unhooked ?_
  exact congrArg (Except.map (Predicate.oneOf ⟨resolved.path, foldCase && resolved.type.isText⟩))
    (constants_of_scalars read (foldCase && resolved.type.isText))

end Tests

/-! ### Laws -/

section Laws

variable {M : Type} [Schema M] [DecidableEq M]

/-- Both texts come to conditions, and of the records that hold a value at the path both accept the
same. -/
def AcceptAlike (config : Config M) (model : M) (path : FieldPath) (text other : String) : Prop :=
  ∃ p q, (compileFilter config model text).result = .ok (some p) ∧
    (compileFilter config model other).result = .ok (some q) ∧
    ∀ record value, record.lookup? path = some value → p.holds record = q.holds record

/-- How the operators on a property say one another. The orders are asked for with literals other
than null: null has no place before or behind a value. -/
structure OperatorAlgebra (config : Config M) (model : M) (property : String)
    (resolved : Resolved M) (foldCase : Bool) : Prop where
  notEqual : ∀ {raw made text opposite}, Literal.scalar raw resolved.type = .ok made →
    EitherText property foldCase [(.notEqual, [raw])] text →
    OppositeText property foldCase (.equal, [raw]) opposite →
    AcceptAlike config model resolved.path text opposite
  oneOf : ∀ {raw made text either},
    List.Forall₂ (fun literal constant => Literal.scalar literal resolved.type = .ok constant)
      raw made →
    raw.length ≤ maxDepth →
    EitherText property foldCase [(.oneOf, raw)] text →
    EitherText property foldCase (raw.map fun literal => (.equal, [literal])) either →
    AcceptAlike config model resolved.path text either
  greaterOrEqual : ∀ {literal made text either},
    Literal.scalar (some literal) resolved.type = .ok made →
    EitherText property foldCase [(.greaterOrEqual, [some literal])] text →
    EitherText property foldCase [(.greater, [some literal]), (.equal, [some literal])] either →
    AcceptAlike config model resolved.path text either
  lessOrEqual : ∀ {literal made text either},
    Literal.scalar (some literal) resolved.type = .ok made →
    EitherText property foldCase [(.lessOrEqual, [some literal])] text →
    EitherText property foldCase [(.less, [some literal]), (.equal, [some literal])] either →
    AcceptAlike config model resolved.path text either
  onePlace : ∀ {literal made before beside behind},
    Literal.scalar (some literal) resolved.type = .ok made →
    EitherText property foldCase [(.less, [some literal])] before →
    EitherText property foldCase [(.equal, [some literal])] beside →
    EitherText property foldCase [(.greater, [some literal])] behind →
    ∃ p q r, (compileFilter config model before).result = .ok (some p) ∧
      (compileFilter config model beside).result = .ok (some q) ∧
      (compileFilter config model behind).result = .ok (some r) ∧
      ∀ record value, record.lookup? resolved.path = some value →
        [p, q, r].countP (·.holds record) ≤ 1 ∧
        (value.SameKind made → [p, q, r].countP (·.holds record) = 1)

theorem comparisonTest_holds {record read : Value} {path : FieldPath} {foldCase : Bool}
    (same : record.operand? ⟨path, foldCase⟩ = some read) (constant : Scalar)
    (comparison : Comparison) :
    (comparisonTest path foldCase constant comparison).holds record =
      comparison.holds read (constant.foldedIf foldCase) := by
  rw [comparisonTest, Predicate.holds, same]

variable {config : Config M} {model : M} {property : String} {resolved : Resolved M}
  (found : resolve config model property = some resolved)
  (kept : resolved.filterIgnored = false) (scalar : resolved.type.isSortable = true)
  (typed : resolved.convert = none) (unhooked : resolved.customFilter = none) {foldCase : Bool}
  {raw : Option String} {literal : String} {made : Scalar} {text other : String}

include found kept scalar typed unhooked

theorem clauseFilter_comparison {operator : Operator} {comparison : Comparison}
    (asks : role operator = .comparison comparison)
    (read : Literal.scalar raw resolved.type = .ok made) :
    (filter config (.model model) (clauseFilter property foldCase (operator, [raw]))).result =
      .ok (some (comparisonTest resolved.path (foldCase && resolved.type.isText) made
        comparison)) :=
  filter_comparison found kept scalar typed unhooked foldCase asks read false

/-- A text of one comparison accepts what the comparison holds of. -/
theorem exists_comparison {operator : Operator} {comparison : Comparison}
    (asks : role operator = .comparison comparison)
    (read : Literal.scalar raw resolved.type = .ok made)
    (written : EitherText property foldCase [(operator, [raw])] text) :
    ∃ p, (compileFilter config model text).result = .ok (some p) ∧
      ∀ subject, p.holds subject = (comparisonTest resolved.path
        (foldCase && resolved.type.isText) made comparison).holds subject := by
  obtain ⟨p, compiled, accepts⟩ := exists_either written (by simp [maxDepth])
    (.cons (clauseFilter_comparison found kept scalar typed unhooked asks read) .nil)
  exact ⟨p, compiled, fun subject => (accepts subject).trans (Bool.or_false _)⟩

theorem notEqual_alike (read : Literal.scalar raw resolved.type = .ok made)
    (written : EitherText property foldCase [(.notEqual, [raw])] text)
    (negated : OppositeText property foldCase (.equal, [raw]) other) :
    AcceptAlike config model resolved.path text other := by
  obtain ⟨p, compiled, accepts⟩ :=
    exists_comparison found kept scalar typed unhooked rfl read written
  have opposite := filter_comparison found kept scalar typed unhooked foldCase
    (show role .equal = .comparison .eq from rfl) read true
  refine ⟨p, _, compiled, (compileFilter_opposite negated).trans opposite, ?_⟩
  intro record value held
  obtain ⟨w, same, -⟩ := Value.exists_operand? held (foldCase && resolved.type.isText)
  rw [accepts, comparisonTest_holds same, Predicate.negatedIf, if_pos rfl, Predicate.holds,
    comparisonTest_holds same]
  rfl

theorem oneOf_alike {raw : List (Option String)} {made : List Scalar}
    (read : List.Forall₂ (fun literal constant => Literal.scalar literal resolved.type = .ok constant)
      raw made) (few : raw.length ≤ maxDepth)
    (written : EitherText property foldCase [(.oneOf, raw)] text)
    (joined : EitherText property foldCase (raw.map fun literal => (.equal, [literal])) other) :
    AcceptAlike config model resolved.path text other := by
  have membership := filter_membership found kept scalar typed unhooked foldCase read
  obtain ⟨p, compiled, accepts⟩ := exists_either written (by simp [maxDepth])
    (.cons membership .nil)
  have each : List.Forall₂ (fun clause test =>
      (filter config (.model model) (clauseFilter property foldCase clause)).result =
        .ok (some test)) (raw.map fun literal => (.equal, [literal]))
      (made.map fun constant => comparisonTest resolved.path
        (foldCase && resolved.type.isText) constant .eq) := by
    rw [List.forall₂_map_left_iff, List.forall₂_map_right_iff]
    exact read.imp fun _ _ here =>
      clauseFilter_comparison found kept scalar typed unhooked rfl here
  obtain ⟨q, compiledOther, acceptsOther⟩ := exists_either joined (by simpa using few) each
  refine ⟨p, q, compiled, compiledOther, fun record value held => ?_⟩
  obtain ⟨w, same, -⟩ := Value.exists_operand? held (foldCase && resolved.type.isText)
  rw [accepts, acceptsOther, List.any_map]
  simp only [List.any_cons, List.any_nil, Bool.or_false, Predicate.holds, same, List.any_map]
  exact congrArg made.any (funext fun constant => (comparisonTest_holds same constant .eq).symm)

/-- A comparison that is two others joined by a bar. -/
theorem either_alike {operator first second : Operator} {comparison one two : Comparison}
    (asks : role operator = .comparison comparison) (asksFirst : role first = .comparison one)
    (asksSecond : role second = .comparison two)
    (splits : ∀ value constant, constant ≠ .null →
      comparison.holds value constant = (one.holds value constant || two.holds value constant))
    (read : Literal.scalar (some literal) resolved.type = .ok made)
    (written : EitherText property foldCase [(operator, [some literal])] text)
    (joined : EitherText property foldCase [(first, [some literal]), (second, [some literal])]
      other) :
    AcceptAlike config model resolved.path text other := by
  have comes {operator : Operator} {comparison : Comparison}
      (asks : role operator = .comparison comparison) :
      (filter config (.model model)
        (clauseFilter property foldCase (operator, [some literal]))).result = _ :=
    clauseFilter_comparison found kept scalar typed unhooked asks read
  obtain ⟨p, compiled, accepts⟩ :=
    exists_comparison found kept scalar typed unhooked asks read written
  obtain ⟨q, compiledOther, acceptsOther⟩ := exists_either joined (by simp [maxDepth])
    (.cons (comes asksFirst) (.cons (comes asksSecond) .nil))
  refine ⟨p, q, compiled, compiledOther, fun record value held => ?_⟩
  obtain ⟨w, same, -⟩ := Value.exists_operand? held (foldCase && resolved.type.isText)
  have present := Scalar.foldedIf_ne_null (Literal.ne_null_of_scalar read)
    (foldCase && resolved.type.isText)
  rw [accepts, acceptsOther, List.any_cons, List.any_cons, List.any_nil, Bool.or_false,
    comparisonTest_holds same, comparisonTest_holds same, comparisonTest_holds same,
    splits _ _ present]

theorem one_place {beside behind : String}
    (read : Literal.scalar (some literal) resolved.type = .ok made)
    (less : EitherText property foldCase [(.less, [some literal])] text)
    (equal : EitherText property foldCase [(.equal, [some literal])] beside)
    (greater : EitherText property foldCase [(.greater, [some literal])] behind) :
    ∃ p q r, (compileFilter config model text).result = .ok (some p) ∧
      (compileFilter config model beside).result = .ok (some q) ∧
      (compileFilter config model behind).result = .ok (some r) ∧
      ∀ record value, record.lookup? resolved.path = some value →
        [p, q, r].countP (·.holds record) ≤ 1 ∧
        (value.SameKind made → [p, q, r].countP (·.holds record) = 1) := by
  obtain ⟨p, compiled, before⟩ :=
    exists_comparison found kept scalar typed unhooked rfl read less
  obtain ⟨q, compiledEqual, beside⟩ :=
    exists_comparison found kept scalar typed unhooked rfl read equal
  obtain ⟨r, compiledGreater, behind⟩ :=
    exists_comparison found kept scalar typed unhooked rfl read greater
  refine ⟨p, q, r, compiled, compiledEqual, compiledGreater, fun record value held => ?_⟩
  obtain ⟨w, same, kinds⟩ := Value.exists_operand? held (foldCase && resolved.type.isText)
  have present := Scalar.foldedIf_ne_null (Literal.ne_null_of_scalar read)
    (foldCase && resolved.type.isText)
  have counted := Comparison.countP_holds present w
  simp only [List.countP_cons, List.countP_nil, before, beside, behind,
    comparisonTest_holds same] at counted ⊢
  rw [counted]
  refine ⟨by split <;> omega, fun alike => if_pos ?_⟩
  exact Option.isSome_iff_exists.mpr (Value.exists_compareTo?_iff.mpr (kinds alike))

theorem operatorAlgebra_of_scalar :
    OperatorAlgebra config model property resolved foldCase where
  notEqual := notEqual_alike found kept scalar typed unhooked
  oneOf := oneOf_alike found kept scalar typed unhooked
  greaterOrEqual := either_alike found kept scalar typed unhooked rfl rfl rfl
    fun value _ present => Comparison.ge_holds present value
  lessOrEqual := either_alike found kept scalar typed unhooked rfl rfl rfl
    fun value _ present => Comparison.le_holds present value
  onePlace := one_place found kept scalar typed unhooked

end Laws

/-- The operators on a property of a scalar type, without a converter or a hook, obey their algebra:
not equal is the opposite of equal, a list is its equalities, the orders that include equality are
those that do not or equality, and at most one of less, equal and greater is so, exactly one of
values and constants of one kind. Where filters pass over the property, they pass over every one of
these texts alike. -/
theorem operators_obey_their_algebra {M : Type} [Schema M] [DecidableEq M] (config : Config M)
    (model : M) (property : String) (resolved : Resolved M)
    (found : resolve config model property = some resolved)
    (scalar : resolved.type.isSortable = true) (typed : resolved.convert = none)
    (unhooked : resolved.customFilter = none) (foldCase : Bool) :
    (resolved.filterIgnored = false →
      OperatorAlgebra config model property resolved foldCase) ∧
    (resolved.filterIgnored = true →
      (∀ clauses text, EitherText property foldCase clauses text → clauses.length ≤ maxDepth →
        (compileFilter config model text).result = passedOver config property) ∧
      ∀ clause text, OppositeText property foldCase clause text →
        (compileFilter config model text).result = passedOver config property) :=
  ⟨fun kept => operatorAlgebra_of_scalar found kept scalar typed unhooked,
    fun ignored => ⟨fun _ _ written few => compileFilter_either_ignored found ignored written few,
      fun _ _ written => compileFilter_opposite_ignored found ignored written⟩⟩

/-- A user's score in a list with null, and as one equality or the other. -/
theorem score_in_list_is_equalities :
    (∃ resolved, resolve {} Sample.Model.user "score" = some resolved ∧
      resolved.type.isSortable = true ∧ resolved.convert = none ∧
      resolved.customFilter = none ∧ resolved.filterIgnored = false) ∧
    AcceptAlike {} Sample.Model.user ["score"] "score|=3,null" "score==3|score==null" := by
  have found : resolve {} Sample.Model.user "score" =
      some ⟨["score"], .float, none, false, false, none, none⟩ := rfl
  have algebra :=
    (operators_obey_their_algebra {} Sample.Model.user "score" _ found rfl rfl rfl false).1 rfl
  have three : Values [.number "3"] [some "3"] := .last (.number "3")
  have word : Filter.Literal (.identifier "null") none := .wordNull rfl
  have listed : textKinds "score|=3,null" = .identifier "score" ::
      clauseKinds .oneOf false [.number "3", .comma, .identifier "null"] ++ [] := by
    decide +kernel
  have joined : textKinds "score==3|score==null" =
      (.identifier "score" :: clauseKinds .equal false [.number "3"]) ++
        [.identifier "score" :: clauseKinds .equal false [.identifier "null"]].flatMap
          (.or :: ·) := by
    decide +kernel
  refine ⟨⟨_, found, rfl, rfl, rfl, rfl⟩, algebra.oneOf (.cons rfl (.cons rfl .nil)) (by decide)
    ⟨_, [], .cons ⟨_, .more (.number "3") (.last word), rfl⟩ .nil, listed⟩
    ⟨_, _, .cons ⟨_, three, rfl⟩ (.cons ⟨_, .last word, rfl⟩ .nil), joined⟩⟩

end Compile

end ListQuery
