import ListQuery.Proofs.Compile.ClauseTexts
import ListQuery.Proofs.Compile.Reading
import ListQuery.Sample.Hooks
import ListQuery.Sample.Models

/-! The two forms of a clause on a list. Without an asterisk behind the property some element has to
meet the clause, with one every element has to. The first form compiles the clause at the type of
the elements, the second in their scope, and the routes differ: the scope of the elements knows no
converter, opens the elements again when they are lists, and finds no field without a name when they
are records. -/

namespace ListQuery

namespace Compile

open ListQuery.Filter (Operator Quantifier)

/-- Two conditions on a list that make one test of its elements: neither can be made, or the first
wants it of some element and the second of every element. -/
def SameElementTest (one every : Except QueryError (Option Predicate)) : Prop :=
  ((∃ error, one = .error error) ∧ ∃ error, every = .error error) ∨
    ∃ path test, one = .ok (some (.any path test)) ∧ every = .ok (some (.all path test))

/-- Two routes to a test of the elements agree when both fail or both come to it. -/
theorem sameElementTest_iff (path : FieldPath) (direct : Except QueryError Predicate)
    (nested : Except QueryError (Option Predicate)) :
    SameElementTest (direct.map fun test => some (.any path test))
        (nested.map (Option.map (.all path))) ↔
      direct.toOption.map some = nested.toOption := by
  rcases direct with error | test <;> rcases nested with error' | _ | test' <;>
    simp [SameElementTest, Except.map, Except.toOption, eq_comm]

/-! ### The test of one value -/

section Test

variable {M : Type} [Schema M] {type : FieldType M} {convert : Option Converter}
  {caseInsensitive foldCase : Bool} {operator : Operator} {raw : List (Option String)}

/-- The constant of a literal, if it has one. The property plays a part in errors alone. -/
def constant? (type : FieldType M) (convert : Option Converter) (foldCase : Bool)
    (literal : Option String) : Option Scalar :=
  (constant "" type convert foldCase literal).toOption

/-- The constants of literals, if each has one. -/
def constants? (type : FieldType M) (convert : Option Converter) (foldCase : Bool)
    (raw : List (Option String)) : Option (List Scalar) :=
  (constants "" type convert foldCase raw).toOption

/-- The test that a clause makes of a single value, if it makes one. -/
def test? (type : FieldType M) (convert : Option Converter) (caseInsensitive : Bool)
    (operator : Operator) (raw : List (Option String)) : Option Predicate :=
  (scalarClause "" [] type convert caseInsensitive operator raw).toOption

theorem toOption_constant (property : String) (literal : Option String) :
    (constant property type convert foldCase literal).toOption =
      constant? type convert foldCase literal := by
  simp only [constant?, constant]
  split <;> rfl

theorem constants?_cons (literal : Option String) :
    constants? type convert foldCase (literal :: raw) =
      (constant? type convert foldCase literal).bind fun scalar =>
        (constants? type convert foldCase raw).map (scalar :: ·) := by
  rw [constants?, constants, constant?, constants?]
  cases constant "" type convert foldCase literal with
  | error error => rfl
  | ok scalar => cases constants "" type convert foldCase raw <;> rfl

theorem toOption_constants (property : String) :
    (constants property type convert foldCase raw).toOption =
      constants? type convert foldCase raw := by
  induction raw with
  | nil => rfl
  | cons literal rest ih =>
    rw [constants?_cons, ← ih, ← toOption_constant property, constants]
    cases constant property type convert foldCase literal with
    | error error => rfl
    | ok scalar => cases constants property type convert foldCase rest <;> rfl

/-- The operator applies to the type, and has as many literals as it needs. -/
def Applies (type : FieldType M) (operator : Operator) (raw : List (Option String)) : Prop :=
  (operator.isText = true → type.isText = true) ∧ (operator = .oneOf ∨ raw.length = 1)

/-- What an operator asks of a value, given its constants. -/
def asked? (operand : Operand) : Role → List Scalar → Option Predicate
  | .membership, constants => some (.oneOf operand constants)
  | .comparison comparison, [constant] => some (.compare operand comparison constant)
  | .pattern position, [.text pattern] => some (.text operand position pattern)
  | _, _ => none

theorem constants?_singleton (literal : Option String) :
    constants? type convert foldCase [literal] =
      (constant? type convert foldCase literal).map ([·]) := by
  rw [constants?_cons]
  cases constant? type convert foldCase literal <;> rfl

/-- An operator on one constant makes nothing of fewer or more. -/
theorem bind_asked?_of_count {operand : Operand} (single : operator ≠ .oneOf)
    (count : raw.length ≠ 1) :
    (constants? type convert foldCase raw).bind (asked? operand (role operator)) = none := by
  have unasked (constants : List Scalar) (length : constants.length ≠ 1) :
      asked? operand (role operator) constants = none := by
    rcases constants with _ | ⟨first, _ | ⟨second, rest⟩⟩
    · cases operator with
      | oneOf => exact absurd rfl single
      | _ => rfl
    · exact absurd rfl length
    · cases operator with
      | oneOf => exact absurd rfl single
      | contains | startsWith | endsWith => cases first <;> rfl
      | _ => rfl
  cases read : constants "" type convert foldCase raw with
  | error error => rw [constants?, read]; rfl
  | ok constants =>
    have length := (forall₂_of_constants read).length_eq
    rw [constants?, read]
    exact unasked constants (length ▸ count)

/-- What a clause makes of a value, errors apart: its constants are read, and the operator asks for
them. -/
theorem toOption_scalarClause (property : String) (path : FieldPath) :
    (scalarClause property path type convert caseInsensitive operator raw).toOption =
      if operator.isText && !type.isText then none
      else (constants? type convert (caseInsensitive && type.isText) raw).bind
        (asked? ⟨path, caseInsensitive && type.isText⟩ (role operator)) := by
  simp only [scalarClause]
  split
  · rfl
  · split
    · rename_i listed _ _ member
      rw [member, ← toOption_constants property]
      cases constants property type convert (caseInsensitive && type.isText) listed <;> rfl
    · rename_i literal comparison
      rw [comparison, constants?_singleton, ← toOption_constant property]
      cases constant property type convert (caseInsensitive && type.isText) literal <;> rfl
    · rename_i position literal pattern
      rw [pattern, constants?_singleton, ← toOption_constant property]
      rcases constant property type convert (caseInsensitive && type.isText) literal with
        error | scalar
      · rfl
      · cases scalar <;> rfl
    · rename_i member comparison pattern
      rw [bind_asked?_of_count]
      · rfl
      · rintro rfl
        exact member rfl
      · intro count
        obtain ⟨literal, rfl⟩ := List.length_eq_one_iff.mp count
        cases operator with
        | oneOf => exact member rfl
        | contains | startsWith | endsWith => exact pattern _ _ rfl rfl
        | _ => exact comparison _ _ rfl rfl

theorem test?_of_applies (applies : Applies type operator raw) :
    test? type convert caseInsensitive operator raw =
      (constants? type convert (caseInsensitive && type.isText) raw).bind
        (asked? ⟨[], caseInsensitive && type.isText⟩ (role operator)) := by
  rw [test?, toOption_scalarClause, if_neg]
  simpa using applies.1

theorem test?_of_not_applies (not : ¬ Applies type operator raw) :
    test? type convert caseInsensitive operator raw = none := by
  rw [test?, toOption_scalarClause]
  split
  · rfl
  · rename_i kind
    have kind : operator.isText = true → type.isText = true := by simpa using kind
    obtain ⟨single, count⟩ := not_or.mp (not_and.mp not kind)
    exact bind_asked?_of_count single count

/-- No converter is asked for null. -/
theorem constant?_null : constant? type convert foldCase none = constant? type none foldCase none :=
  rfl

/-- What is asked of one constant tells which it is, if patterns are texts. -/
theorem eq_of_asked? {operand : Operand} {left right : Option Scalar}
    (single : operator ≠ .oneOf)
    (pattern : operator.isText = true → ∃ text, right = some (.text text))
    (same : (left.map ([·])).bind (asked? operand (role operator)) =
      (right.map ([·])).bind (asked? operand (role operator))) : left = right := by
  cases operator with
  | oneOf => exact absurd rfl single
  | contains | startsWith | endsWith =>
    obtain ⟨text, rfl⟩ := pattern rfl
    rcases left with _ | (_ | _ | _ | _ | _ | _) <;> cases same
    rfl
  | _ =>
    rcases left with _ | left <;> rcases right with _ | right <;> cases same <;> rfl

/-- A converter changes the test of a value exactly when it changes what the literals stand for. -/
theorem test?_eq_iff :
    test? type convert caseInsensitive operator raw = test? type none caseInsensitive operator raw ↔
      (Applies type operator raw →
        constants? type convert (caseInsensitive && type.isText) raw =
          constants? type none (caseInsensitive && type.isText) raw) := by
  by_cases applies : Applies type operator raw
  · rw [test?_of_applies applies, test?_of_applies applies]
    refine ⟨fun same _ => ?_, fun same => by rw [same applies]⟩
    by_cases member : operator = .oneOf
    · subst member
      generalize constants? type convert (caseInsensitive && type.isText) raw = left at same ⊢
      generalize constants? type none (caseInsensitive && type.isText) raw = right at same ⊢
      cases left <;> cases right <;> cases same <;> rfl
    · obtain ⟨literal, rfl⟩ := List.length_eq_one_iff.mp (applies.2.resolve_left member)
      rw [constants?_singleton, constants?_singleton] at same ⊢
      cases literal with
      | none => rw [constant?_null]
      | some text =>
        have pattern (isText : operator.isText = true) :
            ∃ text', constant? type none (caseInsensitive && type.isText) (some text) =
              some (.text text') := by
          rw [eq_text_of_isText (applies.1 isText)]
          cases caseInsensitive <;> exact ⟨_, rfl⟩
        rw [eq_of_asked? member pattern same]
  · rw [test?_of_not_applies applies, test?_of_not_applies applies]
    exact iff_of_true rfl (absurd · applies)

end Test

/-! ### The two routes -/

section Routes

variable {M : Type} [Schema M] [DecidableEq M] {config : Config M} {model : M} {property : String}
  {target : Target M} {element : FieldType M}

/-- When the two forms make one test of the elements. Of single values they do unless a converter
reads the literals otherwise than the type of the elements does; of lists they never do, so both
have to fail; and of records the first always fails, and the second only in a strict configuration.
-/
def FormsAgree (config : Config M) (convert : Option Converter) (caseInsensitive : Bool)
    (operator : Operator) (raw : List (Option String)) : FieldType M → Prop
  | .record _ => config.strict = true
  | .list inner =>
    test? (.list inner) convert caseInsensitive operator raw = none ∧
      ((∃ model, inner = .record model) ∨ test? inner none caseInsensitive operator raw = none)
  | type =>
    Applies type operator raw →
      constants? type convert (caseInsensitive && type.isText) raw =
        constants? type none (caseInsensitive && type.isText) raw

variable (operator : Operator) (raw : List (Option String)) (caseInsensitive : Bool)

omit [DecidableEq M] in
theorem toOption_elementClause (property : String) (convert : Option Converter) :
    (scalarClause property [] element convert caseInsensitive operator raw).toOption =
      test? element convert caseInsensitive operator raw := by
  rw [test?, toOption_scalarClause, toOption_scalarClause]

omit [DecidableEq M] in
theorem fieldClause_of_list (listed : target.type = .list element)
    (unrecorded : ∀ model, element ≠ .record model) :
    fieldClause property target caseInsensitive operator raw =
      (scalarClause property [] element target.convert caseInsensitive operator raw).map
        (.any target.path) := by
  rw [fieldClause, listed]
  cases element with
  | record model => exact absurd rfl (unrecorded model)
  | _ => rfl

omit [DecidableEq M] in
/-- A clause asks of single values, and quantifies over nothing. -/
theorem test?_ne_any (type : FieldType M) (convert : Option Converter) (path : FieldPath)
    (test : Predicate) :
    test? type convert caseInsensitive operator raw ≠ some (.any path test) := by
  intro same
  cases made : scalarClause "" [] type convert caseInsensitive operator raw with
  | error error =>
    rw [test?, made] at same
    cases same
  | ok p =>
    rw [test?, made] at same
    cases same
    cases asks_of_scalarClause made

/-- The clause in the scope of an element. -/
theorem filter_element (element : FieldType M) :
    (filter config (.element element) (.clause "" operator raw false caseInsensitive)).result =
      (fieldClause "" { path := [], type := element } caseInsensitive operator raw).map some := by
  have found : visible? config (.element element) "" =
      some { path := [], type := element } := rfl
  rw [filter, clause_of_visible found]
  rfl

/-- A record has no field without a name. -/
theorem filter_record (model : M) :
    (filter config (.model model) (.clause "" operator raw false caseInsensitive)).result =
      if config.strict then .error (.unresolvedFilter "") else .ok none := by
  have hidden : visible? config (.model model) "" = none := rfl
  obtain ⟨reason, same⟩ := clause_of_hidden hidden operator raw false caseInsensitive
  rw [filter, same, result_dropped]

theorem filter_listClause (found : visible? config (.model model) property = some target)
    (unhooked : target.customFilter = none) :
    (filter config (.model model)
        (.clause property operator raw false caseInsensitive)).result =
      (fieldClause property target caseInsensitive operator raw).map some := by
  rw [filter, clause_of_visible found, condition, unhooked]
  rfl

theorem filter_everyElement (found : visible? config (.model model) property = some target)
    (listed : target.type = .list element) :
    (filter config (.model model) (.collection property
        (.clause "" operator raw false caseInsensitive) .all false)).result =
      (filter config (elementScope element)
        (.clause "" operator raw false caseInsensitive)).result.map
        (Option.map (.all target.path)) := by
  rw [collection_of_visible found, listed]
  simp only [FieldType.element?, Traced.result_bind]
  rcases (filter config (elementScope element)
    (.clause "" operator raw false caseInsensitive)).result with error | _ | test <;> rfl

/-- A test at the type of the elements, against the test in their scope. -/
theorem sameElementTest_direct_iff (found : visible? config (.model model) property = some target)
    (listed : target.type = .list element) (unhooked : target.customFilter = none)
    (unrecorded : ∀ model, element ≠ .record model) :
    SameElementTest
        (filter config (.model model) (.clause property operator raw false caseInsensitive)).result
        (filter config (.model model) (.collection property
          (.clause "" operator raw false caseInsensitive) .all false)).result ↔
      (test? element target.convert caseInsensitive operator raw).map some =
        (filter config (elementScope element)
          (.clause "" operator raw false caseInsensitive)).result.toOption := by
  rw [filter_listClause operator raw caseInsensitive found unhooked,
    filter_everyElement operator raw caseInsensitive found listed,
    fieldClause_of_list operator raw caseInsensitive listed unrecorded,
    ← toOption_elementClause operator raw caseInsensitive property target.convert,
    ← sameElementTest_iff target.path]
  cases scalarClause property [] element target.convert caseInsensitive operator raw <;> rfl

theorem sameElementTest_records_iff {owner : M}
    (found : visible? config (.model model) property = some target)
    (listed : target.type = .list (.record owner)) (unhooked : target.customFilter = none) :
    SameElementTest
        (filter config (.model model) (.clause property operator raw false caseInsensitive)).result
        (filter config (.model model) (.collection property
          (.clause "" operator raw false caseInsensitive) .all false)).result ↔
      config.strict = true := by
  have refused : fieldClause property target caseInsensitive operator raw =
      .error (.unsupportedOperator property operator (.notComparable target.type.name)) := by
    rw [fieldClause, listed]
  rw [filter_listClause operator raw caseInsensitive found unhooked,
    filter_everyElement operator raw caseInsensitive found listed, elementScope, filter_record,
    refused]
  cases config.strict <;> simp [SameElementTest, Except.map]

theorem sameElementTest_lists_iff {inner : FieldType M}
    (found : visible? config (.model model) property = some target)
    (listed : target.type = .list (.list inner)) (unhooked : target.customFilter = none) :
    SameElementTest
        (filter config (.model model) (.clause property operator raw false caseInsensitive)).result
        (filter config (.model model) (.collection property
          (.clause "" operator raw false caseInsensitive) .all false)).result ↔
      test? (.list inner) target.convert caseInsensitive operator raw = none ∧
        ((∃ model, inner = .record model) ∨
          test? inner none caseInsensitive operator raw = none) := by
  have scope : elementScope (.list inner) = .element (.list inner) := rfl
  rw [sameElementTest_direct_iff operator raw caseInsensitive found listed unhooked nofun, scope,
    filter_element]
  by_cases recorded : ∃ model, inner = .record model
  · obtain ⟨owner, rfl⟩ := recorded
    have refused (result : Option Predicate) :
        result.map some = ((fieldClause (M := M) "" { path := [], type := .list (.record owner) }
          caseInsensitive operator raw).map some).toOption ↔ result = none :=
      Option.map_eq_none_iff
    rw [refused]
    exact ⟨fun none => ⟨none, Or.inl ⟨owner, rfl⟩⟩, And.left⟩
  · rw [fieldClause_of_list operator raw caseInsensitive rfl (not_exists.mp recorded),
      or_iff_right recorded]
    cases made : scalarClause "" [] inner none caseInsensitive operator raw with
    | error error =>
      have none : test? inner none caseInsensitive operator raw = none := by rw [test?, made]; rfl
      rw [none, and_iff_left rfl]
      exact Option.map_eq_none_iff
    | ok test =>
      have some : test? inner none caseInsensitive operator raw = some test := by
        rw [test?, made]; rfl
      rw [some]
      refine iff_of_false (fun same => ?_) (fun both => nomatch both.2)
      obtain ⟨direct, made, same⟩ := Option.map_eq_some_iff.mp same
      cases same
      exact test?_ne_any operator raw caseInsensitive _ _ _ _ made

theorem sameElementTest_scalars_iff (found : visible? config (.model model) property = some target)
    (listed : target.type = .list element) (unhooked : target.customFilter = none)
    (scalar : element.isSortable = true) :
    SameElementTest
        (filter config (.model model) (.clause property operator raw false caseInsensitive)).result
        (filter config (.model model) (.collection property
          (.clause "" operator raw false caseInsensitive) .all false)).result ↔
      (Applies element operator raw →
        constants? element target.convert (caseInsensitive && element.isText) raw =
          constants? element none (caseInsensitive && element.isText) raw) := by
  have unrecorded (model : M) : element ≠ .record model := by
    rintro rfl
    cases scalar
  have scope : elementScope element = .element element := by
    cases element <;> first | rfl | cases scalar
  have single : fieldClause "" { path := [], type := element } caseInsensitive operator raw =
      scalarClause "" [] element none caseInsensitive operator raw := by
    cases element <;> first | rfl | cases scalar
  have nested :
      ((scalarClause "" [] element none caseInsensitive operator raw).map some).toOption =
        (test? element none caseInsensitive operator raw).map some := by
    rw [test?]
    cases scalarClause "" [] element none caseInsensitive operator raw <;> rfl
  rw [sameElementTest_direct_iff operator raw caseInsensitive found listed unhooked unrecorded,
    scope, filter_element, single, nested, Option.map_inj_right fun _ _ => Option.some.inj,
    test?_eq_iff]

theorem sameElementTest_filter_iff (found : visible? config (.model model) property = some target)
    (listed : target.type = .list element) (unhooked : target.customFilter = none) :
    SameElementTest
        (filter config (.model model) (.clause property operator raw false caseInsensitive)).result
        (filter config (.model model) (.collection property
          (.clause "" operator raw false caseInsensitive) .all false)).result ↔
      FormsAgree config target.convert caseInsensitive operator raw element := by
  cases element with
  | record owner =>
    exact sameElementTest_records_iff operator raw caseInsensitive found listed unhooked
  | list inner =>
    exact sameElementTest_lists_iff operator raw caseInsensitive found listed unhooked
  | _ => exact sameElementTest_scalars_iff operator raw caseInsensitive found listed unhooked rfl

end Routes

/-! ### Texts -/

open ListQuery.Filter (TokenKind Values textKinds)

section Texts

variable {M : Type} [Schema M] [DecidableEq M] {config : Config M} {model : M} {property : String}

/-- The two forms of a clause on a list, as filters and as texts, make one test of its elements
exactly where the two routes agree. -/
theorem list_forms_agree_iff {resolved : Resolved M} {element : FieldType M}
    (found : resolve config model property = some resolved)
    (listed : resolved.type = .list element) (kept : resolved.filterIgnored = false)
    (unhooked : resolved.customFilter = none) (operator : Operator) (raw : List (Option String))
    (caseInsensitive : Bool) :
    (SameElementTest
        (filter config (.model model) (.clause property operator raw false caseInsensitive)).result
        (filter config (.model model) (.collection property
          (.clause "" operator raw false caseInsensitive) .all false)).result ↔
      FormsAgree config resolved.convert caseInsensitive operator raw element) ∧
    ∀ {literals : List TokenKind}, Values literals raw → ∀ {one every : String},
      textKinds one = .identifier property :: clauseKinds operator caseInsensitive literals →
      textKinds every =
        .identifier property :: .asterisk :: clauseKinds operator caseInsensitive literals →
      (SameElementTest (compileFilter config model one).result
          (compileFilter config model every).result ↔
        FormsAgree config resolved.convert caseInsensitive operator raw element) := by
  have visible : visible? config (.model model) property =
      some ⟨resolved.path, resolved.type, resolved.convert, resolved.customFilter⟩ := by
    simp [visible?, found, kept]
  have filters := sameElementTest_filter_iff operator raw caseInsensitive visible listed unhooked
  refine ⟨filters, fun values one every readOne readEvery => ?_⟩
  rw [compileFilter_clause values readOne, compileFilter_everyElement values readEvery]
  exact filters

end Texts

/-- The numbers among a user's items, without an alias. -/
theorem items_forms_agree :
    (∃ resolved, resolve {} Sample.Model.user "items" = some resolved ∧
      resolved.type = .list .int ∧ resolved.filterIgnored = false ∧
      resolved.customFilter = none) ∧
    SameElementTest (compileFilter {} Sample.Model.user "items==3").result
      (compileFilter {} Sample.Model.user "items*==3").result := by
  have found : resolve {} Sample.Model.user "items" =
      some ⟨["items"], .list .int, none, false, false, none, none⟩ := rfl
  have one : textKinds "items==3" =
      .identifier "items" :: clauseKinds .equal false [.number "3"] := by decide +kernel
  have every : textKinds "items*==3" =
      .identifier "items" :: .asterisk :: clauseKinds .equal false [.number "3"] := by
    decide +kernel
  have forms := (list_forms_agree_iff found rfl rfl rfl .equal [some "3"] false).2
    (.last (.number "3")) one every
  exact ⟨⟨_, found, rfl, rfl, rfl⟩, forms.mpr fun _ => rfl⟩

/-- Users say `tens` for their items, and count them in tens. -/
def itemsInTens : Config Sample.Model where
  mappings := [(.user, { aliases := [("tens", ⟨"items", Sample.converter? "decade"⟩)] })]

/-- With an asterisk the converter is lost: some item is thirty, but every item is three. -/
theorem tens_forms_differ :
    ¬ SameElementTest (compileFilter itemsInTens .user "tens==3").result
      (compileFilter itemsInTens .user "tens*==3").result := by
  have visible : visible? itemsInTens (.model .user) "tens" =
      some ⟨["items"], .list .int, Sample.converter? "decade", none⟩ := rfl
  have one : textKinds "tens==3" =
      .identifier "tens" :: clauseKinds .equal false [.number "3"] := by decide +kernel
  have every : textKinds "tens*==3" =
      .identifier "tens" :: .asterisk :: clauseKinds .equal false [.number "3"] := by
    decide +kernel
  have values : Values [.number "3"] [some "3"] := .last (.number "3")
  have apart : constants? (.int : FieldType Sample.Model) (Sample.converter? "decade") false
      [some "3"] ≠ constants? (.int : FieldType Sample.Model) none false [some "3"] := by
    decide +kernel
  rw [compileFilter_clause values one, compileFilter_everyElement values every,
    sameElementTest_scalars_iff .equal [some "3"] false visible rfl rfl rfl]
  exact fun same => apart (same ⟨nofun, Or.inr rfl⟩)

end Compile

end ListQuery
