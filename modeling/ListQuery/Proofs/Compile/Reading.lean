import Mathlib.Data.List.Forall2
import ListQuery.Proofs.Compile.Outcome
import ListQuery.Proofs.Schema.Leads

/-! What compiled conditions and sort plans read. Every path in a condition leads, from the scope in
which it stands, along declared fields to one that is not ignored for filtering, or is the empty
path of an element; the elements of a list are the scope of what is asked of them. What is asked of
constants is left open here. Every key of a sort plan leads to a field that is not ignored for
sorting. -/

namespace ListQuery

variable {M : Type} [Schema M] [DecidableEq M] {config : Config M}

/-- The type of what a scope speaks of. -/
def Scope.type : Scope M → FieldType M
  | .model root => .record root
  | .element type => type

omit [Schema M] [DecidableEq M] in
@[simp] theorem Scope.type_elementScope (type : FieldType M) :
    (Compile.elementScope type).type = type := by
  cases type <;> rfl

/-- A path leads from a scope to a type. From a model it leads to a declared field that neither the
model, by the whole path, nor the field's owner, by its name, ignores for filtering; an element has
no fields, and only the empty path leads to it. -/
inductive Scope.Leads (config : Config M) : Scope M → FieldPath → FieldType M → Prop where
  | field {root owner : M} {path : FieldPath} {last : Field M}
      (leads : Schema.Leads root path owner last)
      (byRoot : (config.mapping root).ignoresFilter path.dotted = false)
      (byOwner : (config.mapping owner).ignoresFilter last.name = false) :
      Scope.Leads config (.model root) path last.type
  | element {type : FieldType M} : Scope.Leads config (.element type) [] type

/-- Every part of a condition reads something in its scope, and its constants fit what is read. A
pattern needs a text, and a quantifier a list. -/
def Predicate.Within (config : Config M) (fits : FieldType M → Operand → List Scalar → Prop) :
    Scope M → Predicate → Prop
  | scope, .compare operand _ constant =>
    ∃ type, scope.Leads config operand.path type ∧ fits type operand [constant]
  | scope, .oneOf operand constants =>
    ∃ type, scope.Leads config operand.path type ∧ fits type operand constants
  | scope, .text operand _ pattern =>
    scope.Leads config operand.path .text ∧ fits .text operand [.text pattern]
  | scope, .any path inner | scope, .all path inner =>
    ∃ element, scope.Leads config path (.list element) ∧
      inner.Within config fits (Compile.elementScope element)
  | scope, .and left right | scope, .or left right =>
    left.Within config fits scope ∧ right.Within config fits scope
  | scope, .not inner => inner.Within config fits scope
  | _, .native _ => False

namespace Compile

open ListQuery.Filter (Operator Quantifier)

/-! ### Clauses on one field -/

omit [DecidableEq M] in
theorem forall₂_of_constants {property : String} {type : FieldType M} {convert : Option Converter}
    {foldCase : Bool} {raw : List (Option String)} {scalars : List Scalar}
    (read : constants property type convert foldCase raw = .ok scalars) :
    List.Forall₂
      (fun literal scalar => constant property type convert foldCase literal = .ok scalar) raw
      scalars := by
  induction raw generalizing scalars with
  | nil =>
    cases read
    exact .nil
  | cons literal rest ih =>
    rw [constants] at read
    split at read
    · cases read
    · rename_i scalar first
      split at read
      · rename_i later others
        cases read
        exact .cons first (ih others)
      · cases read

/-- What a clause on one field asks of it, with the constants that its literals stand for. -/
inductive Asks (stands : Option String → Scalar → Prop) (operand : Operand) (type : FieldType M)
    (raw : List (Option String)) : Predicate → Prop where
  | oneOf {constants : List Scalar} (each : List.Forall₂ stands raw constants) :
      Asks stands operand type raw (.oneOf operand constants)
  | compare {comparison : Comparison} {constant : Scalar}
      (each : List.Forall₂ stands raw [constant]) :
      Asks stands operand type raw (.compare operand comparison constant)
  | text {position : TextMatch} {pattern : String} (isText : type = .text)
      (each : List.Forall₂ stands raw [.text pattern]) :
      Asks stands operand type raw (.text operand position pattern)

omit [Schema M] [DecidableEq M] in
theorem eq_text_of_isText {type : FieldType M} (isText : type.isText = true) : type = .text := by
  cases type with
  | text => rfl
  | _ => cases isText

theorem isText_of_pattern {operator : Operator} {position : TextMatch}
    (pattern : role operator = .pattern position) : operator.isText = true := by
  cases operator with
  | contains | startsWith | endsWith => rfl
  | _ => cases pattern

omit [DecidableEq M] in
theorem asks_of_scalarClause {property : String} {path : FieldPath} {type : FieldType M}
    {convert : Option Converter} {caseInsensitive : Bool} {operator : Operator}
    {raw : List (Option String)} {p : Predicate}
    (compiled : scalarClause property path type convert caseInsensitive operator raw = .ok p) :
    Asks (fun literal scalar =>
        constant property type convert (caseInsensitive && type.isText) literal = .ok scalar)
      ⟨path, caseInsensitive && type.isText⟩ type raw p := by
  simp only [scalarClause] at compiled
  split at compiled
  · cases compiled
  · rename_i applies
    split at compiled
    · rename_i raw _ _ _
      cases read : constants property type convert (caseInsensitive && type.isText) raw with
      | error error =>
        rw [read] at compiled
        cases compiled
      | ok scalars =>
        rw [read] at compiled
        cases compiled
        exact .oneOf (forall₂_of_constants read)
    · rename_i literal _
      cases read : constant property type convert (caseInsensitive && type.isText) literal with
      | error error =>
        rw [read] at compiled
        cases compiled
      | ok scalar =>
        rw [read] at compiled
        cases compiled
        exact .compare (.cons read .nil)
    · rename_i position literal pattern
      split at compiled
      · rename_i text read
        cases compiled
        have isText : type.isText = true := by
          simpa [isText_of_pattern pattern] using applies
        exact .text (eq_text_of_isText isText) (.cons read .nil)
      · cases compiled
      · cases compiled
    · cases compiled

omit [DecidableEq M] in
/-- A clause on a field is one on the elements of a list of scalars, or one on the field itself. -/
theorem fieldClause_eq_ok {property : String} {target : Target M} {caseInsensitive : Bool}
    {operator : Operator} {raw : List (Option String)} {p : Predicate}
    (compiled : fieldClause property target caseInsensitive operator raw = .ok p) :
    (∃ element q, target.type = .list element ∧ elementScope element = .element element ∧
      scalarClause property [] element target.convert caseInsensitive operator raw = .ok q ∧
      p = .any target.path q) ∨
    scalarClause property target.path target.type target.convert caseInsensitive operator raw =
      .ok p := by
  rw [fieldClause] at compiled
  split at compiled
  · cases compiled
  · cases compiled
  · rename_i element notRecord type
    left
    cases made : scalarClause property [] element target.convert caseInsensitive operator raw with
    | error error =>
      rw [made] at compiled
      cases compiled
    | ok q =>
      rw [made] at compiled
      cases compiled
      refine ⟨element, q, type, ?_, made, rfl⟩
      cases element with
      | record model => exact absurd rfl (notRecord model)
      | _ => rfl
  · exact Or.inr compiled

/-! ### Filters -/

variable {fits : FieldType M → Operand → List Scalar → Prop} {scope : Scope M}

theorem within_negatedIf {negated : Bool} {p : Predicate} (within : p.Within config fits scope) :
    (p.negatedIf negated).Within config fits scope := by
  cases negated <;> exact within

/-- What a clause asks of a field is within the scope that leads to the field. -/
theorem within_of_asks {stands : Option String → Scalar → Prop} {operand : Operand}
    {type : FieldType M} {raw : List (Option String)} {p : Predicate}
    (asks : Asks stands operand type raw p) (leads : scope.Leads config operand.path type)
    (fit : ∀ scalars, List.Forall₂ stands raw scalars → fits type operand scalars) :
    p.Within config fits scope := by
  cases asks with
  | oneOf each | compare each => exact ⟨type, leads, fit _ each⟩
  | text isText each =>
    subst isText
    exact ⟨leads, fit _ each⟩

/-- A property that is visible in a scope stands for a path that leads from it. -/
theorem leads_of_visible {property : String} {target : Target M}
    (found : visible? config scope property = some target) :
    scope.Leads config target.path target.type := by
  cases scope with
  | element type =>
    obtain ⟨-, rfl⟩ := visible?_element found
    exact .element
  | model root =>
    obtain ⟨resolved, known, shown, rfl⟩ := visible?_model found
    obtain ⟨owner, field, stands⟩ := standsFor_of_resolve known
    rw [stands.filterIgnored, Bool.or_eq_false_iff] at shown
    simp only [stands.type]
    exact .field stands.leads shown.1 shown.2

/-- The hook-free part of a configuration: no property has a condition of its own. -/
def WithoutFilterHooks (config : Config M) : Prop :=
  ∀ model property, (config.mapping model).customFilter? property = none

theorem customFilter_of_visible (plain : WithoutFilterHooks config) {property : String}
    {target : Target M} (found : visible? config scope property = some target) :
    target.customFilter = none := by
  cases scope with
  | element type =>
    obtain ⟨-, rfl⟩ := visible?_element found
    rfl
  | model root =>
    obtain ⟨resolved, known, -, rfl⟩ := visible?_model found
    obtain ⟨owner, field, stands⟩ := standsFor_of_resolve known
    rw [stands.customFilter, plain, plain]
    rfl

theorem within_quantify {quantifier : Quantifier} {path : FieldPath} {element : FieldType M}
    {p : Predicate} (leads : scope.Leads config path (.list element))
    (within : p.Within config fits (elementScope element)) :
    (quantify quantifier path p).Within config fits scope := by
  cases quantifier <;> exact ⟨element, leads, within⟩

/-- Without hooks, a compiled filter reads only what its scopes lead to, if the constants of its
clauses fit. -/
theorem within_of_filter (plain : WithoutFilterHooks config)
    (fit : ∀ {scope property target}, visible? config scope property = some target →
      ∀ type path caseInsensitive raw scalars,
        List.Forall₂ (fun literal scalar => constant property type target.convert
          (caseInsensitive && type.isText) literal = .ok scalar) raw scalars →
        fits type ⟨path, caseInsensitive && type.isText⟩ scalars)
    {f : Filter} {p : Predicate} (compiled : (filter config scope f).result = .ok (some p)) :
    p.Within config fits scope := by
  induction f generalizing scope p with
  | clause property operator raw negated caseInsensitive =>
    obtain ⟨target, q, found, made, rfl⟩ := clause_eq_ok_some compiled
    refine within_negatedIf ?_
    rw [condition, customFilter_of_visible plain found] at made
    rcases fieldClause_eq_ok made with ⟨element, inner, type, inside, within, rfl⟩ | within
    · have leads := leads_of_visible found
      rw [type] at leads
      refine ⟨element, leads, ?_⟩
      rw [inside]
      exact within_of_asks (asks_of_scalarClause within) .element (fit found _ _ _ _)
    · exact within_of_asks (asks_of_scalarClause within) (leads_of_visible found)
        (fit found _ _ _ _)
  | collection property inner quantifier negated ih =>
    obtain ⟨target, element, q, found, type, made, rfl⟩ := collection_eq_ok_some compiled
    have leads := leads_of_visible found
    rw [type] at leads
    exact within_negatedIf (within_quantify leads (ih made))
  | and left right negated ihLeft ihRight =>
    obtain ⟨a, b, first, second, same⟩ := filter_and_eq_ok.mp compiled
    rcases a with _ | a <;> rcases b with _ | b <;> cases same <;> refine within_negatedIf ?_
    · exact ihRight second
    · exact ihLeft first
    · exact ⟨ihLeft first, ihRight second⟩
  | or left right negated ihLeft ihRight =>
    obtain ⟨a, b, first, second, same⟩ := filter_or_eq_ok.mp compiled
    rcases a with _ | a <;> rcases b with _ | b <;> cases same <;> refine within_negatedIf ?_
    · exact ihRight second
    · exact ihLeft first
    · exact ⟨ihLeft first, ihRight second⟩

end Compile

/-! ### Sort keys -/

/-- A key is read from a declared field with an order of its own, which neither the root, by the
whole path, nor the field's owner, by its name, ignores for sorting. -/
inductive SortTarget.Leads (config : Config M) (root : M) : SortTarget → Prop where
  | field {owner : M} {path : FieldPath} {last : Field M}
      (leads : Schema.Leads root path owner last) (sortable : last.type.isSortable = true)
      (byRoot : (config.mapping root).ignoresSort path.dotted = false)
      (byOwner : (config.mapping owner).ignoresSort last.name = false) :
      SortTarget.Leads config root (.field path)

namespace OrderCompile

/-- No property has an order of its own making. -/
def WithoutSortHooks (config : Config M) : Prop :=
  ∀ model property, (config.mapping model).customSort? property = none

variable {model : M}

theorem leads_of_orderable (plain : WithoutSortHooks config) {property : String}
    {resolved : Resolved M} (found : orderable? config model property = some resolved) :
    resolved.customSort = none ∧ (SortTarget.field resolved.path).Leads config model := by
  obtain ⟨known, sorted⟩ := Option.filter_eq_some_iff.mp found
  rw [Bool.and_eq_true_iff, Bool.not_eq_true'] at sorted
  obtain ⟨shown, keyed⟩ := sorted
  obtain ⟨owner, field, stands⟩ := standsFor_of_resolve known
  have noHook : resolved.customSort = none := by
    rw [stands.customSort, plain, plain]
    rfl
  rw [noHook, Option.isSome_none, Bool.false_or, stands.type] at keyed
  rw [stands.sortIgnored, Bool.or_eq_false_iff] at shown
  exact ⟨noHook, .field stands.leads keyed shown.1 shown.2⟩

/-- Without hooks every entry that is not passed over adds a key that leads to a field. -/
theorem leads_of_collect (plain : WithoutSortHooks config) {plan plan' : SortPlan}
    {deferred : List Deferred} {entries : List OrderBy.Entry}
    (collected : (collect config model plan [] entries).result = .ok (plan', deferred))
    (before : ∀ key ∈ plan.keys, key.target.Leads config model) :
    deferred = [] ∧ ∀ key ∈ plan'.keys, key.target.Leads config model := by
  induction entries generalizing plan with
  | nil =>
    cases collected
    exact ⟨rfl, before⟩
  | cons entry rest ih =>
    cases found : orderable? config model entry.property with
    | none =>
      obtain ⟨reason, same⟩ := collect_of_hidden plan [] rest found
      rw [same] at collected
      obtain ⟨-, -, later⟩ := Traced.result_bind_eq_ok.mp collected
      exact ih later before
    | some resolved =>
      obtain ⟨noHook, leads⟩ := leads_of_orderable plain found
      rw [collect_of_orderable plan [] rest found, noHook] at collected
      refine ih collected ?_
      rw [SortPlan.nextBy_eq_thenBy]
      exact List.forall_mem_append.mpr ⟨before, List.forall_mem_singleton.mpr leads⟩

end OrderCompile

theorem leads_of_compileOrder {model : M} {text : String} {plan : SortPlan}
    (plain : OrderCompile.WithoutSortHooks config)
    (compiled : (compileOrder config model text).result = .ok plan) :
    ∀ key ∈ plan.keys, key.target.Leads config model := by
  obtain ⟨⟨collected, deferred⟩, first, second⟩ := Traced.result_bind_eq_ok.mp compiled
  obtain ⟨rfl, leads⟩ := OrderCompile.leads_of_collect plain first (List.forall_mem_nil _)
  cases second
  exact leads

end ListQuery
