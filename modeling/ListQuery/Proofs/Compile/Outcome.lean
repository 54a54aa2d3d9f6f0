import ListQuery.Compile.Filter
import ListQuery.Compile.Order

/-! What compiling comes to. A property is found or it is missing; what a clause, a collection or a
join comes to is said once, by what its parts come to, and a change of a filter's negation changes
the negation of the result alone. An order entry adds to the plan or it is passed over. -/

namespace ListQuery

namespace Traced

variable {ε α β γ : Type}

theorem result_bind (first : Traced ε α) (next : α → Traced ε β) :
    (first >>= next).result = first.result.bind fun a => (next a).result := by
  obtain ⟨events, result⟩ := first
  cases result <;> rfl

theorem result_bind_eq_ok {first : Traced ε α} {next : α → Traced ε β} {b : β} :
    (first >>= next).result = .ok b ↔ ∃ a, first.result = .ok a ∧ (next a).result = .ok b := by
  rw [result_bind]
  cases first.result <;> simp [Except.bind]

/-- Two steps whose results are joined. -/
theorem result_join_eq_ok {first : Traced ε α} {second : Traced ε β} {join : α → β → γ} {c : γ} :
    (do
      let a ← first
      let b ← second
      pure (join a b) : Traced ε γ).result = .ok c ↔
      ∃ a b, first.result = .ok a ∧ second.result = .ok b ∧ c = join a b := by
  rw [result_bind_eq_ok]
  constructor
  · rintro ⟨a, one, rest⟩
    obtain ⟨b, two, last⟩ := result_bind_eq_ok.mp rest
    cases last
    exact ⟨a, b, one, two, rfl⟩
  · rintro ⟨a, b, one, two, rfl⟩
    exact ⟨a, one, result_bind_eq_ok.mpr ⟨b, two, rfl⟩⟩

end Traced

namespace Compile

open ListQuery.Filter (Operator Quantifier)
open Traced

variable {M : Type} [Schema M] [DecidableEq M] {config : Config M} {scope : Scope M}
  {property : String} {target : Target M}

/-- The field that a property stands for in a scope, if the scope knows it and does not ignore it
for filtering. -/
def visible? (config : Config M) (scope : Scope M) (property : String) : Option (Target M) :=
  match scope with
  | .element type => if property.isEmpty then some { path := [], type } else none
  | .model model =>
    (resolve config model property).bind fun resolved =>
      if resolved.filterIgnored then none
      else
        some
          { path := resolved.path
            type := resolved.type
            convert := resolved.convert
            customFilter := resolved.customFilter }

/-- The condition on a field that is found, before the clause's negation. -/
def condition (property : String) (target : Target M) (caseInsensitive : Bool)
    (operator : Operator) (raw : List (Option String)) : Except QueryError Predicate :=
  match target.customFilter with
  | some hook =>
    (hook target.path raw operator).mapError fun rejection =>
      .conversion property rejection.value rejection.typeName rejection.fault
  | none => fieldClause property target caseInsensitive operator raw

/-- In an element's scope only the element itself is visible. -/
theorem visible?_element {type : FieldType M}
    (found : visible? config (.element type) property = some target) :
    property.isEmpty = true ∧ target = { path := [], type } := by
  obtain ⟨empty, same⟩ := Option.ite_none_right_eq_some.mp found
  exact ⟨empty, (Option.some.inj same).symm⟩

/-- In a model's scope a property is visible that is found and not ignored. -/
theorem visible?_model {model : M}
    (found : visible? config (.model model) property = some target) :
    ∃ resolved, resolve config model property = some resolved ∧
      resolved.filterIgnored = false ∧
      target = ⟨resolved.path, resolved.type, resolved.convert, resolved.customFilter⟩ := by
  obtain ⟨resolved, known, shown⟩ := Option.bind_eq_some_iff.mp found
  obtain ⟨kept, same⟩ := Option.ite_none_left_eq_some.mp shown
  exact ⟨resolved, known, Bool.eq_false_iff.mpr kept, (Option.some.inj same).symm⟩

theorem target_of_visible (found : visible? config scope property = some target) :
    Compile.target config scope property = Traced.pure (some target) := by
  cases scope with
  | element type =>
    obtain ⟨empty, rfl⟩ := visible?_element found
    rw [Compile.target, if_pos empty]
    rfl
  | model model =>
    obtain ⟨resolved, known, kept, rfl⟩ := visible?_model found
    simp only [Compile.target, known, kept]
    rfl

theorem target_of_hidden (hidden : visible? config scope property = none) :
    ∃ reason, Compile.target config scope property = dropped config property reason := by
  cases scope with
  | element type =>
    refine ⟨.unknown, ?_⟩
    cases empty : property.isEmpty <;> simp_all [visible?, Compile.target]
  | model model =>
    cases known : resolve config model property with
    | none => exact ⟨.unknown, by simp [Compile.target, known]⟩
    | some resolved =>
      refine ⟨.ignoredForFiltering, ?_⟩
      cases ignored : resolved.filterIgnored <;> simp_all [visible?, Compile.target]

omit [Schema M] [DecidableEq M] in
/-- What is passed over stays passed over, whatever was to follow. -/
theorem dropped_bind {α β : Type} {next : Option α → Traced QueryError (Option β)}
    (reason : PassedOver) (nothing : next none = Traced.pure none) :
    (dropped config property reason >>= next) = dropped config property reason := by
  cases strict : config.strict with
  | true =>
    simp only [dropped, strict]
    rfl
  | false =>
    simp only [dropped, strict]
    change Traced.bind ⟨_, .ok none⟩ next = _
    rw [bind_ok, nothing]
    rfl

omit [Schema M] [DecidableEq M] in
theorem result_dropped {α : Type} (reason : PassedOver) :
    (dropped config property reason : Traced QueryError (Option α)).result =
      if config.strict then .error (.unresolvedFilter property) else .ok none := by
  unfold dropped
  split <;> rfl

omit [Schema M] [DecidableEq M] in
/-- Nothing can be done to what is passed over. -/
theorem result_dropped_map {α β : Type} (first later : PassedOver) (change : α → β) :
    (dropped config property later : Traced QueryError (Option β)).result =
      (dropped config property first).result.map (Option.map change) := by
  rw [result_dropped, result_dropped]
  cases config.strict <;> rfl

/-- A clause is passed over with its property. -/
theorem clause_of_hidden (hidden : visible? config scope property = none) (operator : Operator)
    (raw : List (Option String)) (negated caseInsensitive : Bool) :
    ∃ reason, clause config scope property operator raw negated caseInsensitive =
      dropped config property reason := by
  obtain ⟨reason, same⟩ := target_of_hidden hidden
  refine ⟨reason, ?_⟩
  rw [clause, same]
  exact dropped_bind reason rfl

/-- A collection is passed over with its property. -/
theorem collection_of_hidden (hidden : visible? config scope property = none) (inner : Filter)
    (quantifier : Quantifier) (negated : Bool) :
    ∃ reason, filter config scope (.collection property inner quantifier negated) =
      dropped config property reason := by
  obtain ⟨reason, same⟩ := target_of_hidden hidden
  refine ⟨reason, ?_⟩
  rw [filter, same]
  exact dropped_bind reason rfl

/-- What is told of a clause: that a hook makes its condition. -/
def told (property : String) (target : Target M) (operator : Operator)
    (raw : List (Option String)) : List Event :=
  match target.customFilter with
  | some _ => [.customFilter property operator raw.length]
  | none => []

/-- What a clause on a field comes to. -/
theorem clause_of_visible (found : visible? config scope property = some target)
    (operator : Operator) (raw : List (Option String)) (negated caseInsensitive : Bool) :
    clause config scope property operator raw negated caseInsensitive =
      ⟨told property target operator raw,
        (condition property target caseInsensitive operator raw).map fun predicate =>
          some (predicate.negatedIf negated)⟩ := by
  rw [clause, target_of_visible found]
  change (match target.customFilter with | some hook => _ | none => _) = _
  cases custom : target.customFilter with
  | none =>
    simp only [told, condition, custom]
    cases fieldClause property target caseInsensitive operator raw <;> rfl
  | some hook =>
    simp only [told, condition, custom]
    cases hook target.path raw operator <;> rfl

/-- What a filter on a field's elements comes to, if the field is a list. -/
theorem collection_of_visible (found : visible? config scope property = some target)
    (inner : Filter) (quantifier : Quantifier) (negated : Bool) :
    filter config scope (.collection property inner quantifier negated) =
      match target.type.element? with
      | none => .fail (.notACollection property)
      | some element => do
        let inner ← filter config (elementScope element) inner
        return inner.map fun predicate =>
          (quantify quantifier target.path predicate).negatedIf negated := by
  rw [filter, target_of_visible found]
  rfl

theorem filter_and_eq_ok {left right : Filter} {negated : Bool} {r : Option Predicate} :
    (filter config scope (.and left right negated)).result = .ok r ↔
      ∃ p q, (filter config scope left).result = .ok p ∧
        (filter config scope right).result = .ok q ∧
        r = (combine .and p q).map (·.negatedIf negated) := by
  rw [filter]
  exact result_join_eq_ok

theorem filter_or_eq_ok {left right : Filter} {negated : Bool} {r : Option Predicate} :
    (filter config scope (.or left right negated)).result = .ok r ↔
      ∃ p q, (filter config scope left).result = .ok p ∧
        (filter config scope right).result = .ok q ∧
        r = (combine .or p q).map (·.negatedIf negated) := by
  rw [filter]
  exact result_join_eq_ok

/-! ### Conditions found -/

/-- A clause that is not passed over: its field is found, and its negation comes last. -/
theorem clause_eq_ok_some {operator : Operator} {raw : List (Option String)}
    {negated caseInsensitive : Bool} {p : Predicate}
    (compiled : (clause config scope property operator raw negated caseInsensitive).result =
      .ok (some p)) :
    ∃ target q, visible? config scope property = some target ∧
      condition property target caseInsensitive operator raw = .ok q ∧ p = q.negatedIf negated := by
  cases found : visible? config scope property with
  | none =>
    obtain ⟨reason, same⟩ := clause_of_hidden found operator raw negated caseInsensitive
    rw [same, result_dropped] at compiled
    split at compiled <;> cases compiled
  | some target =>
    rw [clause_of_visible found] at compiled
    cases made : condition property target caseInsensitive operator raw with
    | error error =>
      rw [made] at compiled
      cases compiled
    | ok q =>
      rw [made] at compiled
      cases compiled
      exact ⟨target, q, rfl, made, rfl⟩

/-- A collection that is not passed over: its field is a list, and something is left of the filter
on its elements. -/
theorem collection_eq_ok_some {inner : Filter} {quantifier : Quantifier} {negated : Bool}
    {p : Predicate}
    (compiled : (filter config scope (.collection property inner quantifier negated)).result =
      .ok (some p)) :
    ∃ target element q, visible? config scope property = some target ∧
      target.type = .list element ∧
      (filter config (elementScope element) inner).result = .ok (some q) ∧
      p = (quantify quantifier target.path q).negatedIf negated := by
  cases found : visible? config scope property with
  | none =>
    obtain ⟨reason, same⟩ := collection_of_hidden found inner quantifier negated
    rw [same, result_dropped] at compiled
    split at compiled <;> cases compiled
  | some target =>
    rw [collection_of_visible found] at compiled
    cases type : target.type with
    | list element =>
      rw [type] at compiled
      obtain ⟨inside, within, same⟩ := result_bind_eq_ok.mp compiled
      cases inside with
      | none => cases same
      | some q =>
        cases same
        exact ⟨target, element, q, rfl, type, within, rfl⟩
    | _ =>
      rw [type] at compiled
      cases compiled

/-! ### Negations -/

omit [Schema M] [DecidableEq M] in
/-- The negation of a join comes after the join. -/
theorem join_result_negated (join : Predicate → Predicate → Predicate)
    (left right : Traced QueryError (Option Predicate)) (negated : Bool) :
    (do
      let p ← left
      let q ← right
      return (combine join p q).map (·.negatedIf negated) : Traced QueryError _).result =
    (do
      let p ← left
      let q ← right
      return combine join p q : Traced QueryError _).result.map
        (Option.map (·.negatedIf negated)) := by
  simp only [result_bind]
  rcases left.result with error | p
  · rfl
  · rcases right.result with error | q <;> rfl

variable (config scope) in
/-- A filter with another negation comes to the same with another negation. -/
theorem filter_toggled_result (f : Filter) :
    ∃ (plain : Except QueryError (Option Predicate)) (negated : Bool), ∀ change,
      (filter config scope (f.toggled change)).result =
        plain.map (Option.map (·.negatedIf (negated ^^ change))) := by
  cases f with
  | clause property operator raw negated caseInsensitive =>
    cases found : visible? config scope property with
    | none =>
      refine ⟨(dropped config property .unknown).result, negated, fun change => ?_⟩
      obtain ⟨reason, same⟩ := clause_of_hidden found operator raw (negated ^^ change)
        caseInsensitive
      rw [Filter.toggled, filter, same]
      exact result_dropped_map _ _ _
    | some target =>
      refine ⟨(condition property target caseInsensitive operator raw).map some, negated,
        fun change => ?_⟩
      rw [Filter.toggled, filter, clause_of_visible found]
      cases condition property target caseInsensitive operator raw <;> rfl
  | collection property inner quantifier negated =>
    cases found : visible? config scope property with
    | none =>
      refine ⟨(dropped config property .unknown).result, negated, fun change => ?_⟩
      obtain ⟨reason, same⟩ := collection_of_hidden found inner quantifier (negated ^^ change)
      rw [Filter.toggled, same]
      exact result_dropped_map _ _ _
    | some target =>
      cases type : target.type.element? with
      | none =>
        refine ⟨.error (.notACollection property), negated, fun change => ?_⟩
        rw [Filter.toggled, collection_of_visible found, type]
        rfl
      | some element =>
        refine ⟨(filter config (elementScope element) inner).result.map
          (Option.map (quantify quantifier target.path)), negated, fun change => ?_⟩
        rw [Filter.toggled, collection_of_visible found, type]
        simp only [result_bind]
        rcases (filter config (elementScope element) inner).result with error | _ | q <;> rfl
  | and left right negated =>
    exact ⟨_, negated, fun change =>
      join_result_negated .and (filter config scope left) (filter config scope right)
        (negated ^^ change)⟩
  | or left right negated =>
    exact ⟨_, negated, fun change =>
      join_result_negated .or (filter config scope left) (filter config scope right)
        (negated ^^ change)⟩

end Compile

/-! ### Order entries -/

namespace OrderCompile

variable {M : Type} [Schema M] [DecidableEq M] {config : Config M} {model : M}
  {entry : OrderBy.Entry}

/-- The field that an order entry sorts by: it is found, not ignored, and has a hook or an order of
its own. -/
def orderable? (config : Config M) (model : M) (property : String) : Option (Resolved M) :=
  (resolve config model property).filter fun resolved =>
    !resolved.sortIgnored && (resolved.customSort.isSome || resolved.type.isSortable)

variable (plan : SortPlan) (deferred : List Deferred) (rest : List OrderBy.Entry)

theorem collect_of_hidden (hidden : orderable? config model entry.property = none) :
    ∃ reason, collect config model plan deferred (entry :: rest) =
      (do skipped config entry.property reason; collect config model plan deferred rest) := by
  rw [collect]
  cases known : resolve config model entry.property with
  | none => exact ⟨.unknown, rfl⟩
  | some resolved =>
    rw [orderable?, known] at hidden
    cases ignored : resolved.sortIgnored with
    | true => exact ⟨.ignoredForSorting, by simp [ignored]⟩
    | false =>
      refine ⟨.notSortable, ?_⟩
      cases custom : resolved.customSort <;> cases sorts : resolved.type.isSortable <;>
        simp_all [Option.filter]

/-- A field that can be sorted by becomes a key, and its hook is put off. -/
theorem collect_of_orderable {resolved : Resolved M}
    (found : orderable? config model entry.property = some resolved) :
    collect config model plan deferred (entry :: rest) =
      match resolved.customSort with
      | some hook => collect config model plan (deferred ++ [⟨hook, entry.ascending⟩]) rest
      | none =>
        collect config model (plan.nextBy (.field resolved.path) entry.ascending) deferred
          rest := by
  obtain ⟨known, sorted⟩ := Option.filter_eq_some_iff.mp found
  rw [Bool.and_eq_true_iff, Bool.not_eq_true', Bool.or_eq_true] at sorted
  obtain ⟨kept, keyed⟩ := sorted
  rw [collect, known]
  cases custom : resolved.customSort with
  | some hook => simp [kept, custom]
  | none =>
    have sortable : resolved.type.isSortable = true := by simpa [custom] using keyed
    simp [kept, custom, sortable]

end OrderCompile

/-! ### Texts -/

variable {M : Type} [Schema M] [DecidableEq M] {config : Config M} {model : M} {text : String}

theorem compileFilter_result {f : Filter} (parsed : Filter.parse text = .ok (some f)) :
    (compileFilter config model text).result =
      (Compile.filter config (.model model) f).result := by
  rw [compileFilter, Traced.result_bind, parsed]
  rfl

/-- A text that comes to a condition has a filter that does. -/
theorem compileFilter_eq_ok_some {p : Predicate}
    (compiled : (compileFilter config model text).result = .ok (some p)) :
    ∃ f, Filter.parse text = .ok (some f) ∧
      (Compile.filter config (.model model) f).result = .ok (some p) := by
  obtain ⟨parsed, read, found⟩ := Traced.result_bind_eq_ok.mp compiled
  cases parsed with
  | none => cases found
  | some f => exact ⟨f, read, found⟩

end ListQuery
