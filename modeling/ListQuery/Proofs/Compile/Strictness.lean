import Mathlib.Control.Monad.Basic
import ListQuery.Query
import ListQuery.Proofs.Compile.Outcome
import ListQuery.Proofs.Filter.Faults
import ListQuery.Sample.Models

/-! What strictness changes. A strict configuration finds the same fields as a lenient one, and
goes the same way up to the first property that the lenient one passes over; there it stops with an
error that names the property. Without such a property it ends as the lenient one does. -/

namespace ListQuery

/-! ### Errors and events -/

/-- The errors that strict configurations make of what lenient ones pass over. -/
def QueryError.IsUnresolved : QueryError → Prop
  | .unresolvedFilter _ | .unresolvedOrdering _ => True
  | _ => False

/-- The errors of clauses on fields that are found. -/
def QueryError.IsMisuse : QueryError → Prop
  | .conversion .. | .notACollection _ | .unsupportedOperator .. | .valueCount .. => True
  | _ => False

theorem QueryError.not_isUnresolved_of_isFault (error : QueryError) (fault : error.IsFault) :
    ¬ error.IsUnresolved := by
  cases error with
  | lexical | grammar => exact id
  | _ => exact fault.elim

theorem QueryError.not_isUnresolved_of_isMisuse (error : QueryError) (misuse : error.IsMisuse) :
    ¬ error.IsUnresolved := by
  cases error with
  | conversion | notACollection | unsupportedOperator | valueCount => exact id
  | _ => exact misuse.elim

/-- The error that a strict configuration makes of what an event tells. -/
def Event.refusal? : Event → Option QueryError
  | .droppedFilter property _ => some (.unresolvedFilter property)
  | .skippedOrdering property _ => some (.unresolvedOrdering property)
  | _ => none

theorem Event.isUnresolved_of_refusal? {event : Event} {error : QueryError}
    (refused : event.refusal? = some error) : error.IsUnresolved := by
  cases event <;> cases refused <;> trivial

namespace Traced

/-- What a run passes over, in order, each as the error that a strict configuration makes of it. -/
def refusals {ε α : Type} (run : Traced ε α) : List QueryError :=
  run.events.filterMap Event.refusal?

theorem isUnresolved_of_mem_refusals {ε α : Type} {run : Traced ε α} {error : QueryError}
    (refused : error ∈ run.refusals) : error.IsUnresolved := by
  obtain ⟨event, -, same⟩ := List.mem_filterMap.mp refused
  exact Event.isUnresolved_of_refusal? same

variable {ε α β : Type} {first : Traced ε α} (next : α → Traced ε β)

theorem refusals_bind_ok {a : α} (ended : first.result = .ok a) :
    (first >>= next).refusals = first.refusals ++ (next a).refusals := by
  obtain ⟨events, result⟩ := first
  cases ended
  exact List.filterMap_append

theorem refusals_bind_error {error : ε} (failed : first.result = .error error) :
    (first >>= next).refusals = first.refusals := by
  obtain ⟨events, result⟩ := first
  cases failed
  rfl

end Traced

/-! ### Two runs -/

/-- A strict run and a lenient one, of which the lenient one is to pass over some things. The
strict run stops at the first of them that comes up, and ends as the lenient one if none does. The
lenient run meets them in order, up to an error of another kind if there is one. -/
structure Hardens {α : Type} (expected : List QueryError) (strict lenient : Traced QueryError α) :
    Prop where
  result : strict.result =
    match lenient.refusals.head? with
    | some error => .error error
    | none => lenient.result
  settled : FailsOnly (¬ QueryError.IsUnresolved ·) lenient.result
  passes : lenient.refusals <+: expected
  whole : ∀ a, lenient.result = .ok a → lenient.refusals = expected

namespace Hardens

variable {α β : Type} {expected : List QueryError} {strict lenient : Traced QueryError α}

theorem of_quiet {run : Traced QueryError α} (quiet : run.refusals = [])
    (settled : FailsOnly (¬ QueryError.IsUnresolved ·) run.result) : Hardens [] run run where
  result := by rw [quiet]; rfl
  settled := settled
  passes := by simp [quiet]
  whole _ _ := quiet

theorem pure (a : α) : Hardens [] (Traced.pure a : Traced QueryError α) (Traced.pure a) :=
  of_quiet rfl (failsOnly_ok a)

/-- Runs one after the other: what comes first is passed over first. -/
theorem bind {later : List QueryError} {next next' : α → Traced QueryError β}
    (first : Hardens expected strict lenient)
    (following : ∀ a, lenient.result = .ok a → Hardens later (next a) (next' a)) :
    Hardens (expected ++ later) (strict >>= next) (lenient >>= next') := by
  cases ended : lenient.result with
  | error error =>
    -- Nothing follows, so there may be more that neither run gets to.
    have refusals := Traced.refusals_bind_error next' ended
    refine ⟨?result, ?settled, ?passes, ?whole⟩
    case result =>
      rw [refusals, Traced.result_bind, Traced.result_bind, first.result, ended]
      cases lenient.refusals.head? <;> rfl
    case settled =>
      rw [Traced.result_bind, ended]
      exact failsOnly_error (first.settled error ended)
    case passes =>
      rw [refusals]
      exact first.passes.trans (List.prefix_append _ _)
    case whole =>
      intro b finished
      rw [Traced.result_bind, ended] at finished
      cases finished
  | ok a =>
    have second := following a ended
    have refusals := Traced.refusals_bind_ok next' ended
    rw [first.whole a ended] at refusals
    refine ⟨?result, ?settled, ?passes, ?whole⟩
    case result =>
      rw [refusals, Traced.result_bind, Traced.result_bind, first.result, first.whole a ended,
        ended]
      cases expected with
      | nil => exact second.result
      | cons error rest => rfl
    case settled =>
      rw [Traced.result_bind, ended]
      exact second.settled
    case passes =>
      rw [refusals]
      exact (List.prefix_append_right_inj _).mpr second.passes
    case whole =>
      intro b finished
      rw [Traced.result_bind, ended] at finished
      rw [refusals, second.whole b finished]

theorem map (first : Hardens expected strict lenient) (change : α → β) :
    Hardens expected (do let a ← strict; return change a)
      (do let a ← lenient; return change a) := by
  rw [← List.append_nil expected]
  exact first.bind fun a _ => pure (change a)

/-- The strict run's own errors are those of what the lenient run passes over first. -/
theorem result_eq_error_iff (hardens : Hardens expected strict lenient) {error : QueryError}
    (unresolved : error.IsUnresolved) :
    strict.result = .error error ↔ lenient.refusals.head? = some error := by
  rw [hardens.result]
  cases first : lenient.refusals.head? with
  | none =>
    constructor
    · intro failed
      exact absurd unresolved (hardens.settled error failed)
    · nofun
  | some refused => simp

theorem result_eq_or (hardens : Hardens expected strict lenient) :
    strict.result = lenient.result ∨
      ∃ error, error.IsUnresolved ∧ strict.result = .error error := by
  rw [hardens.result]
  cases first : lenient.refusals.head? with
  | none => exact Or.inl rfl
  | some refused =>
    have among := List.mem_of_mem_head? first
    exact Or.inr ⟨refused, Traced.isUnresolved_of_mem_refusals among, rfl⟩

end Hardens

/-! ### Fields -/

variable {M : Type}

/-- The configuration, made strict or lenient. -/
def Config.withStrict (config : Config M) (strict : Bool) : Config M :=
  { config with strict }

variable [Schema M] [DecidableEq M] (config : Config M) (strict : Bool)

omit [Schema M] in
theorem Config.mapping_withStrict (model : M) :
    (config.withStrict strict).mapping model = config.mapping model :=
  rfl

theorem Resolve.walkSegments_withStrict (model : M) (segments : List String) :
    walkSegments (config.withStrict strict) model segments =
      walkSegments config model segments := by
  induction segments generalizing model with
  | nil => rfl
  | cons segment rest ih => simp only [walkSegments, walkSegment, Config.mapping_withStrict, ih]

/-- Strict or not, a property stands for the same field. -/
theorem resolve_withStrict (model : M) (property : String) :
    resolve (config.withStrict strict) model property = resolve config model property := by
  simp only [resolve, Resolve.walkSegments_withStrict]
  rfl

@[simp] theorem Compile.visible?_withStrict (scope : Scope M) (property : String) :
    visible? (config.withStrict strict) scope property = visible? config scope property := by
  cases scope with
  | element type => rfl
  | model model => simp only [visible?, resolve_withStrict]

@[simp] theorem OrderCompile.orderable?_withStrict (model : M) (property : String) :
    orderable? (config.withStrict strict) model property = orderable? config model property := by
  simp only [orderable?, resolve_withStrict]

/-! ### Filters -/

namespace Compile

open ListQuery.Filter (Operator Quantifier)

omit [DecidableEq M] in
theorem constant_failsOnly (property : String) (type : FieldType M) (convert : Option Converter)
    (foldCase : Bool) (raw : Option String) :
    FailsOnly QueryError.IsMisuse (constant property type convert foldCase raw) := by
  simp only [constant]
  split
  · exact failsOnly_ok _
  · exact failsOnly_error trivial

omit [DecidableEq M] in
theorem constants_failsOnly (property : String) (type : FieldType M) (convert : Option Converter)
    (foldCase : Bool) (raw : List (Option String)) :
    FailsOnly QueryError.IsMisuse (constants property type convert foldCase raw) := by
  induction raw with
  | nil => exact failsOnly_ok _
  | cons literal rest ih =>
    rw [constants]
    split
    · rename_i error failed
      exact failsOnly_error (constant_failsOnly _ _ _ _ _ error failed)
    · split
      · exact failsOnly_ok _
      · rename_i error failed
        exact failsOnly_error (ih error failed)

omit [DecidableEq M] in
theorem scalarClause_failsOnly (property : String) (path : FieldPath) (type : FieldType M)
    (convert : Option Converter) (caseInsensitive : Bool) (operator : Operator)
    (raw : List (Option String)) :
    FailsOnly QueryError.IsMisuse
      (scalarClause property path type convert caseInsensitive operator raw) := by
  simp only [scalarClause]
  split
  · exact failsOnly_error trivial
  · split
    · exact (constants_failsOnly _ _ _ _ _).map _
    · exact (constant_failsOnly _ _ _ _ _).map _
    · split
      · exact failsOnly_ok _
      · exact failsOnly_error trivial
      · rename_i error failed
        exact failsOnly_error (constant_failsOnly _ _ _ _ _ error failed)
    · exact failsOnly_error trivial

omit [DecidableEq M] in
theorem condition_failsOnly (property : String) (target : Target M) (caseInsensitive : Bool)
    (operator : Operator) (raw : List (Option String)) :
    FailsOnly QueryError.IsMisuse (condition property target caseInsensitive operator raw) := by
  unfold condition
  split
  · rename_i hook _
    cases hook target.path raw operator with
    | ok p => exact failsOnly_ok p
    | error rejection => exact failsOnly_error trivial
  · unfold fieldClause
    split
    · exact failsOnly_error trivial
    · exact failsOnly_error trivial
    · exact (scalarClause_failsOnly _ _ _ _ _ _ _).map _
    · exact scalarClause_failsOnly _ _ _ _ _ _ _

omit [Schema M] [DecidableEq M] in
theorem hardens_dropped {α : Type} (property : String) (reason reason' : PassedOver) :
    Hardens [.unresolvedFilter property]
      (dropped (config.withStrict true) property reason : Traced QueryError (Option α))
      (dropped (config.withStrict false) property reason') where
  result := rfl
  settled := failsOnly_ok none
  passes := List.prefix_rfl
  whole _ _ := rfl

/-- The properties of clauses and collections that are unknown or ignored in their scopes, from the
left. A collection that is passed over is not looked into. -/
def unresolved (config : Config M) : Scope M → Filter → List String
  | scope, .clause property _ _ _ _ =>
    match visible? config scope property with
    | none => [property]
    | some _ => []
  | scope, .collection property inner _ _ =>
    match visible? config scope property with
    | none => [property]
    | some target =>
      match target.type.element? with
      | none => []
      | some element => unresolved config (elementScope element) inner
  | scope, .and left right _ | scope, .or left right _ =>
    unresolved config scope left ++ unresolved config scope right

/-- A strict configuration stops a filter at its first property that is unknown or ignored. -/
theorem hardens_filter (scope : Scope M) (f : Filter) :
    Hardens ((unresolved config scope f).map .unresolvedFilter)
      (filter (config.withStrict true) scope f) (filter (config.withStrict false) scope f) := by
  induction f generalizing scope with
  | clause property operator raw negated caseInsensitive =>
    cases found : visible? config scope property with
    | none =>
      obtain ⟨reason, same⟩ := clause_of_hidden
        ((visible?_withStrict config true scope property).trans found) operator raw negated
        caseInsensitive
      obtain ⟨reason', same'⟩ := clause_of_hidden
        ((visible?_withStrict config false scope property).trans found) operator raw negated
        caseInsensitive
      rw [filter, filter, same, same', unresolved, found]
      exact hardens_dropped config property reason reason'
    | some target =>
      have same (strict : Bool) := clause_of_visible
        ((visible?_withStrict config strict scope property).trans found) operator raw negated
        caseInsensitive
      rw [filter, filter, same, same, unresolved, found]
      refine .of_quiet ?_ ?_
      · unfold told
        split <;> rfl
      · exact ((condition_failsOnly _ _ _ _ _).map _).mono
          QueryError.not_isUnresolved_of_isMisuse
  | collection property inner quantifier negated ih =>
    cases found : visible? config scope property with
    | none =>
      obtain ⟨reason, same⟩ := collection_of_hidden
        ((visible?_withStrict config true scope property).trans found) inner quantifier negated
      obtain ⟨reason', same'⟩ := collection_of_hidden
        ((visible?_withStrict config false scope property).trans found) inner quantifier negated
      rw [same, same', unresolved, found]
      exact hardens_dropped config property reason reason'
    | some target =>
      have same (strict : Bool) := collection_of_visible
        ((visible?_withStrict config strict scope property).trans found) inner quantifier negated
      rw [same, same, unresolved, found]
      dsimp only
      cases target.type.element? with
      | none => exact .of_quiet rfl (failsOnly_error id)
      | some element => exact (ih (elementScope element)).map _
  | and left right negated ihLeft ihRight | or left right negated ihLeft ihRight =>
    rw [filter, filter, unresolved, List.map_append]
    exact (ihLeft scope).bind fun _ _ => (ihRight scope).map _

end Compile

/-- The errors that a strict configuration can make of a filter text. -/
def unresolvedFilters (config : Config M) (model : M) (text : String) : List QueryError :=
  match Filter.parse text with
  | .ok (some f) => (Compile.unresolved config (.model model) f).map .unresolvedFilter
  | _ => []

theorem hardens_compileFilter (model : M) (text : String) :
    Hardens (unresolvedFilters config model text)
      (compileFilter (config.withStrict true) model text)
      (compileFilter (config.withStrict false) model text) := by
  have read : Hardens [] (.ofExcept (Filter.parse text)) (.ofExcept (Filter.parse text)) :=
    .of_quiet rfl ((Filter.parse_failsOnly text).mono QueryError.not_isUnresolved_of_isFault)
  rw [← List.nil_append (unresolvedFilters config model text)]
  refine read.bind fun parsed same => ?_
  change Filter.parse text = .ok parsed at same
  rw [unresolvedFilters, same]
  cases parsed with
  | none => exact .pure none
  | some f => exact Compile.hardens_filter config (.model model) f

/-! ### Orders -/

namespace OrderCompile

omit [Schema M] [DecidableEq M] in
theorem hardens_skipped (property : String) (reason reason' : PassedOver) :
    Hardens [.unresolvedOrdering property] (skipped (config.withStrict true) property reason)
      (skipped (config.withStrict false) property reason') where
  result := rfl
  settled := failsOnly_ok ()
  passes := List.prefix_rfl
  whole _ _ := rfl

/-- The properties of entries that cannot be sorted by, from the left. -/
def unresolved (config : Config M) (model : M) (entries : List OrderBy.Entry) : List String :=
  (entries.map (·.property)).filter fun property => (orderable? config model property).isNone

theorem hardens_collect (model : M) (plan : SortPlan) (deferred : List Deferred)
    (entries : List OrderBy.Entry) :
    Hardens ((unresolved config model entries).map .unresolvedOrdering)
      (collect (config.withStrict true) model plan deferred entries)
      (collect (config.withStrict false) model plan deferred entries) := by
  induction entries generalizing plan deferred with
  | nil => exact .pure _
  | cons entry rest ih =>
    cases found : orderable? config model entry.property with
    | none =>
      obtain ⟨reason, same⟩ := collect_of_hidden plan deferred rest
        ((orderable?_withStrict config true model entry.property).trans found)
      obtain ⟨reason', same'⟩ := collect_of_hidden plan deferred rest
        ((orderable?_withStrict config false model entry.property).trans found)
      have first : unresolved config model (entry :: rest) =
          entry.property :: unresolved config model rest :=
        List.filter_cons_of_pos (by rw [found]; rfl)
      rw [same, same', first]
      exact (hardens_skipped config entry.property reason reason').bind fun _ _ => ih plan deferred
    | some resolved =>
      have same (strict : Bool) := collect_of_orderable plan deferred rest
        ((orderable?_withStrict config strict model entry.property).trans found)
      have first : unresolved config model (entry :: rest) = unresolved config model rest :=
        List.filter_cons_of_neg (by rw [found]; nofun)
      rw [same, same, first]
      cases resolved.customSort with
      | none => exact ih _ _
      | some hook => exact ih _ _

/-- Hooks only ever tell that they run. -/
theorem hardens_runHooks (plan : SortPlan) (deferred : List Deferred) :
    Hardens [] (runHooks plan deferred) (runHooks plan deferred) := by
  induction deferred generalizing plan with
  | nil => exact .pure plan
  | cons hook rest ih =>
    have told : Hardens [] (.tell (.customSort hook.ascending plan.isOrdered))
        (.tell (.customSort hook.ascending plan.isOrdered)) := .of_quiet rfl (failsOnly_ok ())
    exact told.bind fun _ _ => ih _

end OrderCompile

/-- The errors that a strict configuration can make of an order-by text. -/
def unresolvedOrderings (config : Config M) (model : M) (text : String) : List QueryError :=
  (OrderCompile.unresolved config model (OrderBy.parse text)).map .unresolvedOrdering

theorem hardens_compileOrder (model : M) (text : String) :
    Hardens (unresolvedOrderings config model text)
      (compileOrder (config.withStrict true) model text)
      (compileOrder (config.withStrict false) model text) := by
  rw [← List.append_nil (unresolvedOrderings config model text)]
  exact (OrderCompile.hardens_collect config model {} [] (OrderBy.parse text)).bind
    fun _ _ => OrderCompile.hardens_runHooks _ _

/-! ### Queries -/

/-- The errors that a strict configuration can make of a query: those of its filter from the left,
then those of its order. -/
def Query.unresolved (config : Config M) (model : M) (query : Query) : List QueryError :=
  unresolvedFilters config model query.filter ++ unresolvedOrderings config model query.orderBy

theorem Plan.hardens_compile (model : M) (query : Query) :
    Hardens (query.unresolved config model) (Plan.compile (config.withStrict true) model query)
      (Plan.compile (config.withStrict false) model query) :=
  (hardens_compileFilter config model query.filter).bind fun _ _ =>
    (hardens_compileOrder config model query.orderBy).map _

/-- A lenient configuration knows no unresolved properties. A strict one ends as it does or in an
error that names one, and that is the first property that the lenient run passes over before it
ends: of the filter's from the left, then of the order's from the left. -/
theorem strict_compile_stops_at_first_unresolved (config : Config M) (model : M) (query : Query) :
    (∀ error, (Plan.compile (config.withStrict false) model query).result = .error error →
      ¬ error.IsUnresolved) ∧
    ((Plan.compile (config.withStrict true) model query).result =
        (Plan.compile (config.withStrict false) model query).result ∨
      ∃ error, error.IsUnresolved ∧
        (Plan.compile (config.withStrict true) model query).result = .error error) ∧
    (∀ error, error.IsUnresolved →
      ((Plan.compile (config.withStrict true) model query).result = .error error ↔
        (Plan.compile (config.withStrict false) model query).refusals.head? = some error)) ∧
    (Plan.compile (config.withStrict false) model query).refusals <+:
      query.unresolved config model ∧
    ∀ plan, (Plan.compile (config.withStrict false) model query).result = .ok plan →
      (Plan.compile (config.withStrict false) model query).refusals =
        query.unresolved config model := by
  have hardens := Plan.hardens_compile config model query
  exact ⟨hardens.settled, hardens.result_eq_or,
    fun _ unresolved => hardens.result_eq_error_iff unresolved, hardens.passes, hardens.whole⟩

/-- A property that lines do not have, inside a collection of them, comes before an order by the
lines, which have none. -/
theorem strict_compile_stops_inside_lines :
    (Plan.compile (({} : Config Sample.Model).withStrict false) .order
        { filter := "id==1&lines(nope==2|qty>3)", orderBy := "total,lines" }).refusals =
      [.unresolvedFilter "nope", .unresolvedOrdering "lines"] ∧
    (Plan.compile (({} : Config Sample.Model).withStrict true) .order
        { filter := "id==1&lines(nope==2|qty>3)", orderBy := "total,lines" }).result =
      .error (.unresolvedFilter "nope") := by
  have parsed : Filter.parse "id==1&lines(nope==2|qty>3)" =
      .ok (some (.and (.clause "id" .equal [some "1"] false false)
        (.collection "lines"
          (.or (.clause "nope" .equal [some "2"] false false)
            (.clause "qty" .greater [some "3"] false false) false) .any false) false)) := by
    decide +kernel
  have entries : OrderBy.parse "total,lines" = [⟨"total", true⟩, ⟨"lines", true⟩] := by
    decide +kernel
  have answered : (Plan.compile (({} : Config Sample.Model).withStrict false) .order
      { filter := "id==1&lines(nope==2|qty>3)", orderBy := "total,lines" }).result =
      .ok ⟨some (.and (.compare ⟨["id"], false⟩ .eq (.int 1))
        (.any ["lines"] (.compare ⟨["qty"], false⟩ .gt (.int 3)))),
        ⟨[⟨.field ["total"], true⟩]⟩, {}⟩ := by
    rw [Plan.compile, Traced.result_bind, compileFilter_result parsed, compileOrder, entries]
    rfl
  have named : ({ filter := "id==1&lines(nope==2|qty>3)", orderBy := "total,lines" } :
      Query).unresolved ({} : Config Sample.Model) .order =
      [.unresolvedFilter "nope", .unresolvedOrdering "lines"] := by
    rw [Query.unresolved, unresolvedFilters, unresolvedOrderings, parsed, entries]
    rfl
  obtain ⟨-, -, stops, -, whole⟩ := strict_compile_stops_at_first_unresolved
    ({} : Config Sample.Model) .order
    { filter := "id==1&lines(nope==2|qty>3)", orderBy := "total,lines" }
  have refusals := (whole _ answered).trans named
  refine ⟨refusals, (stops (.unresolvedFilter "nope") trivial).mpr ?_⟩
  rw [refusals]
  rfl

end ListQuery
