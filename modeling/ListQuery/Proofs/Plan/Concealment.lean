import ListQuery.Proofs.Compile.Reading
import ListQuery.Proofs.Plan.Positions
import ListQuery.Proofs.Schema.Records
import ListQuery.Sample.Models

/-! Fields that a model ignores for filtering and for sorting cannot be probed. Records that differ
in such fields alone, at any depth, meet the same conditions and stand the same way in the order,
since no path of a plan leads to one of these fields; so a query keeps the same positions whatever
the fields hold. -/

namespace ListQuery

/-! ### Values in pairs -/

section Pairs
variable {R S : Value → Value → Prop} {a b : Option Value}

theorem rel_cases (found : Option.Rel R a b) :
    (a = none ∧ b = none) ∨ ∃ v w, a = some v ∧ b = some w ∧ R v w := by
  cases found with
  | none => exact Or.inl ⟨rfl, rfl⟩
  | some related => exact Or.inr ⟨_, _, rfl, rfl, related⟩

theorem rel_bind {f g : Value → Option Value} (found : Option.Rel R a b)
    (next : ∀ v w, R v w → Option.Rel S (f v) (g w)) :
    Option.Rel S (a.bind f) (b.bind g) := by
  cases found with
  | none => exact .none
  | some related => exact next _ _ related

variable {test : Value → Bool} {items items' : List Value}

theorem any_eq_of_forall₂ (same : ∀ a b, R a b → test a = test b)
    (related : List.Forall₂ R items items') : items.any test = items'.any test := by
  have tested := congrArg (List.any · id) (map_eq_of_forall₂ same related)
  simpa only [List.any_map, Function.id_comp] using tested

theorem all_eq_of_forall₂ (same : ∀ a b, R a b → test a = test b)
    (related : List.Forall₂ R items items') : items.all test = items'.all test := by
  have tested := congrArg (List.all · id) (map_eq_of_forall₂ same related)
  simpa only [List.all_map, Function.id_comp] using tested

end Pairs

variable {M : Type} [Schema M] [DecidableEq M] {config : Config M}

/-! ### Values that differ in concealed fields -/

/-- A field that its model ignores for filtering and for sorting. A record is not concealed as a
whole: its own fields can still be reached through it. -/
structure Concealed (config : Config M) (model : M) (field : Field M) : Prop where
  notRecord : ∀ next, field.type ≠ .record next
  filterIgnored : (config.mapping model).ignoresFilter field.name = true
  sortIgnored : (config.mapping model).ignoresSort field.name = true

/-- Two values of a type that differ in concealed fields alone, at any depth. -/
inductive Alike (config : Config M) : FieldType M → Value → Value → Prop where
  | same {type : FieldType M} {v : Value} : Alike config type v v
  | list {element : FieldType M} {items items' : List Value}
      (length : items.length = items'.length)
      (each : ∀ pair ∈ items.zip items', Alike config element pair.1 pair.2) :
      Alike config (.list element) (.list items) (.list items')
  | record {model : M} {held held' : List (String × Value)}
      (present : ∀ name field, Schema.declared? model name = some field →
        ¬ Concealed config model field →
          (Value.fieldOf? name held).isSome = (Value.fieldOf? name held').isSome)
      (each : ∀ name field, Schema.declared? model name = some field →
        ¬ Concealed config model field → ∀ a b, Value.fieldOf? name held = some a →
          Value.fieldOf? name held' = some b → Alike config field.type a b) :
      Alike config (.record model) (.record held) (.record held')

namespace Alike

variable {type element : FieldType M} {v w : Value}

theorem rel_same (found : Option Value) : Option.Rel (Alike config type) found found := by
  cases found with
  | none => exact .none
  | some v => exact .some .same

theorem forall₂ {items items' : List Value}
    (alike : Alike config (.list element) (.list items) (.list items')) :
    List.Forall₂ (Alike config element) items items' := by
  cases alike with
  | same => exact List.forall₂_same.mpr fun _ _ => .same
  | list length each => exact List.forall₂_iff_zip.mpr ⟨length, fun among => each _ among⟩

/-- A field that is shown holds values that are alike, or none in both records. -/
theorem fieldOf? {model : M} {held held' : List (String × Value)}
    (alike : Alike config (.record model) (.record held) (.record held')) {name : String}
    {field : Field M} (declared : Schema.declared? model name = some field)
    (shown : ¬ Concealed config model field) :
    Option.Rel (Alike config field.type) (Value.fieldOf? name held)
      (Value.fieldOf? name held') := by
  cases alike with
  | same => exact rel_same _
  | record present each =>
    have both := present name field declared shown
    have values := each name field declared shown
    cases first : Value.fieldOf? name held <;> cases second : Value.fieldOf? name held' <;>
      rw [first, second] at both
    · exact .none
    · cases both
    · cases both
    · exact .some (values _ _ first second)

/-- Records are alike that hold the same names with values that are alike where they are shown. -/
theorem record_of_forall₂ {model : M} {held held' : List (String × Value)}
    (fields : List.Forall₂ (fun one other => one.1 = other.1 ∧
      ∀ field, Schema.declared? model one.1 = some field → ¬ Concealed config model field →
        Alike config field.type one.2 other.2) held held') :
    Alike config (.record model) (.record held) (.record held') := by
  have found : ∀ name field, Schema.declared? model name = some field →
      ¬ Concealed config model field →
        Option.Rel (Alike config field.type) (Value.fieldOf? name held)
          (Value.fieldOf? name held') := by
    intro name field declared shown
    induction fields with
    | nil => exact .none
    | @cons one other _ _ head _ ih =>
      rw [Value.fieldOf?, Value.fieldOf?, ← head.1]
      split
      · rename_i same
        exact .some (head.2 field (same ▸ declared) shown)
      · exact ih
  refine .record (fun name field declared shown => ?_) (fun name field declared shown a b => ?_)
  · rcases rel_cases (found name field declared shown) with
      ⟨first, second⟩ | ⟨a, b, first, second, -⟩ <;> simp [first, second]
  · intro first second
    have related := found name field declared shown
    rw [first, second] at related
    cases related with
    | some alike => exact alike

/-- A path to a field that is shown finds values that are alike, or none in both. -/
theorem lookup? {root owner : M} {path : FieldPath} {last : Field M}
    (leads : Schema.Leads root path owner last) (shown : ¬ Concealed config owner last)
    (alike : Alike config (.record root) v w) :
    Option.Rel (Alike config last.type) (v.lookup? path) (w.lookup? path) := by
  induction leads generalizing v w with
  | last declared =>
    cases alike with
    | same => exact rel_same _
    | record present each =>
      have found := (Alike.record present each).fieldOf? declared shown
      rw [Value.lookup?_record, Value.lookup?_record]
      exact rel_bind found fun _ _ alike => .some alike
  | through declared record later ih =>
    cases alike with
    | same => exact rel_same _
    | record present each =>
      have found := (Alike.record present each).fieldOf? declared
        fun concealed => concealed.notRecord _ record
      rw [record] at found
      rw [Value.lookup?_record, Value.lookup?_record]
      exact rel_bind found fun _ _ alike => ih shown alike

/-- A scope's path finds values that are alike. -/
theorem lookup?_scope {scope : Scope M} {path : FieldPath} (leads : scope.Leads config path type)
    (alike : Alike config scope.type v w) :
    Option.Rel (Alike config type) (v.lookup? path) (w.lookup? path) := by
  cases leads with
  | field leads byRoot byOwner =>
    refine alike.lookup? leads fun concealed => ?_
    rw [concealed.filterIgnored] at byOwner
    cases byOwner
  | element => exact .some alike

theorem operand? {scope : Scope M} {operand : Operand}
    (leads : scope.Leads config operand.path type) (alike : Alike config scope.type v w) :
    Option.Rel (Alike config type) (v.operand? operand) (w.operand? operand) := by
  unfold Value.operand?
  rcases rel_cases (alike.lookup?_scope leads) with
    ⟨first, second⟩ | ⟨a, b, first, second, alike⟩ <;> rw [first, second]
  · exact .none
  · cases alike with
    | same => exact .some .same
    | list length each => exact .some (.list length each)
    | record present each => exact .some (.record present each)

/-- Lists and records are like no constant, whatever they hold. -/
theorem comparison (alike : Alike config type v w) (comparison : Comparison) (constant : Scalar) :
    comparison.holds v constant = comparison.holds w constant := by
  cases alike with
  | same => rfl
  | list | record => cases comparison <;> cases constant <;> rfl

/-- Values of a type with an order of its own differ in nothing. -/
theorem eq_of_sortable (sortable : type.isSortable = true) (alike : Alike config type v w) :
    v = w := by
  cases alike with
  | same => rfl
  | list | record => cases sortable

end Alike

/-! ### Conditions and keys -/

/-- Values that are alike meet the same conditions, as far as these stay within the scope. -/
theorem Predicate.Within.holds_eq {fits : FieldType M → Operand → List Scalar → Prop}
    {scope : Scope M} {p : Predicate} (within : p.Within config fits scope) {v w : Value}
    (alike : Alike config scope.type v w) : p.holds v = p.holds w := by
  induction p generalizing scope v w with
  | compare operand comparison constant =>
    obtain ⟨type, leads, -⟩ := within
    rcases rel_cases (alike.operand? leads) with
      ⟨first, second⟩ | ⟨a, b, first, second, alike⟩ <;> rw [holds, holds, first, second]
    exact alike.comparison comparison constant
  | oneOf operand constants =>
    obtain ⟨type, leads, -⟩ := within
    rcases rel_cases (alike.operand? leads) with
      ⟨first, second⟩ | ⟨a, b, first, second, alike⟩ <;> rw [holds, holds, first, second]
    exact congrArg constants.any (funext (alike.comparison .eq))
  | text operand position pattern =>
    rcases rel_cases (alike.operand? within.1) with
      ⟨first, second⟩ | ⟨a, b, first, second, alike⟩ <;> rw [holds, holds, first, second]
    rw [alike.eq_of_sortable rfl]
  | any path inner ih =>
    obtain ⟨element, leads, inside⟩ := within
    have each (a b : Value) (alike : Alike config element a b) : inner.holds a = inner.holds b :=
      ih inside (by rwa [Scope.type_elementScope])
    rcases rel_cases (alike.lookup?_scope leads) with
      ⟨first, second⟩ | ⟨a, b, first, second, alike⟩ <;> rw [holds, holds, first, second]
    cases alike with
    | same => rfl
    | list length items => exact any_eq_of_forall₂ each (Alike.list length items).forall₂
  | all path inner ih =>
    obtain ⟨element, leads, inside⟩ := within
    have each (a b : Value) (alike : Alike config element a b) : inner.holds a = inner.holds b :=
      ih inside (by rwa [Scope.type_elementScope])
    rcases rel_cases (alike.lookup?_scope leads) with
      ⟨first, second⟩ | ⟨a, b, first, second, alike⟩ <;> rw [holds, holds, first, second]
    cases alike with
    | same => rfl
    | list length items => exact all_eq_of_forall₂ each (Alike.list length items).forall₂
  | and left right ihLeft ihRight =>
    rw [holds, holds, ihLeft within.1 alike, ihRight within.2 alike]
  | or left right ihLeft ihRight =>
    rw [holds, holds, ihLeft within.1 alike, ihRight within.2 alike]
  | not inner ih => rw [holds, holds, ih within alike]
  | native => exact within.elim

section Keys
variable {root : M} {a b a' b' : Value}

/-- Records that are alike have the same key, where the key is read from a field that is shown. -/
theorem SortTarget.Leads.key_eq {target : SortTarget} (leads : target.Leads config root)
    (alike : Alike config (.record root) a b) : target.key a = target.key b := by
  cases leads with
  | field leads sortable byRoot byOwner =>
    have found := alike.lookup? leads fun concealed => by
      rw [concealed.sortIgnored] at byOwner
      cases byOwner
    rcases rel_cases found with ⟨first, second⟩ | ⟨v, w, first, second, alike⟩ <;>
      rw [key, key, first, second]
    rw [alike.eq_of_sortable sortable]

theorem SortPlan.order_eq {plan : SortPlan}
    (leads : ∀ key ∈ plan.keys, key.target.Leads config root)
    (first : Alike config (.record root) a a') (second : Alike config (.record root) b b') :
    plan.order a b = plan.order a' b' := by
  refine List.foldr_ext _ _ _ fun key among later => ?_
  have target := leads key among
  rw [SortKey.order, SortKey.order, target.key_eq first, target.key_eq second]

end Keys

/-! ### Queries -/

open Compile (WithoutFilterHooks)
open OrderCompile (WithoutSortHooks)

/-- Without hooks of its own a query reads no field that is ignored for the use that it makes of it:
neither in a condition, at any depth of its collections, nor in a sort key. On lists of records that
differ in concealed fields alone it therefore keeps the same positions in the same order. -/
theorem concealed_fields_cannot_be_probed {model : M} {query : Query} {plan : Plan}
    (filterPlain : WithoutFilterHooks config) (sortPlain : WithoutSortHooks config)
    (compiled : (Plan.compile config model query).result = .ok plan) :
    (∀ p, plan.filter = some p → p.Within config (fun _ _ _ => True) (.model model)) ∧
      (∀ key ∈ plan.ordering.keys, key.target.Leads config model) ∧
      ∀ {α β : Type} [Record α] [Record β] (rows : List α) (rows' : List β),
        List.Forall₂ (fun a b => Alike config (.record model) (Record.value a) (Record.value b))
          rows rows' → plan.positions rows = plan.positions rows' := by
  obtain ⟨filter, ordering, filtered, ordered, rfl⟩ := Traced.result_join_eq_ok.mp compiled
  have within : ∀ p, filter = some p → p.Within config (fun _ _ _ => True) (.model model) := by
    rintro p rfl
    obtain ⟨f, -, made⟩ := compileFilter_eq_ok_some filtered
    exact Compile.within_of_filter filterPlain (fun _ _ _ _ _ _ _ => trivial) made
  have leads := leads_of_compileOrder sortPlain ordered
  refine ⟨within, leads, fun rows rows' alike => ?_⟩
  have kept := Plan.apply_rel ⟨filter, ordering, .ofNumbers query.offset query.limit⟩
    (fun p accepts a a' same => (within p accepts).holds_eq same.2)
    (fun a b a' b' first second => SortPlan.order_eq leads first.2 second.2)
    (forall₂_placed alike)
  exact map_eq_of_forall₂ (fun a b same => same.1) kept

/-- Orders whose lines keep their quantity to themselves, under its own name and under another. -/
def withoutQuantities : Config Sample.Model where
  mappings := [(.line,
    { aliases := [("count", ⟨"qty", none⟩)], filterIgnored := ["qty"], sortIgnored := ["qty"] })]

/-- An order of one line. -/
def orderOf (id quantity : Int64) : Value :=
  .record [("id", .int id), ("total", .null), ("status", .text "open"), ("placed", .null),
    ("lines", .list [.record [("sku", .text "a"), ("qty", .int quantity), ("price", .null)]]),
    ("customer", .null)]

/-- Orders of one number differ in a concealed field. -/
theorem orderOf_alike (id quantity quantity' : Int64) :
    Alike withoutQuantities (.record Sample.Model.order) (orderOf id quantity)
      (orderOf id quantity') := by
  have line : Alike withoutQuantities (.record Sample.Model.line)
      (.record [("sku", .text "a"), ("qty", .int quantity), ("price", .null)])
      (.record [("sku", .text "a"), ("qty", .int quantity'), ("price", .null)]) := by
    refine Alike.record_of_forall₂ (.cons ⟨rfl, fun _ _ _ => .same⟩ (.cons ⟨rfl, ?_⟩
      (.cons ⟨rfl, fun _ _ _ => .same⟩ .nil)))
    intro field declared shown
    cases declared
    exact absurd ⟨nofun, by decide +kernel, by decide +kernel⟩ shown
  refine Alike.record_of_forall₂ (.cons ⟨rfl, fun _ _ _ => .same⟩ (.cons ⟨rfl, fun _ _ _ => .same⟩
    (.cons ⟨rfl, fun _ _ _ => .same⟩ (.cons ⟨rfl, fun _ _ _ => .same⟩ (.cons ⟨rfl, ?_⟩
      (.cons ⟨rfl, fun _ _ _ => .same⟩ .nil))))))
  intro field declared shown
  cases declared
  exact .list rfl (List.forall_mem_singleton.mpr line)

theorem line_quantities_cannot_be_probed :
    ∃ plan, WithoutFilterHooks withoutQuantities ∧ WithoutSortHooks withoutQuantities ∧
      (Plan.compile withoutQuantities Sample.Model.order
        { filter := "lines(Count>3|sku=='a')", orderBy := "-Id,lines" }).result = .ok plan ∧
      plan.positions [orderOf 1 2, orderOf 2 9] = plan.positions [orderOf 1 7, orderOf 2 0] := by
  have parsed : Filter.parse "lines(Count>3|sku=='a')" =
      .ok (some (.collection "lines"
        (.or (.clause "Count" .greater [some "3"] false false)
          (.clause "sku" .equal [some "a"] false false) false) .any false)) := by
    decide +kernel
  have entries : OrderBy.parse "-Id,lines" = [⟨"Id", false⟩, ⟨"lines", true⟩] := by
    decide +kernel
  have compiled : (Plan.compile withoutQuantities Sample.Model.order
      { filter := "lines(Count>3|sku=='a')", orderBy := "-Id,lines" }).result =
      .ok ⟨some (.any ["lines"] (.compare ⟨["sku"], false⟩ .eq (.text "a"))),
        ⟨[⟨.field ["id"], false⟩]⟩, {}⟩ := by
    rw [Plan.compile, Traced.result_bind, compileFilter_result parsed, compileOrder, entries]
    rfl
  have filterPlain : WithoutFilterHooks withoutQuantities := by
    intro model property
    cases model <;> rfl
  have sortPlain : WithoutSortHooks withoutQuantities := by
    intro model property
    cases model <;> rfl
  obtain ⟨-, -, same⟩ := concealed_fields_cannot_be_probed filterPlain sortPlain compiled
  refine ⟨_, filterPlain, sortPlain, compiled, same _ _ ?_⟩
  exact .cons (orderOf_alike 1 2 7) (.cons (orderOf_alike 2 9 0) .nil)

end ListQuery
