import ListQuery.Proofs.Compile.Outcome
import ListQuery.Proofs.Sql.Agreement
import ListQuery.Sql.Compile

/-! Which plans have SQL. A plan makes demands, which stand in it from the left to the right: on
the database, for a table of each collection and for a column of each operand, and on the language,
for a form of its tests and keys. A plan is refused at the first demand that is not met, however
its disjunctions are written. -/

namespace ListQuery.Sql

/-! ### Demands -/

/-- What a plan asks for. -/
inductive Demand where
  /-- A test given by the program. -/
  | native (name : String)
  /-- The table of a collection, by its dotted key. -/
  | collection (key : String)
  /-- The column of an operand, in a collection or outside of all. -/
  | operand (inCollection : Bool) (path : FieldPath)
  /-- A column to order by. -/
  | sortKey (target : SortTarget)

/-- The dotted key of a collection: its path, after the key of the collection around it. -/
def keyAfter (outer : Option String) (path : FieldPath) : String :=
  match outer with
  | none => path.dotted
  | some key => if key.isEmpty then path.dotted else key ++ "." ++ path.dotted

/-- What a predicate asks for, from the left; a collection comes before its elements. -/
def demands (outer : Option String) : Predicate → List Demand
  | .compare operand _ _ | .oneOf operand _ | .text operand _ _ =>
    [.operand outer.isSome operand.path]
  | .any path inner | .all path inner =>
    .collection (keyAfter outer path) :: demands (some (keyAfter outer path)) inner
  | .and left right | .or left right => demands outer left ++ demands outer right
  | .not inner => demands outer inner
  | .native test => [.native test.name]

/-- What the filter of a plan asks for. -/
def filterDemands (plan : Plan) : List Demand :=
  (plan.filter.map (demands none)).getD []

/-- What a plan asks for: the filter comes before the ordering. -/
def planDemands (plan : Plan) : List Demand :=
  filterDemands plan ++ plan.ordering.keys.map fun key => .sortKey key.target

/-- The error of a demand that is not met. -/
def refusal? (catalog : Catalog) : Demand → Option SqlError
  | .native name => some (.nativePredicate name)
  | .collection key =>
    if (catalog.collections.get? key).isSome then none else some (.unmappedCollection key)
  | .operand inCollection path =>
    if path.isEmpty && !inCollection then some .elementOutsideCollection else none
  | .sortKey (.computed computed) => some (.computedSortKey computed.name)
  | .sortKey (.field _) => none

/-! ### Failures -/

section Failures
variable {ε α β : Type}

/-- The error of a result that is one. -/
def failure? : Except ε α → Option ε
  | .ok _ => none
  | .error error => some error

theorem failure?_eq_none_iff {result : Except ε α} :
    failure? result = none ↔ ∃ a, result = .ok a := by
  cases result <;> simp [failure?]

/-- Of two steps the first one that fails counts. -/
theorem failure?_bind {first : Except ε α} {next : α → Except ε β} {later : Option ε}
    (after : ∀ a, failure? (next a) = later) :
    failure? (first >>= next) = (failure? first).or later := by
  cases first with
  | error error => rfl
  | ok a => exact after a

/-- A step that never fails makes no difference. -/
theorem failure?_bind_pure {first : Except ε α} {next : α → Except ε β}
    (after : ∀ a, failure? (next a) = none) : failure? (first >>= next) = failure? first := by
  rw [failure?_bind after, Option.or_none]

theorem failure?_map (result : Except ε α) (change : α → β) :
    failure? (result.map change) = failure? result := by
  cases result <;> rfl

end Failures

/-! ### Conditions -/

variable {catalog : Catalog} {place : Place} {outer : Option String}

/-- A place among the elements of a collection with a key, or outside of all collections. -/
structure Place.Stands (place : Place) (outer : Option String) : Prop where
  key : place.key = outer.getD ""
  element : place.element.isSome = outer.isSome

theorem collectionKey_of_stands (stands : place.Stands outer) (path : FieldPath) :
    collectionKey place path = keyAfter outer path := by
  rw [collectionKey, stands.key]
  cases outer <;> rfl

theorem stands_elementPlace (stands : place.Stands outer) (path : FieldPath)
    (table : CollectionTable) :
    (elementPlace place (collectionKey place path) table).Stands (some (keyAfter outer path)) :=
  ⟨collectionKey_of_stands stands path, rfl⟩

theorem failure?_operandColumn (stands : place.Stands outer) (operand : Operand) :
    failure? (operandColumn place operand) =
      refusal? catalog (.operand outer.isSome operand.path) := by
  rw [← stands.element]
  cases root : operand.path.isEmpty with
  | false => simp [operandColumn, refusal?, root, failure?]
  | true =>
    cases element : place.element <;> simp [operandColumn, refusal?, root, element, failure?]

/-- A disjunction of equalities asks for the columns of its operands. -/
theorem demands_of_equalities? {predicate : Predicate} {pairs : List (Operand × Scalar)}
    (found : equalities? predicate = some pairs) :
    demands outer predicate = pairs.map fun pair => .operand outer.isSome pair.1.path := by
  fun_induction equalities? predicate generalizing pairs with
  | case1 operand scalar => cases found
  | case2 operand scalar =>
    cases found
    rfl
  | case3 left right none => cases found
  | case4 left right first leads ihLeft ihRight =>
    obtain ⟨second, later, rfl⟩ := Option.map_eq_some_iff.mp found
    rw [demands, ihLeft leads, ihRight later, List.map_append]
  | case5 => cases found

/-- A list asks for one column, as does each equality of the disjunction that it stands for. -/
theorem refusal?_of_asList? {threshold : Nat} {predicate : Predicate} {operand : Operand}
    {scalars : List Scalar} (found : asList? threshold predicate = some (operand, scalars)) :
    (demands outer predicate).findSome? (refusal? catalog) =
      refusal? catalog (.operand outer.isSome operand.path) := by
  obtain ⟨nonempty, equalities⟩ := asList?_some found
  have filled : scalars.length ≠ 0 := mt List.length_eq_zero_iff.mp nonempty
  have listed : demands outer predicate =
      List.replicate scalars.length (.operand outer.isSome operand.path) := by
    simp [demands_of_equalities? equalities, Function.comp_def, List.map_const']
  rw [listed, List.findSome?_replicate, if_neg filled]

/-- A collection is asked for before what its elements ask for. -/
theorem failure?_quantified {α : Type} {path : FieldPath} {inner : Predicate}
    {next : CollectionTable → Except SqlError α} (stands : place.Stands outer)
    (elements : ∀ table, failure? (next table) =
      (demands (some (keyAfter outer path)) inner).findSome? (refusal? catalog)) :
    failure? (match catalog.collections.get? (collectionKey place path) with
        | none => .error (.unmappedCollection (collectionKey place path))
        | some table => next table) =
      (demands outer (.any path inner)).findSome? (refusal? catalog) := by
  rw [demands, List.findSome?_cons, collectionKey_of_stands stands, refusal?]
  cases catalog.collections.get? (keyAfter outer path) with
  | none => rfl
  | some table => exact elements table

/-- A condition fails at the first demand of its predicate that is not met. -/
theorem failure?_condition (stands : place.Stands outer) (predicate : Predicate) :
    failure? (condition catalog place predicate) =
      (demands outer predicate).findSome? (refusal? catalog) := by
  induction predicate generalizing place outer with
  | compare operand _ _ | oneOf operand _ | text operand _ _ =>
    rw [condition, failure?_bind_pure fun _ => rfl, demands, List.findSome?_singleton]
    exact failure?_operandColumn stands operand
  | any path inner ih | all path inner ih =>
    rw [condition]
    refine failure?_quantified stands fun table => ?_
    rw [← ih (stands_elementPlace stands path table)]
    exact failure?_bind_pure fun _ => rfl
  | and left right ihLeft ihRight =>
    rw [condition, demands, List.findSome?_append, ← ihLeft stands, ← ihRight stands]
    exact failure?_bind fun _ => failure?_bind_pure fun _ => rfl
  | or left right ihLeft ihRight =>
    rw [condition]
    split
    · rename_i operand scalars listed
      rw [failure?_bind_pure fun _ => rfl, refusal?_of_asList? listed]
      exact failure?_operandColumn stands operand
    · rw [demands, List.findSome?_append, ← ihLeft stands, ← ihRight stands]
      exact failure?_bind fun _ => failure?_bind_pure fun _ => rfl
  | not inner ih =>
    rw [condition, failure?_bind_pure fun _ => rfl, demands]
    exact ih stands
  | native test => rfl

/-! ### Plans -/

variable {plan : Plan} {entity : String}

theorem failure?_planCondition :
    failure? (planCondition catalog plan) = (filterDemands plan).findSome? (refusal? catalog) := by
  unfold planCondition filterDemands
  cases plan.filter with
  | none => rfl
  | some predicate =>
    rw [failure?_bind_pure fun _ => rfl]
    exact failure?_condition ⟨rfl, rfl⟩ predicate

theorem failure?_orderColumns (keys : List SortKey) :
    failure? (orderColumns keys) =
      (keys.map fun key => Demand.sortKey key.target).findSome? (refusal? catalog) := by
  induction keys with
  | nil => rfl
  | cons key rest ih =>
    obtain ⟨target, ascending⟩ := key
    cases target with
    | computed computed => rfl
    | field path =>
      rw [orderColumns, failure?_bind_pure fun _ => rfl, ih]
      rfl

theorem failure?_selectWith :
    failure? (selectWith catalog plan entity) =
      (planDemands plan).findSome? (refusal? catalog) := by
  rw [planDemands, List.findSome?_append, ← failure?_planCondition, ← failure?_orderColumns]
  exact failure?_bind fun _ => failure?_bind_pure fun _ => rfl

theorem failure?_select :
    failure? (select catalog plan entity) = (planDemands plan).findSome? (refusal? catalog) := by
  rw [select, failure?_map, failure?_selectWith]

theorem failure?_count :
    failure? (count catalog plan entity) =
      (filterDemands plan).findSome? (refusal? catalog) := by
  rw [← failure?_planCondition]
  exact failure?_bind_pure fun _ => rfl

/-- The number of rows asks for nothing that the rows do not ask for. -/
theorem failure?_compile :
    failure? (compile catalog plan entity).result =
      (planDemands plan).findSome? (refusal? catalog) := by
  have both : failure? (compile catalog plan entity).result =
      (failure? (selectWith catalog plan entity)).or (failure? (count catalog plan entity)) := by
    rw [compile, Traced.result_bind]
    refine failure?_bind fun rows => ?_
    obtain ⟨rows, steps⟩ := rows
    rw [Traced.result_bind]
    exact failure?_bind_pure fun _ => rfl
  rw [both, failure?_selectWith, failure?_count, planDemands, List.findSome?_append]
  cases (filterDemands plan).findSome? (refusal? catalog) <;> simp

/-! ### Plans without an unmet demand -/

theorem sortKey_not_mem_demands (target : SortTarget) (predicate : Predicate) :
    .sortKey target ∉ demands outer predicate := by
  induction predicate generalizing outer with
  | compare | oneOf | text | native => simp [demands]
  | any path inner ih | all path inner ih => simp [demands, ih]
  | and left right ihLeft ihRight | or left right ihLeft ihRight => simp [demands, ihLeft, ihRight]
  | not inner ih => simp [demands, ih]

theorem sortKey_not_mem_filterDemands (target : SortTarget) :
    .sortKey target ∉ filterDemands plan := by
  unfold filterDemands
  cases plan.filter with
  | none => exact List.not_mem_nil
  | some predicate => exact sortKey_not_mem_demands target predicate

/-- The demands of a filter are met without tests of the program, with a table for each collection
and with a path to every operand that is outside of all collections. -/
theorem filterDemands_met_iff :
    (filterDemands plan).findSome? (refusal? catalog) = none ↔
      (∀ name, .native name ∉ filterDemands plan) ∧
      (∀ key, .collection key ∈ filterDemands plan →
        ∃ table, catalog.collections.get? key = some table) ∧
      .operand false [] ∉ filterDemands plan := by
  rw [List.findSome?_eq_none_iff]
  constructor
  · intro met
    refine ⟨fun name among => ?_, fun key among => ?_, fun among => ?_⟩
    · cases met _ among
    · have registered := met _ among
      simpa [refusal?, Option.isSome_iff_exists] using registered
    · cases met _ among
  · rintro ⟨noTest, registered, noElement⟩ demand among
    cases demand with
    | native name => exact absurd among (noTest name)
    | collection key =>
      obtain ⟨table, found⟩ := registered key among
      simp [refusal?, found]
    | operand inCollection path =>
      cases inCollection with
      | true => simp [refusal?]
      | false =>
        cases path with
        | nil => exact absurd among noElement
        | cons name rest => rfl
    | sortKey target => exact absurd among (sortKey_not_mem_filterDemands target)

/-- The demands of keys are met where each of them is a field. -/
theorem keyDemands_met_iff {keys : List SortKey} :
    (keys.map fun key => Demand.sortKey key.target).findSome? (refusal? catalog) = none ↔
      ∀ key ∈ keys, ∃ path, key.target = .field path := by
  rw [List.findSome?_eq_none_iff, List.forall_mem_map]
  refine forall₂_congr fun key _ => ?_
  cases key.target <;> simp [refusal?]

/-- A plan has SQL exactly if its filter has no test of the program, a table is registered under the
key of every collection in it, no operand in it is an element outside of all collections, and none
of its keys is computed. Otherwise it is refused at the first demand that is not met. The rows are
refused with the whole, their number with the filter alone, and from how many equalities on a
disjunction becomes a list makes no difference. -/
theorem plan_refused_at_first_unmet_demand (catalog : Catalog) (plan : Plan) (entity : String) :
    ((∃ statements, (compile catalog plan entity).result = .ok statements) ↔
      (∀ name, .native name ∉ filterDemands plan) ∧
      (∀ key, .collection key ∈ filterDemands plan →
        ∃ table, catalog.collections.get? key = some table) ∧
      .operand false [] ∉ filterDemands plan ∧
      ∀ key ∈ plan.ordering.keys, ∃ path, key.target = .field path) ∧
    failure? (compile catalog plan entity).result =
      (planDemands plan).findSome? (refusal? catalog) ∧
    failure? (select catalog plan entity) = failure? (compile catalog plan entity).result ∧
    failure? (count catalog plan entity) = (filterDemands plan).findSome? (refusal? catalog) ∧
    ∀ threshold,
      failure? (compile { catalog with threshold } plan entity).result =
        failure? (compile catalog plan entity).result ∧
      failure? (select { catalog with threshold } plan entity) =
        failure? (select catalog plan entity) ∧
      failure? (count { catalog with threshold } plan entity) =
        failure? (count catalog plan entity) := by
  refine ⟨?_, failure?_compile, ?_, failure?_count, fun threshold => ⟨?_, ?_, ?_⟩⟩
  · rw [← failure?_eq_none_iff, failure?_compile, planDemands, List.findSome?_append,
      Option.or_eq_none_iff, filterDemands_met_iff, keyDemands_met_iff]
    simp only [and_assoc]
  · rw [failure?_select, failure?_compile]
  -- Whether a demand is met does not depend on the threshold.
  · rw [failure?_compile, failure?_compile]
    rfl
  · rw [failure?_select, failure?_select]
    rfl
  · rw [failure?_count, failure?_count]
    rfl

/-- The key of the lines has no table, and comes before the element outside of all collections. -/
example :
    let orders : Catalog := { collections := [("orders", ⟨"orders", "user_id", "value"⟩)] }
    let lines : Predicate := .any ["orders"] (.any ["lines"] (.compare ⟨[], false⟩ .eq (.int 1)))
    let outside : Predicate := .compare ⟨[], false⟩ .eq (.int 1)
    failure? (count orders { filter := some (.or lines outside) } "User") =
      some (.unmappedCollection "orders.lines") := by
  rfl

end ListQuery.Sql
