import ListQuery.Proofs.Plan.Ordering
import ListQuery.Proofs.Plan.Positions
import ListQuery.Proofs.Sql.Agreement
import ListQuery.Proofs.Text.Bytes

/-! Selections with an order and a window. A database sorts cells by a rule of its own: texts by
their bytes, and nulls behind everything else in an ascending column and before it in a descending
one. Over typed columns this is the order of records, and where it leaves no two rows tied there is
one page to answer. -/

namespace ListQuery.Sql

/-! ### Ordered rows -/

/-- The order of two cells that are not null. -/
def presentOrder : Scalar → Scalar → Ordering
  | .text a, .text b => compare (Text.bytes a) (Text.bytes b)
  | a, b => (order? a b).getD .eq

/-- The order of two rows by a column. Nulls come last, but first in a descending column. -/
def OrderColumn.order (column : OrderColumn) (a b : Row) : Ordering :=
  let (x, y) := (a column.name, b column.name)
  match x.isNull, y.isNull with
  | true, true => .eq
  | true, false => if column.ascending then .gt else .lt
  | false, true => if column.ascending then .lt else .gt
  | false, false => if column.ascending then presentOrder x y else (presentOrder x y).swap

/-- The order of two rows by several columns: the first one that tells them apart decides. -/
def rowOrder (columns : List OrderColumn) (a b : Row) : Ordering :=
  columns.foldr (fun column later => (column.order a b).then later) .eq

namespace Select

/-- The rows that the offset and the limit leave. The offset counts first. -/
def window (select : Select) (rows : List Row) : List Row :=
  let rest := rows.drop (select.offset.getD 0)
  match select.limit with
  | some n => rest.take n
  | none => rest

/-- What a selection of rows may answer: its matching rows in an order that its columns allow, as
far as they are in the window. Rows that are tied may stand either way. -/
def Answers (database : Database) (select : Select) (rows : List Row) : Prop :=
  ∃ sorted, sorted.Perm (select.matching database) ∧
    sorted.Pairwise (fun a b => rowOrder select.order a b ≠ .gt) ∧ rows = select.window sorted

theorem window_eq {select : Select} {window : Window} (offset : select.offset = window.offset)
    (limit : select.limit = window.limit) (rows : List Row) :
    select.window rows = window.apply rows := by
  obtain ⟨_ | _, _ | _⟩ := window <;> simp [Select.window, Window.apply, offset, limit]

end Select

/-! ### Columns of keys -/

/-- A plan sees of a stored row what it stands for. -/
instance : Record Stored := ⟨Stored.value⟩

variable {catalog : Catalog} {database : Database} {all : List Stored}

/-- A key that sorts by a column: its path leads each record to what the row has in the column of
that name, null or a value of the column's one kind. -/
structure ByColumn (all : List Stored) (key : SortKey) (path : FieldPath) : Prop where
  target : key.target = .field path
  held : ∀ stored ∈ all, stored.value.lookup? path = some (stored.row (path.joined "_")).value
  typed : Value.OfOneKind (all.map fun stored => (stored.row (path.joined "_")).value)

theorem ByColumn.key_eq {key : SortKey} {path : FieldPath} (keyed : ByColumn all key path)
    {stored : Stored} (member : stored ∈ all) :
    key.target.key (Record.value stored) = (stored.row (path.joined "_")).value := by
  rw [keyed.target]
  exact congrArg (Option.getD · .null) (keyed.held stored member)

theorem ByColumn.mono {key : SortKey} {path : FieldPath} (keyed : ByColumn all key path)
    {fewer : List Stored} (sub : ∀ stored ∈ fewer, stored ∈ all) : ByColumn fewer key path where
  target := keyed.target
  held stored member := keyed.held stored (sub stored member)
  typed := by
    obtain ⟨kind, each⟩ := keyed.typed
    refine ⟨kind, fun value member => each value ?_⟩
    obtain ⟨stored, among, rfl⟩ := List.mem_map.mp member
    exact List.mem_map_of_mem (sub stored among)

/-- Cells of one kind are ordered as values are. -/
theorem presentOrder_eq {x y : Scalar} {kind : Value.Kind} (first : x.value.kind? = some kind)
    (second : y.value.kind? = some kind) : presentOrder x y = x.value.sortCompare y.value := by
  have alike := first.trans second.symm
  cases x <;> cases y <;>
    simp only [Scalar.value, Value.kind?, Option.some.injEq, reduceCtorEq] at alike first
  case text.text a b => exact Text.compare_bytes a b
  case float.float a b =>
    simp only [presentOrder, order?, floatOrder, Scalar.value, Value.sortCompare, Value.rank,
      Option.getD_some]
    congr 1
    cases a.isNaN <;> cases b.isNaN <;> rfl
  all_goals rfl

theorem sortCompare_null {x : Scalar} (present : x.isNull = false) :
    Value.null.sortCompare x.value = .gt ∧ x.value.sortCompare .null = .lt := by
  cases x with
  | null => cases present
  | float f =>
    cases number : f.isNaN <;> simp [Scalar.value, Value.sortCompare, Value.rank, number] <;> decide
  | bool | int | text | instant => exact ⟨rfl, rfl⟩

/-- A column of one kind and nulls orders rows as its cells are ordered as values. -/
theorem OrderColumn.order_eq {column : OrderColumn} {a b : Row} {kind : Value.Kind}
    (first : ∀ held ∈ (a column.name).value.kind?, held = kind)
    (second : ∀ held ∈ (b column.name).value.kind?, held = kind) :
    column.order a b =
      if column.ascending then (a column.name).value.sortCompare (b column.name).value
      else ((a column.name).value.sortCompare (b column.name).value).swap := by
  have isNull {x : Scalar} (absent : x.isNull = true) : x.value = .null := by
    cases x <;> first | rfl | cases absent
  have hasKind {x : Scalar} (present : x.isNull = false)
      (typed : ∀ held ∈ x.value.kind?, held = kind) : x.value.kind? = some kind := by
    cases x with
    | null => cases present
    | bool | int | float | text | instant => exact congrArg some (typed _ rfl)
  simp only [order]
  cases absentA : (a column.name).isNull <;> cases absentB : (b column.name).isNull
  case false.false =>
    rw [presentOrder_eq (hasKind absentA first) (hasKind absentB second)]
  case false.true =>
    rw [isNull absentB, (sortCompare_null absentA).2]
    rfl
  case true.false =>
    rw [isNull absentA, (sortCompare_null absentB).1]
    rfl
  case true.true =>
    rw [isNull absentA, isNull absentB, Value.sortCompare_self]
    exact (ite_self _).symm

/-- A column orders the rows of records as its key orders the records. -/
theorem ByColumn.order_eq {key : SortKey} {path : FieldPath} (keyed : ByColumn all key path)
    {a b : Stored} (memA : a ∈ all) (memB : b ∈ all) :
    OrderColumn.order ⟨path.joined "_", key.ascending⟩ a.row b.row = key.rowOrder a b := by
  obtain ⟨kind, typed⟩ := keyed.typed
  have cells := @OrderColumn.order_eq ⟨path.joined "_", key.ascending⟩ a.row b.row kind
    (typed _ (List.mem_map_of_mem memA)) (typed _ (List.mem_map_of_mem memB))
  rw [cells, SortKey.rowOrder, SortKey.order, keyed.key_eq memA, keyed.key_eq memB]

theorem rowOrder_of_byColumn {keys : List SortKey}
    (keyed : ∀ key ∈ keys, ∃ path, ByColumn all key path) :
    ∃ columns, orderColumns keys = .ok columns ∧ ∀ a ∈ all, ∀ b ∈ all,
      rowOrder columns a.row b.row = SortPlan.rowOrder ⟨keys⟩ a b := by
  induction keys with
  | nil => exact ⟨[], rfl, fun _ _ _ _ => rfl⟩
  | cons key rest ih =>
    obtain ⟨⟨path, first⟩, others⟩ := List.forall_mem_cons.mp keyed
    obtain ⟨columns, compiled, same⟩ := ih others
    refine ⟨⟨path.joined "_", key.ascending⟩ :: columns, ?_, fun a memA b memB => ?_⟩
    · rw [orderColumns, first.target, compiled]
      rfl
    · rw [SortPlan.rowOrder_cons]
      exact congrArg₂ Ordering.then (first.order_eq memA memB) (same a memA b memB)

theorem uniform_of_byColumn {plan : SortPlan}
    (keyed : ∀ key ∈ plan.keys, ∃ path, ByColumn all key path) : plan.Uniform all := by
  intro key among
  obtain ⟨path, column⟩ := keyed key among
  rw [List.map_congr_left fun stored member => column.key_eq member]
  exact column.typed

/-! ### Pages -/

/-- The rows that a selection's condition is true of are those of the records that meet the
filter. -/
theorem matching_perm {plan : Plan} {select : Select} {steps : List OrToIn}
    (conforms : ∀ predicate ∈ plan.filter, Conforms catalog database {} predicate all)
    (compiled : planCondition catalog plan = .ok (select.condition, steps))
    (table : (database select.table).Perm (all.map Stored.row)) :
    (select.matching database).Perm ((plan.applyFilter all).map Stored.row) := by
  unfold Select.matching Plan.applyFilter
  unfold planCondition at compiled
  cases filtered : plan.filter with
  | none =>
    rw [filtered] at compiled
    obtain ⟨none, -⟩ := Prod.mk.inj (Except.ok.inj compiled)
    rw [← none]
    exact table
  | some predicate =>
    rw [filtered] at compiled
    obtain ⟨⟨expr, _⟩, conditioned, same⟩ := bind_eq_ok.mp compiled
    obtain ⟨some, -⟩ := Prod.mk.inj (Except.ok.inj same)
    rw [← some]
    refine (table.filter _).trans ?_
    rw [List.filter_map]
    refine .of_eq (congrArg (List.map Stored.row) (List.filter_congr fun stored member => ?_))
    rw [Bool.eq_iff_iff, Function.comp_apply, Expr.isTrue_iff]
    exact condition_true_iff conditioned (conforms predicate filtered) member rfl

theorem mem_of_mem_applyFilter {plan : Plan} {stored : Stored}
    (member : stored ∈ plan.applyFilter all) : stored ∈ all := by
  unfold Plan.applyFilter at member
  split at member
  · exact List.mem_of_mem_filter member
  · exact member

/-- What a plan keeps of stored rows stands for what it keeps of their records. -/
theorem map_value_apply (plan : Plan) (all : List Stored) :
    (plan.apply all).map Stored.value = plan.apply (all.map Stored.value) := by
  have related : List.Forall₂ (fun (stored : Stored) value => stored.value = value) all
      (all.map Stored.value) := by
    rw [List.forall₂_map_right_iff]
    exact List.forall₂_same.mpr fun _ _ => rfl
  have kept := plan.apply_rel (fun predicate _ stored value same => by rw [← same]; rfl)
    (fun a b v w first second => by rw [← first, ← second]; rfl) related
  exact (map_eq_of_forall₂ (fun _ _ same => same) kept).trans (List.map_id _)

theorem map_row_window (window : Window) (stored : List Stored) :
    (window.apply stored).map Stored.row = window.apply (stored.map Stored.row) := by
  obtain ⟨_ | _, _ | _⟩ := window <;> simp [Window.apply, List.map_take, List.map_drop]

/-- Rows that the columns leave no two of tied can be sorted in one way. -/
theorem sorted_iff {kept : List Stored} {columns : List OrderColumn} {plan : SortPlan}
    (keyed : ∀ key ∈ plan.keys, ∃ path, ByColumn kept key path)
    (same : ∀ a ∈ kept, ∀ b ∈ kept, rowOrder columns a.row b.row = plan.rowOrder a b)
    (told : kept.Pairwise fun a b => plan.rowOrder a b ≠ .eq) {rows : List Row} :
    rows.Perm (kept.map Stored.row) ∧ rows.Pairwise (fun a b => rowOrder columns a b ≠ .gt) ↔
      rows = (plan.sort kept).map Stored.row := by
  have uniform := uniform_of_byColumn keyed
  have orders := uniform.orders
  obtain ⟨perm, ordered, -⟩ := SortPlan.stablySorted_sort uniform
  have among {stored : Stored} (member : stored ∈ plan.sort kept) : stored ∈ kept :=
    perm.mem_iff.mp member
  have rowsOrdered : ((plan.sort kept).map Stored.row).Pairwise fun a b =>
      rowOrder columns a b ≠ .gt := by
    rw [List.pairwise_map]
    refine ordered.imp_of_mem fun memA memB le => ?_
    rwa [same _ (among memA) _ (among memB)]
  constructor
  · rintro ⟨perm', ordered'⟩
    refine List.Perm.eq_of_pairwise ?_ ordered' rowsOrdered (perm'.trans (perm.map _).symm)
    intro x y memX memY upper lower
    obtain ⟨a, memA, rfl⟩ := List.mem_map.mp (perm'.mem_iff.mp memX)
    obtain ⟨b, memB, rfl⟩ := List.mem_map.mp memY
    rw [same a memA b (among memB)] at upper
    rw [same b (among memB) a memA] at lower
    have tied := orders.tied_of_both memA (among memB) upper lower
    rw [orders.eq_of_tied told memA (among memB) tied]
  · rintro rfl
    exact ⟨perm.map _, rowsOrdered⟩

/-- Where a plan compiles to a selection and sorts by typed columns that leave no two of the rows
it keeps tied, the selection has one answer. -/
theorem selection_answers_page {plan : Plan} {entity : String} {where? : Option Expr}
    {steps : List OrToIn} (compiled : planCondition catalog plan = .ok (where?, steps))
    (conforms : ∀ predicate ∈ plan.filter, Conforms catalog database {} predicate all)
    (table : (database (catalog.tableName entity)).Perm (all.map Stored.row))
    (keyed : ∀ key ∈ plan.ordering.keys, ∃ path, ByColumn all key path)
    (told : (plan.applyFilter all).Pairwise fun a b => plan.ordering.rowOrder a b ≠ .eq) :
    (plan.apply all).map Stored.value = plan.apply (all.map Stored.value) ∧
      ∃ statement, select catalog plan entity = .ok statement ∧
        ∀ rows, statement.Answers database rows ↔ rows = (plan.apply all).map Stored.row := by
  refine ⟨map_value_apply plan all, ?_⟩
  have kept : ∀ key ∈ plan.ordering.keys, ∃ path, ByColumn (plan.applyFilter all) key path := by
    intro key among
    obtain ⟨path, column⟩ := keyed key among
    exact ⟨path, column.mono fun _ => mem_of_mem_applyFilter⟩
  obtain ⟨columns, ordered, same⟩ := rowOrder_of_byColumn kept
  let statement : Select :=
    { projection := .rows, table := catalog.tableName entity, condition := where?
      order := columns, limit := plan.window.limit, offset := plan.window.offset }
  have selected : select catalog plan entity = .ok statement := by
    rw [select, selectWith, compiled, ordered]
    rfl
  have matching : (statement.matching database).Perm ((plan.applyFilter all).map Stored.row) :=
    matching_perm conforms compiled table
  refine ⟨statement, selected, fun rows => ?_⟩
  calc statement.Answers database rows
      ↔ ∃ sorted, (sorted.Perm ((plan.applyFilter all).map Stored.row) ∧
          sorted.Pairwise fun a b => rowOrder columns a b ≠ .gt) ∧
          rows = plan.window.apply sorted := by
        refine exists_congr fun sorted => ?_
        rw [matching.congr_right, Select.window_eq rfl rfl, and_assoc]
    _ ↔ rows = plan.window.apply ((plan.ordering.sort (plan.applyFilter all)).map Stored.row) := by
        simp only [sorted_iff kept same told, exists_eq_left]
    _ ↔ rows = (plan.apply all).map Stored.row := by
        rw [Plan.apply, Plan.applyPage, map_row_window]

/-- A guest with an age that may be unknown. -/
def guest (name : String) (age : Scalar) : Stored :=
  ⟨rowOf [("name", .text name), ("age", age)],
    .record [("name", .text name), ("age", age.value)]⟩

/-- The guests, in the order in which they came. -/
def guests : List Stored :=
  [guest "Émile" (.int 30), guest "Bob" (.int 41), guest "Kim" (.int 25), guest "Ann" .null,
    guest "Zoe" (.int 30)]

/-- All but Bob by age, the oldest first, then by name; the second and the third of them. -/
def guestPage : Plan :=
  { filter := some (.not (.compare ⟨["name"], false⟩ .eq (.text "Bob")))
    ordering := ⟨[⟨.field ["age"], false⟩, ⟨.field ["name"], true⟩]⟩
    window := { offset := some 1, limit := some 2 } }

/-- The table of guests, in some other order. -/
def guestRows : Database :=
  fun _ => guests.reverse.map Stored.row

theorem forall_guests {holds : Stored → Prop} (each : ∀ name age, holds (guest name age)) :
    ∀ stored ∈ guests, holds stored := by
  simp [guests, each]

theorem conforms_guestPage :
    ∀ predicate ∈ guestPage.filter, Conforms {} guestRows {} predicate guests := by
  rintro _ ⟨⟩
  exact forall_guests fun name _ =>
    ⟨.text name, ⟨rfl, by rintro _ ⟨⟩; rfl, nofun⟩, Or.inr (Or.inr ⟨rfl, rfl, rfl⟩)⟩

theorem keyed_guestPage :
    ∀ key ∈ guestPage.ordering.keys, ∃ path, ByColumn guests key path := by
  intro key among
  rcases List.mem_pair.mp among with rfl | rfl
  · exact ⟨["age"], rfl, forall_guests fun _ _ => rfl, .int, by decide⟩
  · exact ⟨["name"], rfl, forall_guests fun _ _ => rfl, .text, by decide⟩

/-- From the oldest down an unknown age comes first, and a letter with an accent comes after the
plain ones. -/
theorem guestPage_answer :
    (guestPage.applyFilter guests).Pairwise (fun a b => guestPage.ordering.rowOrder a b ≠ .eq) ∧
      ∃ statement, select {} guestPage "Guest" = .ok statement ∧
        ∀ rows, statement.Answers guestRows rows ↔
          rows = [guest "Zoe" (.int 30), guest "Émile" (.int 30)].map Stored.row := by
  have told : (guestPage.applyFilter guests).Pairwise fun a b =>
      guestPage.ordering.rowOrder a b ≠ .eq := by
    decide
  have page : guestPage.apply guests = [guest "Zoe" (.int 30), guest "Émile" (.int 30)] := rfl
  obtain ⟨-, statement, selected, answers⟩ := selection_answers_page rfl conforms_guestPage
    (.map _ (List.reverse_perm guests)) keyed_guestPage told
  exact ⟨told, statement, selected, page ▸ answers⟩

end ListQuery.Sql
