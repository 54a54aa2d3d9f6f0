import Mathlib.Data.List.Basic
import ListQuery.Proofs.Number.Magnitude
import ListQuery.Proofs.Sql.Conformance
import ListQuery.Proofs.Sql.Pattern

/-! A condition selects the rows of the records that meet the predicate. On rows that hold what
the predicate reads, the condition is true exactly where the predicate holds. It may be unknown
where the predicate fails, so what is carried through joins, negations and quantifiers is truth
alone. -/

namespace ListQuery.Sql

/-! ### Cells and constants -/

/-- Cells and constants of one kind are ordered alike in rows and in records. -/
theorem order?_eq_compareTo? {cell constant : Scalar} (alike : kind cell = kind constant)
    (present : constant ≠ .null) (cellNumber : isNaN cell = false)
    (constantNumber : isNaN constant = false) :
    ∃ order, order? cell constant = some order ∧
      cell.value.compareTo? constant = some order := by
  cases cell <;> cases constant <;> simp only [kind, reduceCtorEq] at alike
  case null.null => exact absurd rfl present
  case bool.bool a b => exact ⟨_, rfl, rfl⟩
  case int.int a b => exact ⟨_, rfl, rfl⟩
  case text.text a b => exact ⟨_, rfl, rfl⟩
  case instant.instant a b => exact ⟨_, rfl, rfl⟩
  all_goals
    simp only [isNaN] at cellNumber constantNumber
    simp [order?, floatOrder, Value.compareTo?, Scalar.value, Binary64.compare?_of_numbers,
      Binary64.isNaN_ofInt, cellNumber, constantNumber]

theorem equals_of_present {cell constant : Scalar} (cellPresent : cell ≠ .null)
    (present : constant ≠ .null) :
    cell.value.equals constant = (cell.value.compareTo? constant == some .eq) := by
  cases cell <;> cases constant <;> first | rfl | contradiction

/-- A comparison of cells is true exactly where the comparison of values holds. -/
theorem compareCells_eq_true_iff {comparison : Comparison} {cell constant : Scalar}
    (comparable : Comparable cell constant) (cellPresent : cell ≠ .null)
    (present : constant ≠ .null) :
    compareCells comparison cell constant = some true ↔
      comparison.holds cell.value constant = true := by
  obtain ⟨alike, cellNumber, constantNumber⟩ :=
    (comparable.resolve_left cellPresent).resolve_left present
  obtain ⟨order, ordered, compared⟩ :=
    order?_eq_compareTo? alike present cellNumber constantNumber
  simp only [compareCells, ordered, Option.map_some, Option.some.injEq]
  cases comparison <;> cases order <;>
    simp [accepts, Comparison.holds, equals_of_present cellPresent present, compared]

theorem compareCells_null {comparison : Comparison} {constant : Scalar} :
    compareCells comparison .null constant = none := by
  cases constant <;> rfl

theorem isIn_eq_true_iff {cell : Scalar} {constants : List Scalar} :
    isIn cell constants = some true ↔
      ∃ constant ∈ constants, compareCells .eq cell constant = some true := by
  induction constants with
  | nil => simp [isIn]
  | cons constant rest ih => simp [isIn, Truth.or_eq_true_iff, ih]

/-- Equality to a constant that may be null. -/
theorem equals_iff {cell constant : Scalar} (comparable : Comparable cell constant) :
    cell.value.equals constant = true ↔
      (cell = .null ∧ constant = .null) ∨
        (constant ≠ .null ∧ compareCells .eq cell constant = some true) := by
  by_cases present : constant = .null
  · subst present
    cases cell <;> simp [Scalar.value, Value.equals]
  · by_cases cellPresent : cell = .null
    · subst cellPresent
      cases constant <;> simp_all [Scalar.value, Value.equals, compareCells_null]
    · rw [compareCells_eq_true_iff comparable cellPresent present]
      simp [cellPresent, present, Comparison.holds]

/-! ### Columns and leaves -/

variable {catalog : Catalog} {database : Database} {rows : Nat → Row} {place : Place}

/-- The constant that an operand compares: in lower case if asked for. -/
def folded (operand : Operand) (scalar : Scalar) : Scalar :=
  if operand.foldCase then scalar.foldCase else scalar

theorem kind_folded (operand : Operand) (scalar : Scalar) :
    kind (folded operand scalar) = kind scalar := by
  unfold folded
  split <;> cases scalar <;> rfl

theorem isNaN_folded (operand : Operand) (scalar : Scalar) :
    isNaN (folded operand scalar) = isNaN scalar := by
  unfold folded
  split <;> cases scalar <;> rfl

theorem folded_null (operand : Operand) : folded operand .null = .null := by
  unfold folded
  split <;> rfl

theorem comparable_folded {operand : Operand} {scalar constant : Scalar}
    (comparable : Comparable scalar constant) : Comparable (folded operand scalar) constant := by
  rcases comparable with rfl | absent | ⟨alike, number, constantNumber⟩
  · exact Or.inl (folded_null operand)
  · exact Or.inr (Or.inl absent)
  · exact Or.inr (Or.inr ⟨(kind_folded operand scalar).trans alike,
      (isNaN_folded operand scalar).trans number, constantNumber⟩)

/-- The record's side of an operand. -/
theorem operand?_of_reads {operand : Operand} {stored : Stored} {scalar : Scalar}
    (reads : Reads place operand stored scalar) :
    stored.value.operand? operand = some (folded operand scalar).value := by
  rw [Value.operand?, reads.value, Option.map_some]
  unfold folded
  cases scalar <;> cases operand.foldCase <;> rfl

theorem operandColumn_ok {operand : Operand} {column : Expr}
    (compiled : operandColumn place operand = .ok column) :
    ∃ name, columnName? place operand.path = some name ∧
      column = if operand.foldCase then .lower (.column place.depth name)
        else .column place.depth name := by
  unfold columnName?
  cases empty : operand.path.isEmpty with
  | true =>
    cases element : place.element with
    | none => simp [operandColumn, empty, element] at compiled
    | some name =>
      exact ⟨name, rfl, by simpa [operandColumn, empty, element] using compiled.symm⟩
  | false =>
    exact ⟨operand.path.joined "_", rfl, by simpa [operandColumn, empty] using compiled.symm⟩

/-- The row's side of an operand. -/
theorem cell_of_reads {operand : Operand} {stored : Stored} {scalar : Scalar} {column : Expr}
    (reads : Reads place operand stored scalar) (here : rows place.depth = stored.row)
    (compiled : operandColumn place operand = .ok column) :
    column.cell database rows = folded operand scalar := by
  obtain ⟨name, path, rfl⟩ := operandColumn_ok compiled
  have held := reads.cell name path
  unfold folded
  cases fold : operand.foldCase with
  | false => simp [Expr.cell, here, held]
  | true =>
    have folds := reads.folds fold
    cases scalar <;> simp_all [Expr.cell, kind, Scalar.foldCase]

/-- A comparison with null asks for null, for anything else, or for nothing. -/
theorem comparison_null_true_iff {column : Expr} {cell : Scalar} (op : Comparison)
    (value : column.cell database rows = cell) :
    (comparison column op .null).cell database rows = .bool true ↔
      op.holds cell.value .null = true := by
  cases op with
  | eq =>
    refine Expr.isNull_true_iff.trans ?_
    rw [value]
    cases cell <;> simp [Comparison.holds, Scalar.value, Value.equals]
  | ne =>
    refine Expr.isNotNull_true_iff.trans ?_
    rw [value]
    cases cell <;> simp [Comparison.holds, Scalar.value, Value.equals]
  | gt | ge | lt | le =>
    have nothing : Expr.cell database (.constant (.bool false)) rows ≠ .bool true := by
      simp [Expr.cell]
    refine iff_of_false nothing ?_
    cases cell <;> simp [Comparison.holds, Scalar.value, Value.compareTo?]

/-- A comparison with a constant that is not null: the opposite of equality holds of null too. -/
theorem comparison_present {column : Expr} {constant : Scalar} (op : Comparison)
    (present : constant ≠ .null) :
    comparison column op constant =
      if op = .ne then .or (.compare .ne column (.constant constant)) (.isNull column)
      else .compare op column (.constant constant) := by
  cases op <;> cases constant <;> first | rfl | contradiction

theorem comparison_true_iff {column : Expr} {cell constant : Scalar} (op : Comparison)
    (value : column.cell database rows = cell) (comparable : Comparable cell constant) :
    (comparison column op constant).cell database rows = .bool true ↔
      op.holds cell.value constant = true := by
  by_cases present : constant = .null
  · subst present
    exact comparison_null_true_iff op value
  · have compared : (Expr.compare op column (.constant constant)).cell database rows = .bool true ↔
        compareCells op cell constant = some true := by
      rw [Expr.compare_true_iff, value]
      rfl
    rw [comparison_present op present]
    by_cases cellPresent : cell = .null
    · -- Null meets no comparison but the opposite of equality.
      subst cellPresent
      rw [compareCells_null] at compared
      split
      · rename_i opposite
        subst opposite
        rw [Expr.or_true_iff, Expr.isNull_true_iff, value]
        cases constant <;> simp_all [Comparison.holds, Scalar.value, Value.equals]
      · cases op <;> cases constant <;>
          simp_all [Comparison.holds, Scalar.value, Value.equals, Value.compareTo?]
    · rw [← compareCells_eq_true_iff comparable cellPresent present]
      split
      · rename_i opposite
        subst opposite
        rw [Expr.or_true_iff, Expr.isNull_true_iff, value, or_iff_left cellPresent]
        exact compared
      · exact compared

/-- A list of constants, its nulls tested apart, is true of what equals one of them. -/
theorem membership_true_iff {column : Expr} {cell : Scalar} {constants : List Scalar}
    (value : column.cell database rows = cell)
    (comparable : ∀ constant ∈ constants, Comparable cell constant) :
    (membership column constants).cell database rows = .bool true ↔
      constants.any cell.value.equals = true := by
  have listed : constants.any cell.value.equals = true ↔
      (cell = .null ∧ constants.any Scalar.isNull = true) ∨
        isIn cell (constants.filter fun constant => !constant.isNull) = some true := by
    rw [isIn_eq_true_iff, List.any_eq_true, List.any_eq_true]
    constructor
    · rintro ⟨constant, member, equal⟩
      rcases (equals_iff (comparable constant member)).mp equal with ⟨absent, rfl⟩ | ⟨present, same⟩
      · exact Or.inl ⟨absent, .null, member, rfl⟩
      · refine Or.inr ⟨constant, List.mem_filter.mpr ⟨member, ?_⟩, same⟩
        cases constant <;> first | rfl | contradiction
    · rintro (⟨absent, constant, member, null⟩ | ⟨constant, member, same⟩)
      · have compares := comparable constant member
        refine ⟨constant, member, (equals_iff compares).mpr (Or.inl ⟨absent, ?_⟩)⟩
        cases constant <;> first | rfl | contradiction
      · obtain ⟨member, shown⟩ := List.mem_filter.mp member
        refine ⟨constant, member, (equals_iff (comparable constant member)).mpr (Or.inr ⟨?_, same⟩)⟩
        rintro rfl
        cases shown
  rw [listed]
  unfold membership
  generalize (constants.filter fun constant => !constant.isNull) = present
  cases constants.any Scalar.isNull with
  | false =>
    cases present with
    | nil => simp [Expr.cell, isIn]
    | cons first rest => simp [Expr.inList_true_iff, value]
  | true =>
    cases present with
    | nil => simp [Expr.isNull_true_iff, value, isIn]
    | cons first rest =>
      simp [Expr.or_true_iff, Expr.inList_true_iff, Expr.isNull_true_iff, value, or_comm]

/-- A pattern is true of the texts that hold its text at the place. -/
theorem like_true_iff {column : Expr} {cell : Scalar} (position : TextMatch) (pattern : String)
    (value : column.cell database rows = cell) (textual : kind cell = .null ∨ kind cell = .text) :
    (Expr.like column (likePattern position pattern)).cell database rows = .bool true ↔
      (match some cell.value with
        | some (.text s) => position.holds pattern s
        | _ => false) = true := by
  cases cell with
  | null => simp [Expr.cell, value, Scalar.value]
  | text s => simp [Expr.cell, value, Scalar.value, isLike_likePattern]
  | bool | int | float | instant => simp [kind] at textual

/-! ### Disjunctions as lists -/

/-- A disjunction of equalities holds where one of them does. -/
theorem holds_of_equalities? {predicate : Predicate} {pairs : List (Operand × Scalar)}
    (found : equalities? predicate = some pairs) (value : Value) :
    predicate.holds value = pairs.any fun pair =>
      (Predicate.compare pair.1 .eq pair.2).holds value := by
  fun_induction equalities? predicate generalizing pairs with
  | case1 operand scalar => cases found
  | case2 operand scalar =>
    cases found
    simp
  | case3 left right none => cases found
  | case4 left right first leads ihLeft ihRight =>
    obtain ⟨second, later, rfl⟩ := Option.map_eq_some_iff.mp found
    rw [Predicate.holds, ihLeft leads, ihRight later, List.any_append]
  | case5 => cases found

/-- What a disjunction shares with both its sides, a disjunction of equalities shares with each of
them. -/
theorem forall_of_equalities? {holds : Predicate → Prop} {predicate : Predicate}
    {pairs : List (Operand × Scalar)}
    (sides : ∀ left right, holds (.or left right) → holds left ∧ holds right)
    (found : equalities? predicate = some pairs) (held : holds predicate) :
    ∀ pair ∈ pairs, holds (.compare pair.1 .eq pair.2) := by
  fun_induction equalities? predicate generalizing pairs with
  | case1 operand scalar => cases found
  | case2 operand scalar =>
    cases found
    intro pair member
    rw [List.mem_singleton.mp member]
    exact held
  | case3 left right none => cases found
  | case4 left right first leads ihLeft ihRight =>
    obtain ⟨second, later, rfl⟩ := Option.map_eq_some_iff.mp found
    obtain ⟨one, other⟩ := sides left right held
    intro pair member
    rcases List.mem_append.mp member with member | member
    · exact ihLeft leads one pair member
    · exact ihRight later other pair member
  | case5 => cases found

/-- A list that stands for a disjunction has the constants of its equalities. -/
theorem asList?_some {threshold : Nat} {predicate : Predicate} {operand : Operand}
    {scalars : List Scalar} (found : asList? threshold predicate = some (operand, scalars)) :
    scalars ≠ [] ∧ equalities? predicate = some (scalars.map fun scalar => (operand, scalar)) := by
  unfold asList? at found
  split at found
  · rename_i first scalar rest equalities
    split at found
    · rename_i enough
      obtain ⟨rfl, rfl⟩ := Prod.mk.inj (Option.some.inj found)
      refine ⟨List.cons_ne_nil _ _, ?_⟩
      rw [equalities, List.map_cons, List.map_map]
      have same : rest.map ((fun scalar => (first, scalar)) ∘ Prod.snd) = rest := by
        refine (List.map_congr_left fun pair member => ?_).trans (List.map_id rest)
        have operands := List.all_eq_true.mp (Bool.and_eq_true_iff.mp enough).2 pair member
        rw [← beq_iff_eq.mp operands]
        rfl
      rw [same]
    · cases found
  · cases found

/-- A list holds of what the disjunction that it stands for holds of. -/
theorem holds_of_asList? {threshold : Nat} {predicate : Predicate} {operand : Operand}
    {scalars : List Scalar} (found : asList? threshold predicate = some (operand, scalars))
    (value : Value) : predicate.holds value = (Predicate.oneOf operand scalars).holds value := by
  rw [holds_of_equalities? (asList?_some found).2, List.any_map]
  simp only [Predicate.holds, Function.comp_def, Comparison.holds]
  cases value.operand? operand <;> simp

theorem value_injective {a b : Scalar} (same : a.value = b.value) : a = b := by
  have read := congrArg Value.scalar? same
  rw [Value.scalar?_value, Value.scalar?_value] at read
  exact Option.some.inj read

theorem conforms_of_asList? {threshold : Nat} {predicate : Predicate} {operand : Operand}
    {scalars : List Scalar} {all : List Stored}
    (found : asList? threshold predicate = some (operand, scalars))
    (conforms : Conforms catalog database place predicate all) :
    Conforms catalog database place (.oneOf operand scalars) all := by
  obtain ⟨nonempty, equalities⟩ := asList?_some found
  have each : ∀ scalar ∈ scalars,
      Conforms catalog database place (.compare operand .eq scalar) all := by
    intro scalar member
    exact @forall_of_equalities? (Conforms catalog database place · all) _ _
      (fun _ _ both => both) equalities conforms (operand, scalar) (List.mem_map_of_mem member)
  intro stored member
  obtain ⟨first, rest, rfl⟩ := List.exists_cons_of_ne_nil nonempty
  obtain ⟨cell, reads, -⟩ := each first List.mem_cons_self stored member
  refine ⟨cell, reads, fun constant listed => ?_⟩
  obtain ⟨other, otherReads, comparable⟩ := each constant listed stored member
  have same : other = cell :=
    value_injective (Option.some.inj (otherReads.value.symm.trans reads.value))
  exact same ▸ comparable

/-! ### Quantifiers -/

theorem compareCells_self {cell : Scalar} (present : cell ≠ .null) :
    compareCells .eq cell cell = some true := by
  have ordered : order? cell cell = some .eq := by
    cases cell with
    | null => exact absurd rfl present
    | float x =>
      cases number : x.isNaN with
      | true => simp [order?, floatOrder, Binary64.compare?, number]
      | false => simp [order?, floatOrder, Binary64.compare?_of_numbers number number]
    | bool b => cases b <;> rfl
    | int i => simp [order?]
    | text s => simp [order?]
    | instant t => simp [order?, Instant.order, Date.order]
  rw [compareCells, ordered]
  rfl

variable {parents : List Stored} {children : Stored → List Stored} {path : FieldPath}
  {table : CollectionTable}

/-- A subselection finds a row exactly when a child of its parent meets the condition. -/
theorem someElement_true_iff {inside : Expr} {parent : Stored}
    (holds : Holds (database table.table) table.foreignKey path parents children)
    (member : parent ∈ parents) (here : rows place.depth = parent.row) :
    (someElement place table inside).cell database rows = .bool true ↔
      ∃ child ∈ children parent,
        inside.cell database (under rows (place.depth + 1) child.row) = .bool true := by
  have tied (row : Row) :
      (Expr.compare .eq (.column (place.depth + 1) table.foreignKey)
        (.column place.depth identity)).cell database (under rows (place.depth + 1) row)
          = .bool true ↔
        compareCells .eq (row table.foreignKey) (parent.row identity) = some true := by
    rw [Expr.compare_true_iff]
    simp [Expr.cell, under, here]
  refine Expr.exists_true_iff.trans ?_
  constructor
  · rintro ⟨row, stored, found⟩
    obtain ⟨owns, meets⟩ := Expr.and_true_iff.mp found
    obtain ⟨child, grown, rfl⟩ := List.mem_map.mp (holds.complete.mem_iff.mp stored)
    obtain ⟨owner, known, born⟩ := List.mem_flatMap.mp grown
    have same := (tied child.row).mp owns
    rw [holds.owned owner known child born] at same
    exact ⟨child, holds.unique owner known parent member same ▸ born, meets⟩
  · rintro ⟨child, born, meets⟩
    have stored : child.row ∈ database table.table :=
      holds.complete.mem_iff.mpr
        (List.mem_map_of_mem (List.mem_flatMap.mpr ⟨parent, member, born⟩))
    refine ⟨child.row, stored, Expr.and_true_iff.mpr ⟨(tied child.row).mpr ?_, meets⟩⟩
    rw [holds.owned parent member child born]
    exact compareCells_self (holds.identified parent member)

/-- No subselection finds a child that fails a test exactly when every child passes it. -/
theorem not_someElement_true_iff {refuting : Expr} {parent : Stored} {passes : Stored → Prop}
    (holds : Holds (database table.table) table.foreignKey path parents children)
    (member : parent ∈ parents) (here : rows place.depth = parent.row)
    (refutes : ∀ child ∈ children parent,
      refuting.cell database (under rows (place.depth + 1) child.row) = .bool true ↔
        ¬ passes child) :
    (Expr.not (someElement place table refuting)).cell database rows = .bool true ↔
      ∀ child ∈ children parent, passes child := by
  rw [Expr.not_true_iff rfl, Ne, someElement_true_iff holds member here]
  constructor
  · intro lacking child born
    refine Classical.byContradiction fun fails => ?_
    exact lacking ⟨child, born, (refutes child born).mpr fails⟩
  · rintro every ⟨child, born, fails⟩
    exact (refutes child born).mp fails (every child born)

/-- The list at a quantified path, as the values of the children. -/
theorem elements_of_holds {stored : List Row} {foreignKey : String} {parent : Stored}
    (holds : Holds stored foreignKey path parents children) (member : parent ∈ parents) :
    parent.value.lookup? path = some (.list ((children parent).map Stored.value)) ∨
      (parent.value.lookup? path = some .null ∧ children parent = []) := by
  obtain ⟨value, found, elements⟩ := Option.bind_eq_some_iff.mp (holds.elements parent member)
  cases value with
  | list items =>
    cases elements
    exact Or.inl found
  | null =>
    have none := List.map_eq_nil_iff.mp (Option.some.inj elements).symm
    exact Or.inr ⟨found, none⟩
  | bool | int | float | text | instant | record => cases elements

theorem any_holds_iff {stored : List Row} {foreignKey : String} {parent : Stored}
    {inner : Predicate} (holds : Holds stored foreignKey path parents children)
    (member : parent ∈ parents) :
    (Predicate.any path inner).holds parent.value = true ↔
      ∃ child ∈ children parent, inner.holds child.value = true := by
  rw [Predicate.holds]
  rcases elements_of_holds holds member with found | ⟨found, none⟩
  · simp [found]
  · simp [found, none]

theorem all_holds_iff {stored : List Row} {foreignKey : String} {parent : Stored}
    {inner : Predicate} (holds : Holds stored foreignKey path parents children)
    (member : parent ∈ parents) :
    (Predicate.all path inner).holds parent.value = true ↔
      ∀ child ∈ children parent, inner.holds child.value = true := by
  rw [Predicate.holds]
  rcases elements_of_holds holds member with found | ⟨found, none⟩
  · simp [found]
  · simp [found, none]

/-! ### Conditions -/

theorem bind_eq_ok {ε α β : Type} {first : Except ε α} {next : α → Except ε β} {result : β} :
    (first >>= next) = .ok result ↔ ∃ a, first = .ok a ∧ next a = .ok result := by
  cases first <;> simp [bind, Except.bind]

section Compiled
variable {inner left right : Predicate} {operand : Operand} {expr : Expr} {steps : List OrToIn}

theorem condition_compare_eq_ok {op : Comparison} {constant : Scalar}
    (compiled : condition catalog place (.compare operand op constant) = .ok (expr, steps)) :
    ∃ column, operandColumn place operand = .ok column ∧ expr = comparison column op constant := by
  obtain ⟨column, named, same⟩ := bind_eq_ok.mp compiled
  cases same
  exact ⟨column, named, rfl⟩

theorem condition_oneOf_eq_ok {constants : List Scalar}
    (compiled : condition catalog place (.oneOf operand constants) = .ok (expr, steps)) :
    ∃ column, operandColumn place operand = .ok column ∧ expr = membership column constants := by
  obtain ⟨column, named, same⟩ := bind_eq_ok.mp compiled
  cases same
  exact ⟨column, named, rfl⟩

theorem condition_text_eq_ok {position : TextMatch} {pattern : String}
    (compiled : condition catalog place (.text operand position pattern) = .ok (expr, steps)) :
    ∃ column, operandColumn place operand = .ok column ∧
      expr = .like column (likePattern position pattern) := by
  obtain ⟨column, named, same⟩ := bind_eq_ok.mp compiled
  cases same
  exact ⟨column, named, rfl⟩

theorem condition_any_eq_ok
    (compiled : condition catalog place (.any path inner) = .ok (expr, steps)) :
    ∃ table inside, catalog.collections.get? (collectionKey place path) = some table ∧
      condition catalog (elementPlace place (collectionKey place path) table) inner =
        .ok (inside, steps) ∧ expr = someElement place table inside := by
  rw [condition] at compiled
  split at compiled
  · cases compiled
  · rename_i table found
    obtain ⟨⟨inside, _⟩, within, same⟩ := bind_eq_ok.mp compiled
    cases same
    exact ⟨table, inside, found, within, rfl⟩

theorem condition_all_eq_ok
    (compiled : condition catalog place (.all path inner) = .ok (expr, steps)) :
    ∃ table inside, catalog.collections.get? (collectionKey place path) = some table ∧
      condition catalog (elementPlace place (collectionKey place path) table) inner =
        .ok (inside, steps) ∧ expr = .not (someElement place table (negated inner inside)) := by
  rw [condition] at compiled
  split at compiled
  · cases compiled
  · rename_i table found
    obtain ⟨⟨inside, _⟩, within, same⟩ := bind_eq_ok.mp compiled
    cases same
    exact ⟨table, inside, found, within, rfl⟩

theorem condition_and_eq_ok
    (compiled : condition catalog place (.and left right) = .ok (expr, steps)) :
    ∃ first second earlier later, condition catalog place left = .ok (first, earlier) ∧
      condition catalog place right = .ok (second, later) ∧ expr = .and first second ∧
      steps = earlier ++ later := by
  obtain ⟨⟨first, earlier⟩, leads, rest⟩ := bind_eq_ok.mp compiled
  obtain ⟨⟨second, later⟩, follows, same⟩ := bind_eq_ok.mp rest
  cases same
  exact ⟨first, second, earlier, later, leads, follows, rfl, rfl⟩

/-- A disjunction is a list, or it has a condition for each side. -/
theorem condition_or_eq_ok
    (compiled : condition catalog place (.or left right) = .ok (expr, steps)) :
    (∃ operand scalars column,
      asList? catalog.threshold (.or left right) = some (operand, scalars) ∧
        operandColumn place operand = .ok column ∧ expr = membership column scalars) ∨
      ∃ first second earlier later, condition catalog place left = .ok (first, earlier) ∧
        condition catalog place right = .ok (second, later) ∧ expr = .or first second ∧
        steps = earlier ++ later := by
  rw [condition] at compiled
  split at compiled
  · rename_i operand scalars listed
    obtain ⟨column, named, same⟩ := bind_eq_ok.mp compiled
    cases same
    exact Or.inl ⟨operand, scalars, column, listed, named, rfl⟩
  · obtain ⟨⟨first, earlier⟩, leads, rest⟩ := bind_eq_ok.mp compiled
    obtain ⟨⟨second, later⟩, follows, same⟩ := bind_eq_ok.mp rest
    cases same
    exact Or.inr ⟨first, second, earlier, later, leads, follows, rfl, rfl⟩

theorem condition_not_eq_ok
    (compiled : condition catalog place (.not inner) = .ok (expr, steps)) :
    ∃ inside, condition catalog place inner = .ok (inside, steps) ∧
      expr = negated inner inside := by
  obtain ⟨⟨inside, _⟩, within, same⟩ := bind_eq_ok.mp compiled
  cases same
  exact ⟨inside, within, rfl⟩

end Compiled

/-- The negation of a condition is true wherever the condition is not, also where it is
unknown. -/
theorem negated_true_iff {inner : Predicate} {inside : Expr} {steps : List OrToIn}
    (compiled : condition catalog place inner = .ok (inside, steps)) :
    (negated inner inside).cell database rows = .bool true ↔
      inside.cell database rows ≠ .bool true := by
  unfold negated
  split
  · obtain ⟨_, _, -, -, rfl⟩ := condition_any_eq_ok compiled
    exact Expr.not_true_iff rfl
  · obtain ⟨_, _, -, -, rfl⟩ := condition_all_eq_ok compiled
    exact Expr.not_true_iff rfl
  · exact Expr.not_orFalse_true_iff

/-- A compiled condition is true of a row exactly when the predicate holds of what the row
stands for. -/
theorem condition_true_iff {predicate : Predicate} {all : List Stored} {stored : Stored}
    {expr : Expr} {steps : List OrToIn}
    (compiled : condition catalog place predicate = .ok (expr, steps))
    (conforms : Conforms catalog database place predicate all) (member : stored ∈ all)
    (here : rows place.depth = stored.row) :
    expr.cell database rows = .bool true ↔ predicate.holds stored.value = true := by
  induction predicate generalizing place all stored expr steps rows with
  | compare operand op constant =>
    obtain ⟨column, named, rfl⟩ := condition_compare_eq_ok compiled
    obtain ⟨scalar, reads, comparable⟩ := conforms stored member
    rw [Predicate.holds, operand?_of_reads reads]
    exact comparison_true_iff op (cell_of_reads reads here named) (comparable_folded comparable)
  | oneOf operand constants =>
    obtain ⟨column, named, rfl⟩ := condition_oneOf_eq_ok compiled
    obtain ⟨scalar, reads, comparable⟩ := conforms stored member
    rw [Predicate.holds, operand?_of_reads reads]
    exact membership_true_iff (cell_of_reads reads here named) fun constant listed =>
      comparable_folded (comparable constant listed)
  | text operand position pattern =>
    obtain ⟨column, named, rfl⟩ := condition_text_eq_ok compiled
    obtain ⟨scalar, reads, textual⟩ := conforms stored member
    rw [Predicate.holds, operand?_of_reads reads]
    exact like_true_iff position pattern (cell_of_reads reads here named)
      (by rw [kind_folded]; exact textual)
  | any path inner ih =>
    obtain ⟨table, inside, found, within, rfl⟩ := condition_any_eq_ok compiled
    obtain ⟨children, holds, below⟩ := conforms table found
    rw [someElement_true_iff holds member here, any_holds_iff holds member]
    refine exists_congr fun child => and_congr_right fun born => ?_
    exact ih within below (List.mem_flatMap.mpr ⟨stored, member, born⟩) (if_pos rfl)
  | all path inner ih =>
    obtain ⟨table, inside, found, within, rfl⟩ := condition_all_eq_ok compiled
    obtain ⟨children, holds, below⟩ := conforms table found
    rw [all_holds_iff holds member]
    refine not_someElement_true_iff holds member here fun child born => ?_
    have grown := List.mem_flatMap.mpr ⟨stored, member, born⟩
    rw [negated_true_iff within, Ne, ih within below grown (if_pos rfl)]
  | and left right ihLeft ihRight =>
    obtain ⟨first, second, _, _, leads, follows, rfl, rfl⟩ := condition_and_eq_ok compiled
    rw [Expr.and_true_iff, ihLeft leads conforms.1 member here,
      ihRight follows conforms.2 member here, Predicate.holds, Bool.and_eq_true]
  | or left right ihLeft ihRight =>
    obtain ⟨operand, constants, column, listed, named, rfl⟩ |
      ⟨first, second, _, _, leads, follows, rfl, rfl⟩ := condition_or_eq_ok compiled
    · obtain ⟨scalar, reads, comparable⟩ := conforms_of_asList? listed conforms stored member
      rw [holds_of_asList? listed, Predicate.holds, operand?_of_reads reads]
      exact membership_true_iff (cell_of_reads reads here named) fun constant among =>
        comparable_folded (comparable constant among)
    · rw [Expr.or_true_iff, ihLeft leads conforms.1 member here,
        ihRight follows conforms.2 member here, Predicate.holds, Bool.or_eq_true]
  | not inner ih =>
    obtain ⟨inside, within, rfl⟩ := condition_not_eq_ok compiled
    rw [negated_true_iff within, Ne, ih within conforms member here, Predicate.holds]
    simp
  | native test => cases compiled

/-- On tables that hold what a filter reads, its condition is true of exactly the rows whose
records meet the filter. A count over the records' table answers how many of them do. -/
theorem selection_agrees_with_records {predicate : Predicate} {all : List Stored} {expr : Expr}
    {steps : List OrToIn} (compiled : condition catalog {} predicate = .ok (expr, steps))
    (conforms : Conforms catalog database {} predicate all) :
    (∀ stored ∈ all, expr.isTrue database (fun _ => stored.row) = predicate.holds stored.value) ∧
      ∀ (plan : Plan) (entity : String), plan.filter = some predicate →
        (database (catalog.tableName entity)).Perm (all.map Stored.row) →
          ∃ statement, count catalog plan entity = .ok statement ∧
            statement.counted database = (plan.applyFilter (all.map Stored.value)).length := by
  have agrees : ∀ stored ∈ all,
      expr.isTrue database (fun _ => stored.row) = predicate.holds stored.value := by
    intro stored member
    rw [Bool.eq_iff_iff, Expr.isTrue_iff]
    exact condition_true_iff compiled conforms member rfl
  refine ⟨agrees, ?_⟩
  intro plan entity filtered table
  have planned : planCondition catalog plan = .ok (some expr, steps) := by
    rw [planCondition, filtered]
    exact bind_eq_ok.mpr ⟨(expr, steps), compiled, rfl⟩
  refine ⟨_, bind_eq_ok.mpr ⟨(some expr, steps), planned, rfl⟩, ?_⟩
  have picked : plan.applyFilter (all.map Stored.value) =
      (all.map Stored.value).filter predicate.holds := by
    rw [Plan.applyFilter, filtered]
    rfl
  rw [picked, List.filter_map, List.length_map]
  refine (table.filter _).length_eq.trans ?_
  rw [List.filter_map, List.length_map]
  exact congrArg List.length (List.filter_congr agrees)

/-- The row with some cells. All others are null. -/
def rowOf (cells : Association String Scalar) : Row :=
  fun name => (cells.get? name).getD .null

/-- A catalog with a table of orders, where two equalities make a list. -/
def shop : Catalog :=
  { threshold := 2
    tables := [("User", "users")]
    collections := [("orders", ⟨"orders", "user_id", "value"⟩)] }

/-- An order of a user. -/
def orderOf (user : Int64) (total : Scalar) : Stored :=
  ⟨rowOf [("user_id", .int user), ("total", total)], .record [("total", total.value)]⟩

/-- A user with an order without a total. -/
def ann : Stored :=
  ⟨rowOf [("id", .int 1), ("name", .text "Ann")],
    .record [("name", .text "Ann"),
      ("orders", .list [.record [("total", .int 5)], .record [("total", .null)]])]⟩

/-- A user without a name and without orders. -/
def nobody : Stored :=
  ⟨rowOf [("id", .int 2)], .record [("name", .null), ("orders", .null)]⟩

/-- The orders of each user. -/
def ordersOf (user : Stored) : List Stored :=
  if user.row identity = .int 1 then [orderOf 1 (.int 5), orderOf 1 .null] else []

/-- The tables of users and orders. -/
def shopRows : Database := fun table =>
  if table = "users" then [ann, nobody].map Stored.row
  else ([ann, nobody].flatMap ordersOf).map Stored.row

/-- Not named Bob, and every order is over five or seven. -/
def settled : Predicate :=
  .and (.not (.compare ⟨["name"], false⟩ .eq (.text "Bob")))
    (.all ["orders"] (.or (.compare ⟨["total"], false⟩ .eq (.int 5))
      (.compare ⟨["total"], false⟩ .eq (.int 7))))

/-- The shop's tables hold what the condition reads. -/
theorem conforms_settled : Conforms shop shopRows {} settled [ann, nobody] := by
  refine ⟨?named, ?orders⟩
  case named =>
    intro stored member
    rcases List.mem_pair.mp member with rfl | rfl
    · exact ⟨.text "Ann", ⟨rfl, by rintro _ ⟨⟩; rfl, nofun⟩, Or.inr (Or.inr ⟨rfl, rfl, rfl⟩)⟩
    · exact ⟨.null, ⟨rfl, by rintro _ ⟨⟩; rfl, nofun⟩, Or.inl rfl⟩
  case orders =>
    have total (constant : Int64) : ∀ order ∈ [ann, nobody].flatMap ordersOf,
        ∃ scalar, Reads (elementPlace {} "orders" ⟨"orders", "user_id", "value"⟩)
          ⟨["total"], false⟩ order scalar ∧ Comparable scalar (.int constant) := by
      intro order member
      rcases List.mem_pair.mp member with rfl | rfl
      · exact ⟨.int 5, ⟨rfl, by rintro _ ⟨⟩; rfl, nofun⟩, Or.inr (Or.inr ⟨rfl, rfl, rfl⟩)⟩
      · exact ⟨.null, ⟨rfl, by rintro _ ⟨⟩; rfl, nofun⟩, Or.inl rfl⟩
    rintro _ ⟨⟩
    refine ⟨ordersOf, ⟨?_, ?_, ?_, ?_, List.Perm.refl _⟩, total 5, total 7⟩
    · intro parent member
      rcases List.mem_pair.mp member with rfl | rfl
      · exact nofun
      · exact nofun
    · intro a known b other same
      rcases List.mem_pair.mp known with rfl | rfl <;> rcases List.mem_pair.mp other with rfl | rfl
      · rfl
      · cases same
      · cases same
      · rfl
    · intro parent member
      rcases List.mem_pair.mp member with rfl | rfl <;> rfl
    · intro parent member child born
      rcases List.mem_pair.mp member with rfl | rfl
      · rcases List.mem_pair.mp born with rfl | rfl <;> rfl
      · cases born

/-- One of the shop's users meets the condition, and a count finds one. -/
theorem selection_agrees_with_settled_users :
    ∃ expr steps, condition shop {} settled = .ok (expr, steps) ∧
      Conforms shop shopRows {} settled [ann, nobody] ∧
      (∀ stored ∈ [ann, nobody],
        expr.isTrue shopRows (fun _ => stored.row) = settled.holds stored.value) ∧
      ∃ statement, count shop { filter := some settled } "User" = .ok statement ∧
        statement.counted shopRows = 1 := by
  refine ⟨_, _, rfl, conforms_settled, ?_⟩
  obtain ⟨agrees, counts⟩ := selection_agrees_with_records rfl conforms_settled
  obtain ⟨statement, counting, counted⟩ :=
    counts { filter := some settled } "User" rfl (List.Perm.refl _)
  exact ⟨agrees, statement, counting, counted⟩

end ListQuery.Sql
