import ListQuery.Proofs.Compile.Typing
import ListQuery.Proofs.Plan.Ordering
import ListQuery.Proofs.Value.Comparing

/-! Filters and sorts go by one order. Seen from a constant, the values of a scalar type stand at one
of five stages: before it, beside it, behind it, in no order with it, or null. Sorting leaves the
stages one after the other, and each comparison with the constant asks for some that are next to
each other. -/

namespace ListQuery

/-! ### Rows by stages -/

section Rows

variable {α : Type} {rows : List α}

/-- The rows that pass a test are a run of the list. -/
def FormRun (test : α → Bool) (rows : List α) : Prop :=
  ∃ before run after, rows = before ++ run ++ after ∧ (∀ row ∈ run, test row = true) ∧
    ∀ row ∈ before ++ after, test row = false

/-- Where no row that passes stands behind one that fails, the rows that pass come first. -/
theorem filter_append_filter_not (test : α → Bool)
    (ordered : rows.Pairwise fun a b => test b = true → test a = true) :
    rows.filter test ++ rows.filter (!test ·) = rows := by
  induction rows with
  | nil => rfl
  | cons x rows ih =>
    obtain ⟨first, rest⟩ := List.pairwise_cons.mp ordered
    cases passes : test x with
    | true =>
      rw [List.filter_cons_of_pos passes, List.filter_cons_of_neg (by simp [passes]),
        List.cons_append, ih rest]
    | false =>
      have fail : ∀ row ∈ x :: rows, test row = false := by
        refine List.forall_mem_cons.mpr ⟨passes, fun row among => ?_⟩
        exact Bool.eq_false_iff.mpr fun held => by cases passes.symm.trans (first row among held)
      rw [List.filter_eq_nil_iff.mpr fun row among => by simp [fail row among],
        List.filter_eq_self.mpr fun row among => by simp [fail row among], List.nil_append]

variable {stage : α → Nat} (ordered : rows.Pairwise fun a b => stage a ≤ stage b)

include ordered

theorem filter_stage_append (bound : Nat) :
    rows.filter (stage · < bound) ++ rows.filter (bound ≤ stage ·) = rows := by
  have cut := filter_append_filter_not (fun row => decide (stage row < bound)) <|
    ordered.imp fun first second => by
      simp only [decide_eq_true_eq] at second ⊢
      omega
  simpa only [← decide_not, Nat.not_lt] using cut

/-- A test that asks for stages next to each other is passed by a run. -/
theorem formRun_of_stages {test : α → Bool} (low high : Nat)
    (asks : ∀ row ∈ rows, test row = true ↔ low ≤ stage row ∧ stage row < high) :
    FormRun test rows := by
  have front := filter_stage_append ordered low
  have back := filter_stage_append (ordered.filter (low ≤ stage ·)) high
  refine ⟨_, _, _, (by rw [List.append_assoc, back, front]), fun row among => ?_,
    fun row among => ?_⟩
  · simp only [List.mem_filter, decide_eq_true_eq] at among
    exact (asks row among.1.1).mpr ⟨among.1.2, among.2⟩
  · simp only [List.mem_append, List.mem_filter, decide_eq_true_eq] at among
    refine Bool.eq_false_iff.mpr fun passes => ?_
    rcases among with ⟨mem, early⟩ | ⟨⟨mem, -⟩, late⟩
    · exact Nat.not_lt.mpr ((asks row mem).mp passes).1 early
    · exact Nat.not_le.mpr ((asks row mem).mp passes).2 late

omit ordered in
theorem filter_eq_of_stage {test : α → Bool} {k : Nat}
    (asks : ∀ row ∈ rows, test row = true ↔ stage row = k) :
    rows.filter test = rows.filter (stage · == k) :=
  List.filter_congr fun row among => by rw [Bool.eq_iff_iff, asks row among, beq_iff_eq]

/-- The rows are those of each stage, one stage after the other. -/
theorem flatMap_stages {count : Nat} (below : ∀ row ∈ rows, stage row < count) :
    ((List.range count).flatMap fun k => rows.filter (stage · == k)) = rows := by
  induction count generalizing rows with
  | zero =>
    exact (List.eq_nil_iff_forall_not_mem.mpr fun row among => nomatch below row among).symm
  | succ count ih =>
    have last : rows.filter (count ≤ stage ·) = rows.filter (stage · == count) := by
      refine List.filter_congr fun row among => ?_
      have bound := below row among
      rw [Bool.eq_iff_iff, decide_eq_true_eq, beq_iff_eq]
      omega
    have earlier := ih (ordered.filter (stage · < count)) (by simp)
    have same : ∀ k ∈ List.range count,
        (rows.filter (stage · < count)).filter (stage · == k) = rows.filter (stage · == k) := by
      intro k among
      have bound := List.mem_range.mp among
      rw [List.filter_filter]
      refine List.filter_congr fun row _ => ?_
      rw [Bool.eq_iff_iff, Bool.and_eq_true, beq_iff_eq, decide_eq_true_eq]
      omega
    rw [List.range_succ, List.flatMap_append, List.flatMap_singleton, ← last,
      ← List.flatMap_congr same, earlier]
    exact filter_stage_append ordered count

end Rows

/-! ### The stages of values -/

/-- The kind of a type's values. -/
def FieldType.kind {M : Type} : FieldType M → Value.Kind
  | bool => .bool
  | int => .int
  | float => .float
  | text => .text
  | instant => .instant
  | list _ => .list
  | record _ => .record

namespace Value

/-- How far back a value stands, seen from a constant. -/
def stage (constant : Scalar) (value : Value) : Nat :=
  match value.compareTo? constant with
  | some .lt => 0
  | some .eq => 1
  | some .gt => 2
  | none => if value.isNull then 4 else 3

variable {a b value : Value} {constant : Scalar}

/-- The stages of what is ordered are told apart by the order. -/
theorem compareTo?_iff_stage :
    (value.compareTo? constant = some .lt ↔ value.stage constant = 0) ∧
      (value.compareTo? constant = some .eq ↔ value.stage constant = 1) ∧
      (value.compareTo? constant = some .gt ↔ value.stage constant = 2) := by
  cases compared : value.compareTo? constant with
  | none => cases null : value.isNull <;> simp [stage, compared, null]
  | some order => cases order <;> simp [stage, compared]

theorem exists_compareTo?_iff_stage :
    (∃ order, value.compareTo? constant = some order) ↔ value.stage constant < 3 := by
  cases compared : value.compareTo? constant with
  | none => cases null : value.isNull <;> simp [stage, compared, null]
  | some order => cases order <;> simp [stage, compared]

theorem isNull_iff_stage : value.isNull = true ↔ value.stage constant = 4 := by
  cases compared : value.compareTo? constant with
  | none => simp [stage, compared]
  | some order =>
    have present : value.isNull = false := by cases value <;> first | rfl | cases compared
    cases order <;> simp [stage, compared, present]

theorem stage_lt (value : Value) (constant : Scalar) : value.stage constant < 5 := by
  unfold stage
  split
  case h_4 => split <;> decide
  all_goals decide

theorem lt_holds_iff_stage :
    Comparison.lt.holds value constant = true ↔ value.stage constant = 0 :=
  beq_iff_eq.trans compareTo?_iff_stage.1

theorem eq_holds_iff_stage (present : constant ≠ .null) :
    Comparison.eq.holds value constant = true ↔ value.stage constant = 1 := by
  rw [Comparison.eq_holds present]
  exact beq_iff_eq.trans compareTo?_iff_stage.2.1

theorem gt_holds_iff_stage :
    Comparison.gt.holds value constant = true ↔ value.stage constant = 2 :=
  beq_iff_eq.trans compareTo?_iff_stage.2.2

/-- A comparison, unless it is by not equal, asks for stages that are next to each other. -/
theorem exists_stages {comparison : Comparison} (asked : comparison ≠ .ne) (constant : Scalar) :
    ∃ low high, ∀ value : Value, comparison.holds value constant = true ↔
      low ≤ value.stage constant ∧ value.stage constant < high := by
  cases comparison with
  | ne => contradiction
  | lt => exact ⟨0, 1, fun value => lt_holds_iff_stage.trans (by omega)⟩
  | gt => exact ⟨2, 3, fun value => gt_holds_iff_stage.trans (by omega)⟩
  | le =>
    refine ⟨0, 2, fun value => ?_⟩
    obtain ⟨before, beside, -⟩ := @compareTo?_iff_stage value constant
    rw [Comparison.holds, Bool.or_eq_true, beq_iff_eq, beq_iff_eq, before, beside]
    omega
  | ge =>
    refine ⟨1, 3, fun value => ?_⟩
    obtain ⟨-, beside, behind⟩ := @compareTo?_iff_stage value constant
    rw [Comparison.holds, Bool.or_eq_true, beq_iff_eq, beq_iff_eq, beside, behind]
    omega
  | eq =>
    by_cases null : constant = .null
    · -- Equal to null is null alone, the last stage.
      subst null
      refine ⟨4, 5, fun value => ?_⟩
      have same : Comparison.eq.holds value .null = value.isNull := by cases value <;> rfl
      have last := stage_lt value .null
      rw [same, @isNull_iff_stage value .null]
      omega
    · exact ⟨1, 2, fun value => (eq_holds_iff_stage null).trans (by omega)⟩

/-! ### Sorting by stages -/

theorem rank_le_of_sortCompare (ordered : a.sortCompare b ≠ .gt) : a.rank ≤ b.rank := by
  rw [sortCompare_eq, ne_eq, Ordering.then_eq_gt, not_or] at ordered
  exact Nat.compare_ne_gt.mp ordered.1

/-- Behind all that is of a kind stands what is no number, and last null. -/
theorem rank_of_kind (value : Value) :
    (value.isNull = true ↔ value.rank = 7) ∧ (value.isNaN = true ↔ value.rank = 6) ∧
      value.rank < 8 := by
  cases value with
  | float x => cases number : x.isNaN <;> simp [isNull, isNaN, rank, number]
  | _ => simp [isNull, isNaN, rank]

theorem SameKind.rank_lt (alike : SameKind value constant) : value.rank < 6 := by
  cases alike with
  | number left =>
    cases value with
    | float x => simp_all [isNumber, rank]
    | int => simp [rank]
    | _ => cases left
  | _ => simp [rank]

theorem SameKind.of_constant (alike : SameKind value constant) :
    constant ≠ .null ∧ constant.value.isNaN = false := by
  cases alike with
  | number _ right => cases constant <;> simp_all [Scalar.value, isNumber, isNaN]
  | _ => exact ⟨by simp, rfl⟩

variable {M : Type} [Schema M] {type : FieldType M}

/-- Beside a constant of their type, unless it is null or no number, all values are of its kind that
are neither. -/
theorem sameKind_iff (scalar : type.isSortable = true) (typed : constant.OfType type)
    (present : constant ≠ .null) (number : constant.value.isNaN = false)
    (held : value.HasType type) : SameKind value constant ↔ value.rank < 6 := by
  refine ⟨SameKind.rank_lt, fun low => ?_⟩
  have made := typed.resolve_left present
  cases held with
  | null => simp [rank] at low
  | bool =>
    cases constant <;> cases made
    exact .bool ..
  | text =>
    cases constant <;> cases made
    exact .text ..
  | instant =>
    cases constant <;> cases made
    exact .instant ..
  | int =>
    cases constant <;> cases made
    exact .number rfl rfl
  | @float x =>
    cases constant <;> cases made
    have left : x.isNaN = false := by
      cases number : x.isNaN
      · rfl
      · simp [rank, number] at low
    exact .number (by simp [isNumber, left]) (by simpa [isNumber, isNaN, Scalar.value] using number)
  | list | record => cases scalar

theorem isNaN_iff_stage (scalar : type.isSortable = true) (typed : constant.OfType type)
    (present : constant ≠ .null) (number : constant.value.isNaN = false)
    (held : value.HasType type) : value.isNaN = true ↔ value.stage constant = 3 := by
  obtain ⟨null, none, bound⟩ := rank_of_kind value
  have low := (sameKind_iff scalar typed present number held).symm.trans exists_compareTo?_iff.symm
  rw [exists_compareTo?_iff_stage] at low
  rw [@isNull_iff_stage value constant] at null
  have stages := stage_lt value constant
  rw [none]
  omega

theorem hasType_of_constant (scalar : type.isSortable = true) (typed : constant.OfType type) :
    constant.value.HasType type := by
  rcases typed with rfl | made
  · exact .null
  · cases type with
    | list | record => cases scalar
    | _ =>
      cases constant <;> cases made
      constructor

theorem HasType.kind?_eq (held : value.HasType type) : ∀ own ∈ value.kind?, own = type.kind := by
  cases held <;> rintro _ ⟨⟩ <;> rfl

theorem oneKind_of_hasType {values : List Value} (held : ∀ value ∈ values, value.HasType type) :
    OfOneKind values :=
  ⟨type.kind, fun value among => (held value among).kind?_eq⟩

theorem sortCompare_orders_type : Orders sortCompare fun value => value.HasType type := by
  refine sortCompare_orders fun x y f typedX _ typedF _ _ => ?_
  cases typedX
  cases typedF

/-- No value stands behind one of a later stage. -/
theorem stage_mono (scalar : type.isSortable = true) (typed : constant.OfType type)
    (heldA : a.HasType type) (heldB : b.HasType type) (ordered : a.sortCompare b ≠ .gt) :
    a.stage constant ≤ b.stage constant := by
  have ranks := rank_le_of_sortCompare ordered
  cases comparedB : b.compareTo? constant with
  | none =>
    have last : a.stage constant = 4 → b.stage constant = 4 := by
      rw [← isNull_iff_stage, ← isNull_iff_stage, (rank_of_kind a).1, (rank_of_kind b).1]
      have := (rank_of_kind b).2.2
      omega
    have unordered : 3 ≤ b.stage constant := by
      cases null : b.isNull <;> simp [stage, comparedB, null]
    have bound := stage_lt a constant
    omega
  | some second =>
    have alike := exists_compareTo?_iff.mp ⟨_, comparedB⟩
    have present := alike.of_constant
    have alikeA := (sameKind_iff scalar typed present.1 present.2 heldA).mpr
      (Nat.lt_of_le_of_lt ranks alike.rank_lt)
    obtain ⟨first, comparedA⟩ := exists_compareTo?_iff.mpr alikeA
    -- Sorting sees both in the same order with the constant as filters do.
    have sortedA := sortCompare_of_compareTo? comparedA
    have sortedB := sortCompare_of_compareTo? comparedB
    have heldC := hasType_of_constant scalar typed
    have orders : Orders sortCompare (·.HasType type) := sortCompare_orders_type
    have upper := orders.trans _ _ _ heldA heldB heldC ordered
    have tied := orders.congr_left heldA heldC heldB
    rw [sortedA, sortedB] at upper
    rw [sortedA, orders.swap _ _ heldB heldC, sortedB] at tied
    cases first <;> cases second <;> simp_all [stage]

end Value

/-! ### Filters on sorted rows -/

section Sorted

variable {M : Type} [Schema M] {α : Type} [Record α] {rows : List α} {path : FieldPath}
  {type : FieldType M} {constant : Scalar}

/-- Whether a row passes a comparison of its field with a constant. -/
def passes (path : FieldPath) (constant : Scalar) (comparison : Comparison) (row : α) : Bool :=
  (Predicate.compare ⟨path, false⟩ comparison constant).holds (Record.value row)

/-- What a row is sorted by. -/
def fieldValue (path : FieldPath) (row : α) : Value :=
  (SortTarget.field path).key (Record.value row)

/-- Every row holds a value of the type at the path. -/
def AllHold (path : FieldPath) (type : FieldType M) (rows : List α) : Prop :=
  ∀ row ∈ rows, ∃ value, (Record.value row).lookup? path = some value ∧ value.HasType type

theorem AllHold.perm {sorted : List α} (held : AllHold path type rows) (perm : sorted.Perm rows) :
    AllHold path type sorted :=
  fun row among => held row (perm.mem_iff.mp among)

variable (held : AllHold path type rows)

include held

theorem AllHold.lookup? : ∀ row ∈ rows,
    (Record.value row).lookup? path = some (fieldValue path row) ∧
      (fieldValue path row).HasType type := by
  intro row among
  obtain ⟨value, found, typed⟩ := held row among
  rw [fieldValue, SortTarget.key, found]
  exact ⟨rfl, typed⟩

theorem AllHold.passes_eq (comparison : Comparison) : ∀ row ∈ rows,
    passes path constant comparison row =
      comparison.holds (fieldValue path row) constant := by
  intro row among
  rw [passes, Predicate.holds, Value.operand?, (held.lookup? row among).1]
  cases fieldValue path row <;> rfl

theorem AllHold.formRun
    (ordered : rows.Pairwise fun a b =>
      (fieldValue path a).stage constant ≤ (fieldValue path b).stage constant)
    {comparison : Comparison} (asked : comparison ≠ .ne) :
    FormRun (passes path constant comparison) rows := by
  obtain ⟨low, high, asks⟩ := Value.exists_stages asked constant
  refine formRun_of_stages ordered low high fun row among => ?_
  rw [held.passes_eq comparison row among]
  exact asks _

/-- The stages are told by comparisons, and by tests for what is no number and for null. -/
theorem AllHold.eq_append (scalar : type.isSortable = true) (typed : constant.OfType type)
    (present : constant ≠ .null) (number : constant.value.isNaN = false)
    (ordered : rows.Pairwise fun a b =>
      (fieldValue path a).stage constant ≤ (fieldValue path b).stage constant) :
    rows = rows.filter (passes path constant .lt) ++ rows.filter (passes path constant .eq) ++
      rows.filter (passes path constant .gt) ++
      rows.filter (fun row => ((Record.value row).lookup? path).any Value.isNaN) ++
      rows.filter (fun row => ((Record.value row).lookup? path).any Value.isNull) := by
  have compared {comparison : Comparison} {k : Nat}
      (asks : ∀ value : Value, comparison.holds value constant = true ↔ value.stage constant = k) :
      ∀ row ∈ rows, passes path constant comparison row = true ↔
        (fieldValue path row).stage constant = k := fun row among => by
    rw [held.passes_eq comparison row among]
    exact asks _
  have before := compared fun _ => Value.lt_holds_iff_stage
  have beside := compared fun _ => Value.eq_holds_iff_stage present
  have behind := compared fun _ => Value.gt_holds_iff_stage
  have none : ∀ row ∈ rows, ((Record.value row).lookup? path).any Value.isNaN = true ↔
      (fieldValue path row).stage constant = 3 := fun row among => by
    rw [(held.lookup? row among).1]
    exact Value.isNaN_iff_stage scalar typed present number (held.lookup? row among).2
  have null : ∀ row ∈ rows, ((Record.value row).lookup? path).any Value.isNull = true ↔
      (fieldValue path row).stage constant = 4 := fun row among => by
    rw [(held.lookup? row among).1]
    exact Value.isNull_iff_stage
  have stages := flatMap_stages ordered fun row _ => Value.stage_lt _ constant
  rw [filter_eq_of_stage before, filter_eq_of_stage beside, filter_eq_of_stage behind,
    filter_eq_of_stage none, filter_eq_of_stage null]
  simpa [List.range_succ] using stages.symm

/-- Sorted by a field, rows stand by the stages of the field's values. -/
theorem AllHold.pairwise_sort (scalar : type.isSortable = true) (typed : constant.OfType type) :
    ((⟨[⟨.field path, true⟩]⟩ : SortPlan).sort rows).Pairwise fun a b =>
      (fieldValue path a).stage constant ≤ (fieldValue path b).stage constant := by
  have uniform : (⟨[⟨.field path, true⟩]⟩ : SortPlan).Uniform rows := by
    refine SortPlan.uniform_cons.mpr ⟨?_, by simp [SortPlan.Uniform]⟩
    have values : ∀ value ∈ rows.map (fieldValue path), value.HasType type :=
      List.forall_mem_map.mpr fun row among => (held.lookup? row among).2
    exact Value.oneKind_of_hasType values
  have sorted := SortPlan.stablySorted_sort uniform
  rw [SortPlan.rowOrder_singleton] at sorted
  have among := held.perm sorted.perm
  exact sorted.ordered.imp_of_mem fun {a b} memA memB ordered =>
    Value.stage_mono scalar typed (among.lookup? a memA).2 (among.lookup? b memB).2 ordered

end Sorted

/-- Filtering and sorting go by one order. Rows sorted by a field of a scalar type hold those that
pass a comparison of the field with a constant as a run. If the constant is neither null nor no
number, the rows before it, beside it and behind it follow each other, and after them come those
whose value is no number, and last those of null. And what filters order, sorting orders alike. -/
theorem filters_and_sorts_go_by_one_order {M : Type} [Schema M] (type : FieldType M)
    (scalar : type.isSortable = true) (constant : Scalar) (typed : constant.OfType type)
    {α : Type} [Record α] (path : FieldPath) (rows : List α) (held : AllHold path type rows) :
    let sorted := (⟨[⟨.field path, true⟩]⟩ : SortPlan).sort rows
    (∀ comparison ≠ .ne, FormRun (passes path constant comparison) sorted) ∧
    (constant ≠ .null → constant.value.isNaN = false →
      sorted = sorted.filter (passes path constant .lt) ++
        sorted.filter (passes path constant .eq) ++ sorted.filter (passes path constant .gt) ++
        sorted.filter (fun row => ((Record.value row).lookup? path).any Value.isNaN) ++
        sorted.filter (fun row => ((Record.value row).lookup? path).any Value.isNull)) ∧
    ∀ (value : Value) (other : Scalar) (order : Ordering),
      value.compareTo? other = some order → value.sortCompare other.value = order := by
  intro sorted
  have among : AllHold path type sorted := held.perm (SortPlan.sort_perm _ rows)
  have ordered := held.pairwise_sort scalar typed
  exact ⟨fun comparison asked => among.formRun ordered asked,
    fun present number => among.eq_append scalar typed present number ordered,
    fun value other order compared => Value.sortCompare_of_compareTo? compared⟩

/-- Items by their ratings, from null down. -/
def mixedItems : List Value :=
  [.null, .float .nan, .float (.ofInt 5), .float (.ofInt 3), .float (.ofInt 2)].map
    (SortPlan.rated 1)

/-- Seen from three, the items by rating fall into five parts. -/
theorem mixedItems_go_by_one_order :
    (.float : FieldType Sample.Model).isSortable = true ∧
    (Scalar.float (.ofInt 3)).OfType (.float : FieldType Sample.Model) ∧
    AllHold ["rating"] (.float : FieldType Sample.Model) mixedItems ∧
    let sorted := (⟨[⟨.field ["rating"], true⟩]⟩ : SortPlan).sort mixedItems
    let constant := Scalar.float (.ofInt 3)
    sorted = mixedItems.reverse ∧
    (∀ comparison ≠ .ne, FormRun (passes ["rating"] constant comparison) sorted) ∧
    sorted = sorted.filter (passes ["rating"] constant .lt) ++
      sorted.filter (passes ["rating"] constant .eq) ++
      sorted.filter (passes ["rating"] constant .gt) ++
      sorted.filter (fun row => (row.lookup? ["rating"]).any Value.isNaN) ++
      sorted.filter (fun row => (row.lookup? ["rating"]).any Value.isNull) := by
  have typed : (Scalar.float (.ofInt 3)).OfType (.float : FieldType Sample.Model) := Or.inr rfl
  have held : AllHold ["rating"] (.float : FieldType Sample.Model) mixedItems := by
    intro row among
    obtain ⟨rating, mem, rfl⟩ := List.mem_map.mp among
    have float : rating.HasType (.float : FieldType Sample.Model) := by
      simp only [List.mem_cons, List.not_mem_nil, or_false] at mem
      rcases mem with rfl | rfl | rfl | rfl | rfl <;> constructor
    exact ⟨rating, rfl, float⟩
  obtain ⟨runs, stages, -⟩ :=
    filters_and_sorts_go_by_one_order .float rfl _ typed ["rating"] mixedItems held
  exact ⟨rfl, typed, held, rfl, runs, stages nofun rfl⟩

end ListQuery
