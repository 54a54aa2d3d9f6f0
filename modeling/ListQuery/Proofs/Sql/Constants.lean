import ListQuery.Proofs.Sql.Agreement
import ListQuery.Proofs.Sql.Pieces

/-! The constants of a plan and of its statements. A condition takes its floats from the predicate
that it stands for: nulls become tests and what cannot hold becomes FALSE, but no float is left out
and none is added. So the words without quotes in a statement are those of the plan's floats. -/

namespace ListQuery

/-- The constants of a predicate. -/
def Predicate.constants : Predicate → List Scalar
  | compare _ _ constant => [constant]
  | oneOf _ constants => constants
  | text _ _ pattern => [.text pattern]
  | any _ inner | all _ inner | not inner => inner.constants
  | and left right | or left right => left.constants ++ right.constants
  | native _ => []

/-- The constants of a plan's filter. -/
def Plan.constants (plan : Plan) : List Scalar :=
  plan.filter.elim [] Predicate.constants

namespace Sql

/-- The constants of a condition, patterns included. -/
def Expr.constants : Expr → List Scalar
  | column .. => []
  | constant scalar => [scalar]
  | lower value | orFalse value | isNull value | isNotNull value | not value => value.constants
  | compare _ left right | and left right | or left right => left.constants ++ right.constants
  | inList value constants => value.constants ++ constants
  | like value pattern => value.constants ++ [.text pattern]
  | .exists _ _ condition => condition.constants

/-- The constants of a selection. -/
def Select.constants (select : Select) : List Scalar :=
  select.condition.elim [] Expr.constants

/-! ### Constants of conditions -/

section Conditions
variable {catalog : Catalog} {place : Place} {column : Expr}

theorem constants_operandColumn {operand : Operand}
    (compiled : operandColumn place operand = .ok column) : column.constants = [] := by
  obtain ⟨name, -, rfl⟩ := operandColumn_ok compiled
  split <;> rfl

theorem float_mem_comparison_iff (bare : column.constants = []) (op : Comparison)
    (constant : Scalar) (x : Binary64) :
    .float x ∈ (comparison column op constant).constants ↔ .float x = constant := by
  unfold comparison
  split
  · rename_i absent
    cases constant with
    | null => cases op <;> simp [Expr.constants, bare]
    | _ => cases absent
  · cases op <;> simp [Expr.constants, bare]

theorem float_mem_membership_iff (bare : column.constants = []) (constants : List Scalar)
    (x : Binary64) : .float x ∈ (membership column constants).constants ↔ .float x ∈ constants := by
  have present : .float x ∈ constants.filter (fun scalar => !scalar.isNull) ↔
      .float x ∈ constants := by
    simp [List.mem_filter, Scalar.isNull]
  rw [← present]
  simp only [membership]
  split
  all_goals simp_all [Expr.constants]

theorem constants_negated (predicate : Predicate) (inside : Expr) :
    (negated predicate inside).constants = inside.constants := by
  unfold negated
  split <;> rfl

theorem constants_someElement (table : CollectionTable) (inside : Expr) :
    (someElement place table inside).constants = inside.constants :=
  rfl

theorem constants_of_equalities? {predicate : Predicate} {pairs : List (Operand × Scalar)}
    (found : equalities? predicate = some pairs) :
    predicate.constants = pairs.map (·.2) := by
  fun_induction equalities? predicate generalizing pairs with
  | case1 operand scalar => cases found
  | case2 operand scalar =>
    cases found
    rfl
  | case3 left right none => cases found
  | case4 left right first leads ihLeft ihRight =>
    obtain ⟨second, later, rfl⟩ := Option.map_eq_some_iff.mp found
    rw [Predicate.constants, ihLeft leads, ihRight later, List.map_append]
  | case5 => cases found

/-- The list that stands for a disjunction has its constants. -/
theorem constants_of_asList? {threshold : Nat} {predicate : Predicate} {operand : Operand}
    {scalars : List Scalar} (found : asList? threshold predicate = some (operand, scalars)) :
    predicate.constants = scalars := by
  rw [constants_of_equalities? (asList?_some found).2, List.map_map]
  exact List.map_id scalars

/-- A condition has the floats of its predicate. -/
theorem float_mem_condition_iff {p : Predicate} {e : Expr} {steps : List OrToIn}
    (compiled : condition catalog place p = .ok (e, steps)) (x : Binary64) :
    .float x ∈ e.constants ↔ .float x ∈ p.constants := by
  induction p generalizing place e steps with
  | compare operand op constant =>
    obtain ⟨column, named, rfl⟩ := condition_compare_eq_ok compiled
    rw [float_mem_comparison_iff (constants_operandColumn named), Predicate.constants,
      List.mem_singleton]
  | oneOf operand constants =>
    obtain ⟨column, named, rfl⟩ := condition_oneOf_eq_ok compiled
    exact float_mem_membership_iff (constants_operandColumn named) constants x
  | text operand position pattern =>
    obtain ⟨column, named, rfl⟩ := condition_text_eq_ok compiled
    simp [Expr.constants, constants_operandColumn named, Predicate.constants]
  | any path inner ih =>
    obtain ⟨table, inside, -, made, rfl⟩ := condition_any_eq_ok compiled
    rw [constants_someElement, Predicate.constants, ih made]
  | all path inner ih =>
    obtain ⟨table, inside, -, made, rfl⟩ := condition_all_eq_ok compiled
    rw [Expr.constants, constants_someElement, constants_negated, Predicate.constants, ih made]
  | and left right ihLeft ihRight =>
    obtain ⟨first, second, _, _, leads, follows, rfl, rfl⟩ := condition_and_eq_ok compiled
    rw [Expr.constants, Predicate.constants, List.mem_append, List.mem_append, ihLeft leads,
      ihRight follows]
  | or left right ihLeft ihRight =>
    obtain ⟨operand, scalars, column, listed, named, rfl⟩ |
      ⟨first, second, _, _, leads, follows, rfl, rfl⟩ := condition_or_eq_ok compiled
    · rw [constants_of_asList? listed]
      exact float_mem_membership_iff (constants_operandColumn named) scalars x
    · rw [Expr.constants, Predicate.constants, List.mem_append, List.mem_append, ihLeft leads,
        ihRight follows]
  | not inner ih =>
    obtain ⟨inside, made, rfl⟩ := condition_not_eq_ok compiled
    rw [constants_negated, Predicate.constants, ih made]
  | native test => cases compiled

/-- The selections of a plan have the floats of its filter. -/
theorem float_mem_select_iff {plan : Plan} {select : Select} {steps : List OrToIn}
    (planned : planCondition catalog plan = .ok (select.condition, steps)) (x : Binary64) :
    .float x ∈ select.constants ↔ .float x ∈ plan.constants := by
  unfold planCondition at planned
  rw [Select.constants, Plan.constants]
  split at planned
  · rename_i unfiltered
    obtain ⟨absent, -⟩ := Prod.mk.inj (Except.ok.inj planned)
    rw [← absent, unfiltered]
    rfl
  · rename_i p filtered
    obtain ⟨⟨e, _⟩, made, same⟩ := bind_eq_ok.mp planned
    obtain ⟨present, -⟩ := Prod.mk.inj (Except.ok.inj same)
    rw [← present, filtered]
    exact float_mem_condition_iff made x

end Conditions

/-! ### Constants in texts -/

namespace Piece

variable {first second : List Piece}

/-- The constant of a piece. -/
def constant? : Piece → Option Scalar
  | constant scalar => some scalar
  | _ => none

/-- The constants in pieces. -/
def constants (pieces : List Piece) : List Scalar :=
  pieces.filterMap constant?

@[simp] theorem constants_nil : constants [] = [] :=
  rfl

@[simp] theorem constants_cons (piece : Piece) (pieces : List Piece) :
    constants (piece :: pieces) = piece.constant?.toList ++ constants pieces := by
  cases held : piece.constant? <;> simp [constants, held]

@[simp] theorem constants_append :
    constants (first ++ second) = constants first ++ constants second :=
  List.filterMap_append

@[simp] theorem constants_enclosed (inside : Bool) :
    constants (enclosed inside first) = constants first := by
  cases inside <;> simp [enclosed, constant?]

theorem constants_separated (pieces : List (List Piece)) :
    constants (separated pieces) = pieces.flatMap constants := by
  induction pieces with
  | nil => rfl
  | cons part rest ih =>
    cases rest with
    | nil => simp [separated]
    | cons next rest => simp_all [separated, List.intercalate, constant?]

/-- The words without quotes in pieces are those of their constants. -/
theorem bare_mem_identifiers_iff {pieces : List Piece} {word : String} :
    .bare word ∈ identifiers pieces ↔
      ∃ scalar ∈ constants pieces, bareWord? scalar = some word := by
  simp only [identifiers, constants, List.mem_filterMap]
  constructor
  · rintro ⟨piece, among, stands⟩
    cases piece with
    | constant scalar =>
      obtain ⟨_, written, same⟩ := Option.map_eq_some_iff.mp stands
      cases same
      exact ⟨scalar, ⟨.constant scalar, among, rfl⟩, written⟩
    | _ => cases stands
  · rintro ⟨scalar, ⟨piece, among, held⟩, written⟩
    cases piece with
    | constant other =>
      cases held
      exact ⟨.constant scalar, among, Option.map_eq_some_iff.mpr ⟨word, written, rfl⟩⟩
    | _ => cases held

end Piece

theorem Expr.constants_pieces (e : Expr) : Piece.constants e.pieces = e.constants := by
  induction e with
  | inList value constants ih =>
    simp [pieces, Expr.constants, ih, Piece.constants_separated, List.flatMap_map, Piece.constant?]
  | _ => simp_all [pieces, Expr.constants, Piece.constant?]

theorem Select.constants_pieces (select : Select) :
    Piece.constants select.pieces = select.constants := by
  have order (columns : List OrderColumn) : Piece.constants (orderPieces columns) = [] := by
    unfold orderPieces
    split
    · rfl
    · simp [Piece.constants_separated, List.flatMap_map, columnPieces, Piece.constant?]
  have bound (words : String) (n : Option Nat) : Piece.constants (boundPieces words n) = [] := by
    cases n <;> rfl
  simp only [pieces, Piece.constants_append, order, bound, List.append_nil, Select.constants]
  cases select.condition with
  | none => rfl
  | some e => simp [Piece.constant?, e.constants_pieces]

end Sql

end ListQuery
