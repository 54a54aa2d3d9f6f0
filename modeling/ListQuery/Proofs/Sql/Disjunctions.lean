import Mathlib.Data.List.Forall2
import ListQuery.Proofs.Sql.Agreement

/-! Disjunctions written as lists. A disjunction of equalities of one operand holds where the
operand is in the list of their constants, and as a condition it is unknown where the list is. So
the number of equalities from which on lists are written changes no condition, wherever in a
predicate they stand. What is reported of the lists are the disjunctions that they stand for, from
the left: those that are long enough and in no larger one. -/

namespace ListQuery.Sql

/-! ### Truth values -/

theorem Truth.ofCell_cell (truth : Truth) : ofCell truth.cell = truth := by
  cases truth <;> rfl

theorem Truth.or_false (truth : Truth) : truth.or (some false) = truth := by
  rcases truth with _ | _ | _ <;> rfl

theorem Truth.or_assoc (a b c : Truth) : (a.or b).or c = a.or (b.or c) := by
  rcases a with _ | _ | _ <;> rcases b with _ | _ | _ <;> rcases c with _ | _ | _ <;> rfl

theorem isIn_append (cell : Scalar) (first second : List Scalar) :
    isIn cell (first ++ second) = (isIn cell first).or (isIn cell second) := by
  induction first with
  | nil => rfl
  | cons constant rest ih => rw [List.cons_append, isIn, ih, isIn, Truth.or_assoc]

/-! ### Equalities of one operand -/

theorem isNull_of_ne {constant : Scalar} (present : constant ≠ .null) :
    constant.isNull = false := by
  cases constant <;> first | rfl | contradiction

/-- Equalities with constants that are not null, joined in any shape. -/
inductive Equalities where
  | equal (constant : Scalar) (present : constant ≠ .null)
  | either (left right : Equalities)

namespace Equalities

variable {operand : Operand} {threshold : Nat}

/-- The constants, from the left. -/
def constants : Equalities → List Scalar
  | equal constant _ => [constant]
  | either left right => left.constants ++ right.constants

/-- The equalities of an operand as a disjunction. -/
def predicate (operand : Operand) : Equalities → Predicate
  | equal constant _ => .compare operand .eq constant
  | either left right => .or (left.predicate operand) (right.predicate operand)

/-- The equalities of a column, each written out. -/
def expr (column : Expr) : Equalities → Expr
  | equal constant _ => .compare .eq column (.constant constant)
  | either left right => .or (left.expr column) (right.expr column)

/-- Whether there are enough equalities for a list. An equality alone is no disjunction. -/
def isLong (threshold : Nat) : Equalities → Bool
  | equal .. => false
  | either left right => threshold ≤ (left.constants ++ right.constants).length

theorem constants_ne_nil (tree : Equalities) : tree.constants ≠ [] := by
  induction tree with
  | equal => exact List.cons_ne_nil _ _
  | either left right ihLeft => exact List.append_ne_nil_of_left_ne_nil ihLeft _

theorem isNull_of_mem_constants {tree : Equalities} :
    ∀ constant ∈ tree.constants, constant.isNull = false := by
  induction tree with
  | equal constant present => exact List.forall_mem_singleton.mpr (isNull_of_ne present)
  | either left right ihLeft ihRight => exact List.forall_mem_append.mpr ⟨ihLeft, ihRight⟩

theorem isLong_of_short {tree : Equalities} (short : tree.constants.length < threshold) :
    tree.isLong threshold = false := by
  cases tree with
  | equal => rfl
  | either left right => exact decide_eq_false (Nat.not_le.mpr short)

variable {database : Database} {rows : Nat → Row}

theorem cell_expr (tree : Equalities) (column : Expr) :
    (tree.expr column).cell database rows =
      (isIn (column.cell database rows) tree.constants).cell := by
  induction tree with
  | equal constant =>
    rw [expr, constants, isIn, isIn, Truth.or_false]
    rfl
  | either left right ihLeft ihRight =>
    rw [expr, constants, Expr.cell, ihLeft, ihRight, isIn_append, Truth.ofCell_cell,
      Truth.ofCell_cell]

theorem membership_constants (tree : Equalities) (column : Expr) :
    membership column tree.constants = .inList column tree.constants := by
  have kept : tree.constants.filter (fun constant => !constant.isNull) = tree.constants := by
    rw [List.filter_eq_self]
    exact fun constant member => by rw [isNull_of_mem_constants constant member]; rfl
  have noNull : tree.constants.any Scalar.isNull = false := by
    rw [List.any_eq_false]
    exact fun constant member => by rw [isNull_of_mem_constants constant member]; exact nofun
  have some : tree.constants.isEmpty = false := List.isEmpty_eq_false_iff.mpr tree.constants_ne_nil
  simp only [membership, kept, noNull, some]

/-- The list is true, false or unknown where the disjunction is. -/
theorem cell_membership (tree : Equalities) (column : Expr) :
    (membership column tree.constants).cell database rows =
      (tree.expr column).cell database rows := by
  rw [membership_constants, cell_expr]
  rfl

/-! ### What counts as a list -/

theorem equalities?_predicate (tree : Equalities) :
    equalities? (tree.predicate operand) =
      some (tree.constants.map fun constant => (operand, constant)) := by
  induction tree with
  | equal constant present => simp [predicate, constants, equalities?, isNull_of_ne present]
  | either left right ihLeft ihRight =>
    simp only [predicate, equalities?, ihLeft, ihRight, Option.map_some, constants, List.map_append]

theorem exists_of_equalities? {predicate : Predicate} {pairs : List (Operand × Scalar)}
    (found : equalities? predicate = some pairs) (one : ∀ pair ∈ pairs, pair.1 = operand) :
    ∃ tree : Equalities, tree.predicate operand = predicate := by
  fun_induction equalities? predicate generalizing pairs with
  | case1 => cases found
  | case2 other constant present =>
    cases found
    obtain rfl := one _ (List.mem_singleton_self _)
    exact ⟨.equal constant (by rintro rfl; exact present rfl), rfl⟩
  | case3 => cases found
  | case4 left right first leads ihLeft ihRight =>
    obtain ⟨second, later, rfl⟩ := Option.map_eq_some_iff.mp found
    obtain ⟨oneLeft, oneRight⟩ := List.forall_mem_append.mp one
    obtain ⟨treeLeft, rfl⟩ := ihLeft leads oneLeft
    obtain ⟨treeRight, rfl⟩ := ihRight later oneRight
    exact ⟨.either treeLeft treeRight, rfl⟩
  | case5 => cases found

theorem asList?_predicate (tree : Equalities) :
    asList? threshold (tree.predicate operand) =
      if threshold ≤ tree.constants.length then some (operand, tree.constants) else none := by
  obtain ⟨first, rest, same⟩ := List.exists_cons_of_ne_nil tree.constants_ne_nil
  simp [asList?, equalities?_predicate, same, Function.comp_def]

/-- A disjunction holds where the operand equals one of its constants. -/
theorem holds_predicate (tree : Equalities) (operand : Operand) (value : Value) :
    (tree.predicate operand).holds value =
      (Predicate.oneOf operand tree.constants).holds value := by
  have listed : asList? 0 (tree.predicate operand) = some (operand, tree.constants) :=
    (asList?_predicate tree).trans (if_pos (Nat.zero_le _))
  exact holds_of_asList? listed value

theorem exists_of_asList? {predicate : Predicate} {constants : List Scalar}
    (found : asList? threshold predicate = some (operand, constants)) :
    ∃ tree : Equalities, tree.predicate operand = predicate ∧ tree.constants = constants ∧
      threshold ≤ constants.length := by
  obtain ⟨-, equalities⟩ := asList?_some found
  obtain ⟨tree, rfl⟩ := exists_of_equalities? equalities fun pair member => by
    obtain ⟨_, -, rfl⟩ := List.mem_map.mp member
    rfl
  rw [asList?_predicate] at found
  split at found
  · rename_i enough
    cases found
    exact ⟨tree, rfl, rfl, enough⟩
  · cases found

/-- The condition of a disjunction: a list if it is long enough, and all equalities otherwise. -/
theorem condition_predicate (tree : Equalities) (operand : Operand) (catalog : Catalog)
    (place : Place) :
    condition catalog place (tree.predicate operand) =
      (operandColumn place operand).map fun column =>
        if tree.isLong catalog.threshold then
          (membership column tree.constants, [⟨operand.path.joined "_", tree.constants.length⟩])
        else (tree.expr column, []) := by
  induction tree with
  | equal constant present =>
    have written (column : Expr) :
        comparison column .eq constant = .compare .eq column (.constant constant) :=
      (comparison_present .eq present).trans (if_neg nofun)
    rw [predicate, condition]
    cases operandColumn place operand with
    | error fault => rfl
    | ok column => exact congrArg (fun expr => Except.ok (expr, [])) (written column)
  | either left right ihLeft ihRight =>
    have listed := @asList?_predicate operand catalog.threshold (either left right)
    rw [predicate] at listed ⊢
    rw [condition, listed]
    by_cases long : catalog.threshold ≤ (either left right).constants.length
    · have isLong : (either left right).isLong catalog.threshold = true := decide_eq_true long
      rw [if_pos long, isLong]
      rfl
    · have short := Nat.not_le.mp long
      rw [constants, List.length_append] at short
      rw [if_neg long, ihLeft, ihRight, isLong_of_short (Nat.not_le.mp long),
        isLong_of_short (by omega), isLong_of_short (by omega)]
      cases operandColumn place operand <;> rfl

end Equalities

/-! ### Conditions of one truth value -/

/-- Expressions that come to the same on all rows. -/
def Expr.Agrees (x y : Expr) : Prop :=
  ∀ database rows, x.cell database rows = y.cell database rows

namespace Expr.Agrees

variable {x y v w : Expr}

theorem not (same : x.Agrees y) : (Expr.not x).Agrees (.not y) := by
  intro database rows
  rw [cell, cell, same]

theorem orFalse (same : x.Agrees y) : (Expr.orFalse x).Agrees (.orFalse y) := by
  intro database rows
  rw [cell, cell, same]

theorem and (first : x.Agrees y) (second : v.Agrees w) : (Expr.and x v).Agrees (.and y w) := by
  intro database rows
  rw [cell, cell, first, second]

theorem or (first : x.Agrees y) (second : v.Agrees w) : (Expr.or x v).Agrees (.or y w) := by
  intro database rows
  rw [cell, cell, first, second]

theorem exists_ (same : x.Agrees y) (table : String) (depth : Nat) :
    (Expr.exists table depth x).Agrees (.exists table depth y) := by
  intro database rows
  have cells : x.cell database = y.cell database := funext (same database)
  rw [cell, cell, cells]

theorem negated (same : x.Agrees y) (predicate : Predicate) :
    (negated predicate x).Agrees (Sql.negated predicate y) := by
  unfold Sql.negated
  split
  · exact same.not
  · exact same.not
  · exact same.orFalse.not

theorem someElement (same : x.Agrees y) (place : Place) (table : CollectionTable) :
    (someElement place table x).Agrees (Sql.someElement place table y) :=
  exists_ (and (fun _ _ => rfl) same) table.table (place.depth + 1)

end Expr.Agrees

/-- The same refusal, or conditions that agree. -/
def SameOnRows : Except SqlError (Expr × List OrToIn) → Except SqlError (Expr × List OrToIn) → Prop
  | .ok (first, _), .ok (second, _) => first.Agrees second
  | .error fault, .error fault' => fault = fault'
  | _, _ => False

namespace SameOnRows

variable {a b c : Except SqlError (Expr × List OrToIn)}

theorem refl (a : Except SqlError (Expr × List OrToIn)) : SameOnRows a a := by
  cases a with
  | error => rfl
  | ok => exact fun _ _ => rfl

theorem symm (same : SameOnRows a b) : SameOnRows b a := by
  cases a <;> cases b
  case ok.ok => exact fun database rows => (same database rows).symm
  case error.error => exact Eq.symm same
  all_goals exact same.elim

theorem trans (first : SameOnRows a b) (second : SameOnRows b c) : SameOnRows a c := by
  cases a <;> cases b <;> cases c
  case ok.ok.ok => exact fun database rows => (first database rows).trans (second database rows)
  case error.error.error => exact Eq.trans first second
  all_goals first
    | exact first.elim
    | exact second.elim

theorem bind {next next' : Expr × List OrToIn → Except SqlError (Expr × List OrToIn)}
    (same : SameOnRows a b) (follow : ∀ x y, x.1.Agrees y.1 → SameOnRows (next x) (next' y)) :
    SameOnRows (a >>= next) (b >>= next') := by
  cases a <;> cases b
  case ok.ok x y => exact follow x y same
  case error.error => exact same
  all_goals exact same.elim

end SameOnRows

/-- However a disjunction is written, its condition agrees with the equalities written out. -/
theorem sameOnRows_predicate (tree : Equalities) (operand : Operand) (catalog : Catalog)
    (place : Place) :
    SameOnRows (condition catalog place (tree.predicate operand))
      ((operandColumn place operand).map fun column => (tree.expr column, [])) := by
  rw [tree.condition_predicate]
  cases operandColumn place operand with
  | error fault => exact rfl
  | ok column =>
    cases long : tree.isLong catalog.threshold with
    | false => exact fun _ _ => rfl
    | true => exact fun _ _ => tree.cell_membership column

section Thresholds
variable {catalog catalog' : Catalog} {place : Place}

theorem sameOnRows_of_asList? {threshold : Nat} {predicate : Predicate} {operand : Operand}
    {constants : List Scalar} (found : asList? threshold predicate = some (operand, constants)) :
    SameOnRows (condition catalog place predicate) (condition catalog' place predicate) := by
  obtain ⟨tree, rfl, -, -⟩ := Equalities.exists_of_asList? found
  exact (sameOnRows_predicate tree operand catalog place).trans
    (sameOnRows_predicate tree operand catalog' place).symm

/-- Of a catalog only the collections bear on the truth of conditions. -/
theorem sameOnRows_condition (shared : catalog'.collections = catalog.collections)
    (predicate : Predicate) :
    SameOnRows (condition catalog place predicate) (condition catalog' place predicate) := by
  induction predicate generalizing place with
  | compare | oneOf | text | native => exact .refl _
  | any path inner ih =>
    rw [condition, condition, shared]
    split
    · exact .refl _
    · exact ih.bind fun x y same => same.someElement _ _
  | all path inner ih =>
    rw [condition, condition, shared]
    split
    · exact .refl _
    · exact ih.bind fun x y same => ((same.negated _).someElement _ _).not
  | and left right ihLeft ihRight =>
    exact ihLeft.bind fun x y first => ihRight.bind fun v w second => first.and second
  | or left right ihLeft ihRight =>
    cases listed : asList? catalog.threshold (.or left right) with
    | some list => exact sameOnRows_of_asList? listed
    | none =>
      cases listed' : asList? catalog'.threshold (.or left right) with
      | some list => exact sameOnRows_of_asList? listed'
      | none =>
        rw [condition, condition, listed, listed']
        exact ihLeft.bind fun x y first => ihRight.bind fun v w second => first.or second
  | not inner ih =>
    exact ih.bind fun x y same => same.negated _

end Thresholds

/-! ### Lists in predicates -/

/-- A predicate with its disjunctions of enough equalities written as lists. -/
def inLists (threshold : Nat) : Predicate → Predicate
  | .any path inner => .any path (inLists threshold inner)
  | .all path inner => .all path (inLists threshold inner)
  | .and left right => .and (inLists threshold left) (inLists threshold right)
  | .or left right =>
    match asList? threshold (.or left right) with
    | some (operand, constants) => .oneOf operand constants
    | none => .or (inLists threshold left) (inLists threshold right)
  | .not inner => .not (inLists threshold inner)
  | leaf => leaf

section Lists
variable {threshold : Nat} {catalog : Catalog} {place : Place}

/-- Writing lists makes no new disjunctions of equalities. -/
theorem eq_of_inLists {predicate : Predicate} {operand : Operand} {tree : Equalities}
    (made : inLists threshold predicate = tree.predicate operand) :
    predicate = tree.predicate operand := by
  induction predicate generalizing tree with
  | compare => exact made
  | or left right ihLeft ihRight =>
    rw [inLists] at made
    split at made
    · cases tree <;> cases made
    · cases tree with
      | equal => cases made
      | either treeLeft treeRight =>
        obtain ⟨first, second⟩ := Predicate.or.inj made
        rw [Equalities.predicate, ihLeft first, ihRight second]
  | any | all | and | not | oneOf | text | native => cases tree <;> cases made

theorem negated_inLists (predicate : Predicate) (expr : Expr) :
    negated (inLists threshold predicate) expr = negated predicate expr := by
  cases predicate with
  | or left right =>
    rw [inLists]
    split <;> rfl
  | _ => rfl

theorem asList?_inLists {left right : Predicate}
    (unlisted : asList? threshold (.or left right) = none) :
    asList? threshold (.or (inLists threshold left) (inLists threshold right)) = none := by
  have whole : inLists threshold (.or left right) =
      .or (inLists threshold left) (inLists threshold right) := by
    rw [inLists, unlisted]
  rw [← whole]
  refine Option.eq_none_iff_forall_ne_some.mpr fun list listed => ?_
  obtain ⟨tree, made, -, -⟩ := Equalities.exists_of_asList? listed
  rw [← made, ← eq_of_inLists made.symm, unlisted] at listed
  cases listed

/-- The condition is that of the predicate with its lists, and reports them. -/
theorem condition_inLists (predicate : Predicate) :
    condition catalog place (inLists catalog.threshold predicate) =
      (condition catalog place predicate).map fun compiled => (compiled.1, []) := by
  induction predicate generalizing place with
  | compare operand | oneOf operand | text operand =>
    simp only [inLists, condition]
    cases operandColumn place operand <;> rfl
  | native => rfl
  | any path inner ih =>
    simp only [inLists, condition]
    split
    · rfl
    · rename_i table found
      rw [ih]
      cases condition catalog (elementPlace place (collectionKey place path) table) inner <;> rfl
  | all path inner ih =>
    simp only [inLists, condition]
    split
    · rfl
    · rename_i table found
      rw [ih]
      simp only [negated_inLists]
      cases condition catalog (elementPlace place (collectionKey place path) table) inner <;> rfl
  | and left right ihLeft ihRight =>
    rw [inLists, condition, condition, ihLeft, ihRight]
    cases condition catalog place left <;> cases condition catalog place right <;> rfl
  | or left right ihLeft ihRight =>
    rw [inLists, condition]
    cases listed : asList? catalog.threshold (.or left right) with
    | some list =>
      obtain ⟨operand, constants⟩ := list
      dsimp only
      rw [condition]
      cases operandColumn place operand <;> rfl
    | none =>
      rw [condition, asList?_inLists listed, ihLeft, ihRight]
      cases condition catalog place left <;> cases condition catalog place right <;> rfl
  | not inner ih =>
    simp only [inLists, condition, ih, negated_inLists]
    cases condition catalog place inner <;> rfl

end Lists

/-! ### Reports -/

/-- A part of a predicate, and the parts around it. -/
structure Part where
  here : Predicate
  around : List Predicate

/-- The parts of a predicate, each before those in it, from the left. -/
def parts (around : List Predicate) (predicate : Predicate) : List Part :=
  ⟨predicate, around⟩ ::
    match predicate with
    | .any _ inner | .all _ inner | .not inner => parts (predicate :: around) inner
    | .and left right | .or left right =>
      parts (predicate :: around) left ++ parts (predicate :: around) right
    | .compare .. | .oneOf .. | .text .. | .native _ => []

/-- Equalities of one operand, of any number. -/
def Chain (predicate : Predicate) : Prop :=
  ∃ (operand : Operand) (tree : Equalities), tree.predicate operand = predicate

/-- A disjunction of enough equalities of one operand for a list. -/
def Listed (threshold : Nat) (predicate : Predicate) : Prop :=
  ∃ (operand : Operand) (tree : Equalities),
    tree.predicate operand = predicate ∧ tree.isLong threshold = true

/-- A disjunction that becomes a list, and that no larger one is around. -/
def Part.Outermost (threshold : Nat) (part : Part) : Prop :=
  Listed threshold part.here ∧ ∀ predicate ∈ part.around, ¬ Chain predicate

/-- What is reported of a disjunction: the number of its equalities, and the column they compare
unless that is the one for elements that are no records, which goes without its name. -/
def Reports (part : Part) (step : OrToIn) : Prop :=
  ∃ (operand : Operand) (tree : Equalities), tree.predicate operand = part.here ∧
    step.count = tree.constants.length ∧
    ∀ place column, columnName? place operand.path = some column →
      (step.column = column ↔ operand.path ≠ [] ∨ column = "")

section Reports
variable {threshold : Nat} {catalog : Catalog} {place : Place} {around : List Predicate}
  {predicate : Predicate}

/-- Whether a predicate is a disjunction that becomes a list. -/
def isListed (threshold : Nat) : Predicate → Bool
  | .or left right => (asList? threshold (.or left right)).isSome
  | _ => false

theorem isListed_predicate (operand : Operand) (tree : Equalities) :
    isListed threshold (tree.predicate operand) = tree.isLong threshold := by
  cases tree with
  | equal => rfl
  | either left right =>
    have listed := @Equalities.asList?_predicate operand threshold (.either left right)
    rw [Equalities.predicate] at listed ⊢
    rw [isListed, listed, Equalities.isLong, Equalities.constants]
    split <;> simp_all

theorem isListed_iff : isListed threshold predicate = true ↔ Listed threshold predicate := by
  constructor
  · intro listed
    cases predicate with
    | or left right =>
      obtain ⟨⟨operand, constants⟩, found⟩ := Option.isSome_iff_exists.mp listed
      obtain ⟨tree, made, -, -⟩ := Equalities.exists_of_asList? found
      rw [← made, isListed_predicate] at listed
      exact ⟨operand, tree, made, listed⟩
    | _ => cases listed
  · rintro ⟨operand, tree, rfl, long⟩
    rw [isListed_predicate, long]

theorem listed_predicate_iff {operand : Operand} {tree : Equalities} :
    Listed threshold (tree.predicate operand) ↔ tree.isLong threshold = true := by
  rw [← isListed_iff, isListed_predicate]

theorem isSome_asList?_iff : (asList? 0 predicate).isSome = true ↔ Chain predicate := by
  constructor
  · intro found
    obtain ⟨⟨operand, constants⟩, found⟩ := Option.isSome_iff_exists.mp found
    obtain ⟨tree, made, -, -⟩ := Equalities.exists_of_asList? found
    exact ⟨operand, tree, made⟩
  · rintro ⟨operand, tree, rfl⟩
    rw [Equalities.asList?_predicate, if_pos (Nat.zero_le _)]
    rfl

instance : Decidable (Listed threshold predicate) :=
  decidable_of_iff _ isListed_iff

instance : Decidable (Chain predicate) :=
  decidable_of_iff _ isSome_asList?_iff

instance {part : Part} : Decidable (part.Outermost threshold) :=
  inferInstanceAs (Decidable (Listed threshold part.here ∧
    ∀ predicate ∈ part.around, ¬ Chain predicate))

theorem Listed.chain (listed : Listed threshold predicate) : Chain predicate := by
  obtain ⟨operand, tree, made, -⟩ := listed
  exact ⟨operand, tree, made⟩

/-- The disjunctions that become lists, from the left. -/
def lists (threshold : Nat) (around : List Predicate) (predicate : Predicate) : List Part :=
  (parts around predicate).filter fun part => part.Outermost threshold

theorem mem_around_of_mem_parts {part : Part} (member : part ∈ parts around predicate)
    {outer : Predicate} (among : outer ∈ around) : outer ∈ part.around := by
  induction predicate generalizing around with
  | compare | oneOf | text | native =>
    rw [parts, List.mem_singleton] at member
    subst member
    exact among
  | any _ inner ih | all _ inner ih | not inner ih =>
    rw [parts] at member
    rcases List.mem_cons.mp member with rfl | below
    · exact among
    · exact ih below (List.mem_cons_of_mem _ among)
  | and left right ihLeft ihRight | or left right ihLeft ihRight =>
    rw [parts] at member
    rcases List.mem_cons.mp member with rfl | below
    · exact among
    · rcases List.mem_append.mp below with below | below
      · exact ihLeft below (List.mem_cons_of_mem _ among)
      · exact ihRight below (List.mem_cons_of_mem _ among)

/-- The first of the parts is the whole, and it is around all others. -/
theorem parts_eq_cons (around : List Predicate) (predicate : Predicate) :
    ∃ below, parts around predicate = ⟨predicate, around⟩ :: below ∧
      ∀ part ∈ below, predicate ∈ part.around := by
  refine ⟨(parts around predicate).tail, by cases predicate <;> rfl, fun part member => ?_⟩
  cases predicate with
  | compare | oneOf | text | native => cases member
  | any | all | not => exact mem_around_of_mem_parts member List.mem_cons_self
  | and | or =>
    rcases List.mem_append.mp member with member | member
    · exact mem_around_of_mem_parts member List.mem_cons_self
    · exact mem_around_of_mem_parts member List.mem_cons_self

/-- Equalities have no list in them, but may be one. -/
theorem lists_of_chain (chain : Chain predicate) (apart : ∀ outer ∈ around, ¬ Chain outer) :
    lists threshold around predicate =
      if Listed threshold predicate then [⟨predicate, around⟩] else [] := by
  obtain ⟨below, made, within⟩ := parts_eq_cons around predicate
  have inner : below.filter (fun part => part.Outermost threshold) = [] := by
    refine List.filter_eq_nil_iff.mpr fun part member => ?_
    rw [decide_eq_true_eq]
    exact fun outermost => outermost.2 predicate (within part member) chain
  rw [lists, made, List.filter_cons, inner]
  refine if_congr ?_ rfl rfl
  rw [decide_eq_true_eq]
  exact and_iff_left apart

/-- A part that is not listed itself has the lists of what it is made of. -/
theorem lists_of_not_listed {below : List Part}
    (made : parts around predicate = ⟨predicate, around⟩ :: below)
    (unlisted : ¬ Listed threshold predicate) :
    lists threshold around predicate = below.filter fun part => part.Outermost threshold := by
  rw [lists, made]
  refine List.filter_cons_of_neg ?_
  rw [decide_eq_true_eq]
  exact fun outermost => unlisted outermost.1

theorem reports_list {operand : Operand} {tree : Equalities} :
    Reports ⟨tree.predicate operand, around⟩
      ⟨operand.path.joined "_", tree.constants.length⟩ := by
  refine ⟨operand, tree, rfl, rfl, fun place column named => ?_⟩
  by_cases element : operand.path = []
  · rw [element]
    exact ⟨fun same => Or.inr same.symm, fun unnamed => (unnamed.resolve_left (· rfl)).symm⟩
  · rw [columnName?, if_neg (by simpa using element)] at named
    exact iff_of_true (Option.some.inj named) (Or.inl element)

theorem not_listed (unlisted : isListed threshold predicate = false) :
    ¬ Listed threshold predicate := by
  rw [← isListed_iff, unlisted]
  exact nofun

theorem not_chain (unlisted : (asList? 0 predicate).isSome = false) : ¬ Chain predicate := by
  rw [← isSome_asList?_iff, unlisted]
  exact nofun

theorem asList?_of_not_chain (loose : ¬ Chain predicate) : asList? threshold predicate = none := by
  refine Option.eq_none_iff_forall_ne_some.mpr fun list listed => ?_
  obtain ⟨tree, made, -, -⟩ := Equalities.exists_of_asList? listed
  exact loose ⟨list.1, tree, made⟩

theorem apart_cons (loose : ¬ Chain predicate) (apart : ∀ outer ∈ around, ¬ Chain outer) :
    ∀ outer ∈ predicate :: around, ¬ Chain outer :=
  List.forall_mem_cons.mpr ⟨loose, apart⟩

theorem forall₂_lists_predicate {tree : Equalities} {operand : Operand} {expr : Expr}
    {steps : List OrToIn} (apart : ∀ outer ∈ around, ¬ Chain outer)
    (compiled : condition catalog place (tree.predicate operand) = .ok (expr, steps)) :
    List.Forall₂ Reports (lists catalog.threshold around (tree.predicate operand)) steps := by
  rw [tree.condition_predicate] at compiled
  rw [lists_of_chain ⟨operand, tree, rfl⟩ apart]
  cases named : operandColumn place operand with
  | error fault =>
    rw [named] at compiled
    cases compiled
  | ok column =>
    simp only [named, Except.map, Except.ok.injEq] at compiled
    simp only [listed_predicate_iff]
    cases long : tree.isLong catalog.threshold with
    | true =>
      rw [long, if_pos rfl] at compiled
      cases compiled
      exact .cons reports_list .nil
    | false =>
      rw [long, if_neg Bool.false_ne_true] at compiled
      cases compiled
      exact .nil

/-- What is reported are the lists, in their order. -/
theorem forall₂_lists {expr : Expr} {steps : List OrToIn}
    (apart : ∀ outer ∈ around, ¬ Chain outer)
    (compiled : condition catalog place predicate = .ok (expr, steps)) :
    List.Forall₂ Reports (lists catalog.threshold around predicate) steps := by
  induction predicate generalizing place around expr steps with
  | compare operand op constant | oneOf operand constants | text operand position pattern =>
    obtain ⟨column, named, same⟩ := bind_eq_ok.mp compiled
    cases same
    rw [lists_of_not_listed rfl (not_listed rfl)]
    exact .nil
  | native => cases compiled
  | any path inner ih =>
    obtain ⟨table, inside, found, within, rfl⟩ := condition_any_eq_ok compiled
    have loose : ¬ Chain (.any path inner) := not_chain rfl
    rw [lists_of_not_listed rfl fun listed => loose listed.chain]
    exact ih (apart_cons loose apart) within
  | all path inner ih =>
    obtain ⟨table, inside, found, within, rfl⟩ := condition_all_eq_ok compiled
    have loose : ¬ Chain (.all path inner) := not_chain rfl
    rw [lists_of_not_listed rfl fun listed => loose listed.chain]
    exact ih (apart_cons loose apart) within
  | and left right ihLeft ihRight =>
    obtain ⟨first, second, _, _, leads, follows, rfl, rfl⟩ := condition_and_eq_ok compiled
    have loose : ¬ Chain (.and left right) := not_chain rfl
    have below := apart_cons loose apart
    rw [lists_of_not_listed rfl fun listed => loose listed.chain, List.filter_append]
    exact List.rel_append (ihLeft below leads) (ihRight below follows)
  | or left right ihLeft ihRight =>
    -- Equalities are one list or none; everything else has the lists of both sides.
    by_cases chain : Chain (.or left right)
    · obtain ⟨operand, tree, made⟩ := chain
      rw [← made] at compiled ⊢
      exact forall₂_lists_predicate apart compiled
    · obtain ⟨operand, constants, column, listed, -⟩ |
        ⟨first, second, _, _, leads, follows, rfl, rfl⟩ := condition_or_eq_ok compiled
      · rw [asList?_of_not_chain chain] at listed
        cases listed
      have below := apart_cons chain apart
      rw [lists_of_not_listed rfl fun listed => chain listed.chain, List.filter_append]
      exact List.rel_append (ihLeft below leads) (ihRight below follows)
  | not inner ih =>
    obtain ⟨inside, within, rfl⟩ := condition_not_eq_ok compiled
    have loose : ¬ Chain (.not inner) := not_chain rfl
    rw [lists_of_not_listed rfl fun listed => loose listed.chain]
    exact ih (apart_cons loose apart) within

end Reports

/-- A list stands for its disjunction. In records it holds of the same values, and in rows it is
true, false or unknown with the equalities written out. From how many equalities on lists are
written changes no condition. What is reported are the lists, from the left, of disjunctions that no
larger one is around, each with the number of its equalities, and with its column unless that is the
one for elements that are no records. -/
theorem lists_stand_for_disjunctions (tree : Equalities) (operand : Operand)
    (predicate : Predicate) (catalog : Catalog) (place : Place) :
    ((∀ value, (tree.predicate operand).holds value =
        (Predicate.oneOf operand tree.constants).holds value) ∧
      (∀ column database rows, (membership column tree.constants).cell database rows =
        (tree.expr column).cell database rows) ∧
      condition catalog place (tree.predicate operand) =
        (operandColumn place operand).map fun column =>
          if tree.isLong catalog.threshold then
            (membership column tree.constants, [⟨operand.path.joined "_", tree.constants.length⟩])
          else (tree.expr column, [])) ∧
    (∀ threshold, SameOnRows (condition catalog place predicate)
      (condition { catalog with threshold } place predicate)) ∧
    condition catalog place (inLists catalog.threshold predicate) =
      (condition catalog place predicate).map (fun compiled => (compiled.1, [])) ∧
    ∀ expr steps, condition catalog place predicate = .ok (expr, steps) →
      List.Forall₂ Reports (lists catalog.threshold [] predicate) steps := by
  refine ⟨⟨tree.holds_predicate operand, fun column database rows => tree.cell_membership column,
    tree.condition_predicate operand catalog place⟩, fun threshold => ?thresholds,
    condition_inLists predicate, fun expr steps compiled => ?reports⟩
  case thresholds =>
    have shared : ({ catalog with threshold } : Catalog).collections = catalog.collections := rfl
    exact sameOnRows_condition shared predicate
  case reports => exact forall₂_lists (List.forall_mem_nil _) compiled

/-- Three equalities of one field, and the opposite of two of another. -/
def openOrLate : Predicate :=
  .and
    (.or (.compare ⟨["state"], false⟩ .eq (.text "open"))
      (.or (.compare ⟨["state"], false⟩ .eq (.text "new"))
        (.compare ⟨["state"], false⟩ .eq (.text "held"))))
    (.not (.or (.compare ⟨["days", "left"], false⟩ .eq (.int 1))
      (.compare ⟨["days", "left"], false⟩ .eq (.int 2))))

/-- From two equalities on there are two lists, and from three on there is one. -/
theorem openOrLate_lists :
    ∃ two three, condition { threshold := 2 } {} openOrLate =
        .ok (two, [⟨"state", 3⟩, ⟨"days_left", 2⟩]) ∧
      condition { threshold := 3 } {} openOrLate = .ok (three, [⟨"state", 3⟩]) ∧
      two.Agrees three ∧
      List.Forall₂ Reports (lists 2 [] openOrLate) [⟨"state", 3⟩, ⟨"days_left", 2⟩] := by
  obtain ⟨-, thresholds, -, reports⟩ := lists_stand_for_disjunctions
    (.equal (.int 1) nofun) ⟨["days", "left"], false⟩ openOrLate { threshold := 2 } {}
  exact ⟨_, _, rfl, rfl, thresholds 3, reports _ _ rfl⟩

/-- The table of tags, which are texts. -/
def tagTable : CollectionTable :=
  ⟨"tags", "article_id", "tag"⟩

/-- A tag is one of three texts. -/
def filedUnder : Predicate :=
  .any ["tags"] (.or (.compare ⟨[], false⟩ .eq (.text "a"))
    (.or (.compare ⟨[], false⟩ .eq (.text "b")) (.compare ⟨[], false⟩ .eq (.text "c"))))

/-- The list of tags is one of their column, but what is reported names none. -/
theorem filedUnder_names_no_column :
    condition { collections := [("tags", tagTable)] } {} filedUnder =
        .ok (someElement {} tagTable (.inList (.column 1 "tag") [.text "a", .text "b", .text "c"]),
          [⟨"", 3⟩]) ∧
      ¬ ∀ expr steps,
        condition { collections := [("tags", tagTable)] } {} filedUnder = .ok (expr, steps) →
          ∀ step ∈ steps,
            columnName? (elementPlace {} "tags" tagTable) [] = some step.column := by
  refine ⟨rfl, fun named => ?_⟩
  have column : some "tag" = some "" := named _ _ rfl ⟨"", 3⟩ List.mem_cons_self
  exact absurd column (by decide)

end ListQuery.Sql
