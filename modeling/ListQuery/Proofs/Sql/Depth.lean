import ListQuery.Proofs.Compile.Reading
import ListQuery.Proofs.Filter.Nesting
import ListQuery.Sample.Models
import ListQuery.Sql.Condition

/-! How deep the work on a text goes. The compiler adds at most two levels, a quantifier and a
negation, to each level of a filter, and the height of a filter is limited. So a condition that
comes from a text has a limited height, and neither its evaluation nor its translation to SQL nests
more calls than a multiple of that limit. -/

namespace ListQuery

/-! ### Evaluation -/

namespace Predicate

/-- The levels of a condition. A condition on one field has one. -/
def height : Predicate → Nat
  | compare .. | oneOf .. | text .. | native _ => 1
  | any _ inner | all _ inner | not inner => inner.height + 1
  | and left right | or left right => max left.height right.height + 1

theorem one_le_height (p : Predicate) : 1 ≤ p.height := by
  cases p <;> simp [height]

/-- There is room for a call on a condition. -/
theorem exists_succ_of_height_le {p : Predicate} {depth : Nat} (enough : p.height ≤ depth) :
    ∃ n, depth = n + 1 :=
  Nat.exists_eq_add_of_le' (Nat.le_trans p.one_le_height enough)

/-- Whether a value meets a condition, if that can be told with calls nested at most `depth` deep:
one call for each part of the condition. -/
def holdsWithin : Nat → Predicate → Value → Option Bool
  | 0, _, _ => none
  | depth + 1, p, subject =>
    match p with
    | any path inner =>
      match subject.lookup? path with
      | some (.list items) => items.anyM (holdsWithin depth inner)
      | _ => some false
    | all path inner =>
      match subject.lookup? path with
      | some (.list items) => items.allM (holdsWithin depth inner)
      | some .null => some true
      | _ => some false
    | and left right => do
      if ← holdsWithin depth left subject then holdsWithin depth right subject else return false
    | or left right => do
      if ← holdsWithin depth left subject then return true else holdsWithin depth right subject
    | not inner => return !(← holdsWithin depth inner subject)
    | compare .. | oneOf .. | text .. | native _ => some (p.holds subject)

/-- Calls that may be nested as deep as the condition is high tell what the condition says. -/
theorem holdsWithin_eq_some {p : Predicate} {depth : Nat} (enough : p.height ≤ depth)
    (subject : Value) : p.holdsWithin depth subject = some (p.holds subject) := by
  induction p generalizing depth subject with
  | compare | oneOf | text | native =>
    obtain ⟨depth, rfl⟩ := exists_succ_of_height_le enough
    rfl
  | any path inner ih =>
    obtain ⟨depth, rfl⟩ := exists_succ_of_height_le enough
    have each : holdsWithin depth inner = fun subject => pure (inner.holds subject) :=
      funext (ih (Nat.le_of_succ_le_succ enough))
    simp only [holdsWithin, holds, each, List.anyM_pure]
    cases subject.lookup? path with
    | none => rfl
    | some found => cases found <;> rfl
  | all path inner ih =>
    obtain ⟨depth, rfl⟩ := exists_succ_of_height_le enough
    have each : holdsWithin depth inner = fun subject => pure (inner.holds subject) :=
      funext (ih (Nat.le_of_succ_le_succ enough))
    simp only [holdsWithin, holds, each, List.allM_pure]
    cases subject.lookup? path with
    | none => rfl
    | some found => cases found <;> rfl
  | not inner ih =>
    obtain ⟨depth, rfl⟩ := exists_succ_of_height_le enough
    simp only [holdsWithin, holds, ih (Nat.le_of_succ_le_succ enough)]
    rfl
  | and left right first second | or left right first second =>
    obtain ⟨depth, rfl⟩ := exists_succ_of_height_le enough
    obtain ⟨leftEnough, rightEnough⟩ := Nat.max_le.mp (Nat.le_of_succ_le_succ enough)
    simp only [holdsWithin, holds, first leftEnough, second rightEnough]
    cases left.holds subject <;> rfl

end Predicate

/-! ### Heights of compiled conditions -/

namespace Predicate

theorem height_negatedIf_le {negated : Bool} {p : Predicate} {levels : Nat}
    (low : p.height ≤ levels) : (p.negatedIf negated).height ≤ levels + 1 := by
  cases negated
  · exact Nat.le_succ_of_le low
  · exact Nat.succ_le_succ low

end Predicate

namespace Compile

variable {M : Type} [Schema M] [DecidableEq M] {config : Config M} {scope : Scope M}

omit [Schema M] [DecidableEq M] in
theorem height_of_asks {stands : Option String → Scalar → Prop} {operand : Operand}
    {type : FieldType M} {raw : List (Option String)} {p : Predicate}
    (asks : Asks stands operand type raw p) : p.height = 1 := by
  cases asks <;> rfl

/-- A join of what is left of two sides adds a level for itself and one for its negation. -/
theorem height_le_of_combine {join : Predicate → Predicate → Predicate}
    (level : ∀ p q, (join p q).height = max p.height q.height + 1) {a b : Option Predicate}
    {left right : Nat} (first : ∀ p, a = some p → p.height ≤ 2 * left + 1)
    (second : ∀ q, b = some q → q.height ≤ 2 * right + 1) {negated : Bool} {p : Predicate}
    (same : some p = (combine join a b).map (·.negatedIf negated)) :
    p.height ≤ 2 * (max left right + 1) + 1 := by
  rcases a with _ | a <;> rcases b with _ | b <;> cases same <;>
    refine Predicate.height_negatedIf_le ?_
  · have low := second _ rfl
    omega
  · have low := first _ rfl
    omega
  · have low := first _ rfl
    have other := second _ rfl
    rw [level]
    omega

/-- Without hooks, the compiler adds at most two levels to each level of a filter, and one below. -/
theorem height_le_of_filter (plain : WithoutFilterHooks config) {f : Filter} {p : Predicate}
    (compiled : (filter config scope f).result = .ok (some p)) :
    p.height ≤ 2 * f.height + 1 := by
  induction f generalizing scope p with
  | clause property operator raw negated caseInsensitive =>
    obtain ⟨target, q, found, made, rfl⟩ := clause_eq_ok_some compiled
    refine Predicate.height_negatedIf_le ?_
    rw [condition, customFilter_of_visible plain found] at made
    rcases fieldClause_eq_ok made with ⟨element, inner, type, inside, within, rfl⟩ | within
    · exact Nat.le_of_eq (congrArg (· + 1) (height_of_asks (asks_of_scalarClause within)))
    · exact Nat.le_succ_of_le (Nat.le_of_eq (height_of_asks (asks_of_scalarClause within)))
  | collection property inner quantifier negated ih =>
    obtain ⟨target, element, q, found, type, made, rfl⟩ := collection_eq_ok_some compiled
    have low := ih made
    refine Predicate.height_negatedIf_le ?_
    have level : (quantify quantifier target.path q).height = q.height + 1 := by
      cases quantifier <;> rfl
    rw [level, Filter.height]
    omega
  | and left right negated ihLeft ihRight =>
    obtain ⟨a, b, first, second, same⟩ := filter_and_eq_ok.mp compiled
    exact height_le_of_combine (fun _ _ => rfl) (fun _ kept => ihLeft (kept ▸ first))
      (fun _ kept => ihRight (kept ▸ second)) same
  | or left right negated ihLeft ihRight =>
    obtain ⟨a, b, first, second, same⟩ := filter_or_eq_ok.mp compiled
    exact height_le_of_combine (fun _ _ => rfl) (fun _ kept => ihLeft (kept ▸ first))
      (fun _ kept => ihRight (kept ▸ second)) same

end Compile

/-! ### Translation to SQL -/

namespace Sql

/-- The equalities of a disjunction as a list, if they are enough and all on one operand. -/
def asOne? (threshold : Nat) : List (Operand × Scalar) → Option (Operand × List Scalar)
  | [] => none
  | (operand, scalar) :: rest =>
    if threshold ≤ rest.length + 1 && rest.all (·.1 == operand) then
      some (operand, scalar :: rest.map (·.2))
    else none

theorem asList?_eq_bind (threshold : Nat) (p : Predicate) :
    asList? threshold p = (equalities? p).bind (asOne? threshold) := by
  rw [asList?]
  cases equalities? p with
  | none => rfl
  | some listed => cases listed <;> rfl

/-- The equalities of a disjunction, with calls nested at most `depth` deep. -/
def equalitiesWithin : Nat → Predicate → Option (Option (List (Operand × Scalar)))
  | 0, _ => none
  | depth + 1, p =>
    match p with
    | .or left right => do
      match ← equalitiesWithin depth left with
      | none => return none
      | some first => return (← equalitiesWithin depth right).map (first ++ ·)
    | leaf => some (equalities? leaf)

theorem equalitiesWithin_eq_some {p : Predicate} {depth : Nat} (enough : p.height ≤ depth) :
    equalitiesWithin depth p = some (equalities? p) := by
  induction p generalizing depth with
  | or left right first second =>
    obtain ⟨depth, rfl⟩ := Predicate.exists_succ_of_height_le enough
    obtain ⟨leftEnough, rightEnough⟩ := Nat.max_le.mp (Nat.le_of_succ_le_succ enough)
    simp only [equalitiesWithin, equalities?, first leftEnough, second rightEnough]
    cases equalities? left <;> rfl
  | _ =>
    obtain ⟨depth, rfl⟩ := Predicate.exists_succ_of_height_le enough
    rfl

/-- A disjunction as a list, with calls nested at most `depth` deep. -/
def asListWithin (threshold depth : Nat) (p : Predicate) :
    Option (Option (Operand × List Scalar)) :=
  (equalitiesWithin depth p).map (·.bind (asOne? threshold))

theorem asListWithin_eq_some {p : Predicate} {depth : Nat} (enough : p.height ≤ depth)
    (threshold : Nat) : asListWithin threshold depth p = some (asList? threshold p) := by
  rw [asListWithin, equalitiesWithin_eq_some enough, asList?_eq_bind, Option.map_some]

/-- A condition as it is translated with calls nested at most `depth` deep: one call for each part,
and for a quantifier over all elements another one for the negation of what is asked of them. -/
def conditionWithin (catalog : Catalog) :
    Nat → Place → Predicate → ExceptT SqlError Option (Expr × List OrToIn)
  | 0, _, _ => ExceptT.mk none
  | depth + 1, place, p =>
    match p with
    | .any path inner =>
      match catalog.collections.get? (collectionKey place path) with
      | none => throw (.unmappedCollection (collectionKey place path))
      | some table => do
        let within := elementPlace place (collectionKey place path) table
        let (inside, steps) ← conditionWithin catalog depth within inner
        return (someElement place table inside, steps)
    | .all path inner =>
      match catalog.collections.get? (collectionKey place path) with
      | none => throw (.unmappedCollection (collectionKey place path))
      | some table => do
        let within := elementPlace place (collectionKey place path) table
        let (inside, steps) ← conditionWithin catalog depth within (.not inner)
        return (.not (someElement place table inside), steps)
    | .and left right => do
      let (left, first) ← conditionWithin catalog depth place left
      let (right, second) ← conditionWithin catalog depth place right
      return (.and left right, first ++ second)
    | .or left right => do
      match ← ExceptT.lift (asListWithin catalog.threshold depth (.or left right)) with
      | some (operand, scalars) => do
        let column ← ExceptT.mk (some (operandColumn place operand))
        return (membership column scalars, [⟨operand.path.joined "_", scalars.length⟩])
      | none => do
        let (left, first) ← conditionWithin catalog depth place left
        let (right, second) ← conditionWithin catalog depth place right
        return (.or left right, first ++ second)
    | .not inner => do
      let (inside, steps) ← conditionWithin catalog depth place inner
      return (negated inner inside, steps)
    | leaf => ExceptT.mk (some (condition catalog place leaf))

theorem lift_some_bind {α β : Type} (a : α) (next : α → ExceptT SqlError Option β) :
    ExceptT.lift (some a) >>= next = next a :=
  rfl

theorem exists_succ_of_double_height_le {p : Predicate} {depth : Nat}
    (enough : 2 * p.height ≤ depth) : ∃ n, depth = n + 1 :=
  Predicate.exists_succ_of_height_le (Nat.le_trans (Nat.le_mul_of_pos_left _ (by decide)) enough)

/-- Calls that may be nested twice as deep as the condition is high translate the condition. -/
theorem conditionWithin_eq {catalog : Catalog} {p : Predicate} {depth : Nat}
    (enough : 2 * p.height ≤ depth) (place : Place) :
    conditionWithin catalog depth place p = ExceptT.mk (some (condition catalog place p)) := by
  induction p generalizing depth place with
  | compare | oneOf | text | native =>
    obtain ⟨depth, rfl⟩ := exists_succ_of_double_height_le enough
    rfl
  | any path inner ih =>
    obtain ⟨depth, rfl⟩ := exists_succ_of_double_height_le enough
    have room : 2 * inner.height ≤ depth := by
      rw [Predicate.height] at enough
      omega
    simp only [conditionWithin, condition, ih room]
    cases catalog.collections.get? (collectionKey place path) with
    | none => rfl
    | some table =>
      simp only
      cases condition catalog (elementPlace place (collectionKey place path) table) inner <;> rfl
  | all path inner ih =>
    -- The negation is a part of its own.
    obtain ⟨depth, rfl⟩ : ∃ n, depth = n + 2 := Nat.exists_eq_add_of_le' (by
      rw [Predicate.height] at enough
      omega)
    have room : 2 * inner.height ≤ depth := by
      rw [Predicate.height] at enough
      omega
    simp only [conditionWithin, condition, ih room]
    cases catalog.collections.get? (collectionKey place path) with
    | none => rfl
    | some table =>
      simp only
      cases condition catalog (elementPlace place (collectionKey place path) table) inner <;> rfl
  | not inner ih =>
    obtain ⟨depth, rfl⟩ := exists_succ_of_double_height_le enough
    have room : 2 * inner.height ≤ depth := by
      rw [Predicate.height] at enough
      omega
    simp only [conditionWithin, condition, ih room]
    cases condition catalog place inner <;> rfl
  | and left right first second =>
    obtain ⟨depth, rfl⟩ := exists_succ_of_double_height_le enough
    have room : 2 * left.height ≤ depth ∧ 2 * right.height ≤ depth := by
      rw [Predicate.height] at enough
      omega
    simp only [conditionWithin, condition, first room.1, second room.2]
    cases condition catalog place left <;> cases condition catalog place right <;> rfl
  | or left right first second =>
    obtain ⟨depth, rfl⟩ := exists_succ_of_double_height_le enough
    have room : 2 * left.height ≤ depth ∧ 2 * right.height ≤ depth ∧
        (Predicate.or left right).height ≤ depth := by
      simp only [Predicate.height] at enough ⊢
      omega
    simp only [conditionWithin, condition, first room.1, second room.2.1,
      asListWithin_eq_some room.2.2]
    cases asList? catalog.threshold (.or left right) with
    | none =>
      cases condition catalog place left <;> cases condition catalog place right <;> rfl
    | some listed =>
      simp only [lift_some_bind]
      cases operandColumn place listed.1 <;> rfl

end Sql

/-! ### Texts -/

variable {M : Type} [Schema M] [DecidableEq M]

/-- No text makes the work on it nest deep. A filter is no higher than the limit, and the parser has
failed, whatever follows, once one group more than the limit would be open. Without hooks the
compiler adds at most two levels to each level of a filter, and one below. A condition that comes
from a text has therefore a limited height, and its evaluation, and its translation to SQL at any
place, are done with calls that are nested no deeper than a fixed multiple of the limit. -/
theorem texts_force_no_deep_nesting {config : Config M}
    (hookFree : Compile.WithoutFilterHooks config) :
    (∀ text node, Filter.parse text = .ok (some node) →
      node.height ≤ Filter.maxDepth ∧
        Filter.OpenAtMost Filter.maxDepth (Filter.textKinds text)) ∧
    (∀ front : List Filter.Token,
      ¬ Filter.OpenAtMost Filter.maxDepth (Filter.kinds front) →
        ∃ error, ∀ back, Filter.ofTokens (front ++ back) = .error error) ∧
    (∀ scope node p, (Compile.filter config scope node).result = .ok (some p) →
      p.height ≤ 2 * node.height + 1) ∧
    ∀ model text p, (compileFilter config model text).result = .ok (some p) →
      p.height ≤ 2 * Filter.maxDepth + 1 ∧
      (∀ record, p.holdsWithin (2 * Filter.maxDepth + 1) record = some (p.holds record)) ∧
      ∀ catalog place, (Sql.conditionWithin catalog (4 * Filter.maxDepth + 2) place p).run =
        some (Sql.condition catalog place p) := by
  have compiled_le {scope : Scope M} {node : Filter} {p : Predicate} :
      (Compile.filter config scope node).result = .ok (some p) → p.height ≤ 2 * node.height + 1 :=
    Compile.height_le_of_filter hookFree
  refine ⟨fun text node parsed => (Filter.parse_eq_some_iff.mp parsed).2,
    fun front crowded => Filter.ofTokens_of_crowded crowded,
    fun scope node p compiled => compiled_le compiled, fun model text p compiled => ?_⟩
  obtain ⟨node, parsed, made⟩ := compileFilter_eq_ok_some compiled
  have low : node.height ≤ Filter.maxDepth := (Filter.parse_eq_some_iff.mp parsed).2.1
  have lower : p.height ≤ 2 * Filter.maxDepth + 1 :=
    Nat.le_trans (compiled_le made) (Nat.succ_le_succ (Nat.mul_le_mul_left 2 low))
  refine ⟨lower, fun record => Predicate.holdsWithin_eq_some lower record, fun catalog place => ?_⟩
  rw [Sql.conditionWithin_eq (by omega)]
  rfl

/-- A negated clause on the elements of a list, which is as high as a compiled clause can be. -/
def withoutTag : Predicate :=
  .not (.any ["tags"] (.compare ⟨[], false⟩ .eq (.text "a")))

theorem withoutTag_nests_three_levels :
    Compile.WithoutFilterHooks ({} : Config Sample.Model) ∧
    (compileFilter ({} : Config Sample.Model) .user "!tags=='a'").result = .ok (some withoutTag) ∧
    withoutTag.height = 2 * 1 + 1 ∧
    (∀ record, withoutTag.holdsWithin (2 * Filter.maxDepth + 1) record =
      some (withoutTag.holds record)) ∧
    ∃ error, ∀ back,
      Filter.ofTokens (List.replicate (Filter.maxDepth + 1) ⟨.opening, 0, 0⟩ ++ back) =
        .error error := by
  have hookFree : Compile.WithoutFilterHooks ({} : Config Sample.Model) := fun _ _ => rfl
  have parsed : Filter.parse "!tags=='a'" =
      .ok (some (.clause "tags" .equal [some "a"] true false)) := by
    decide +kernel
  have compiled : (compileFilter ({} : Config Sample.Model) .user "!tags=='a'").result =
      .ok (some withoutTag) := by
    rw [compileFilter_result parsed]
    rfl
  have crowded : ¬ Filter.OpenAtMost Filter.maxDepth
      (Filter.kinds (List.replicate (Filter.maxDepth + 1) ⟨.opening, 0, 0⟩)) := by
    intro few
    have counted := few _ (List.prefix_refl _)
    rw [Filter.kinds, List.map_replicate, List.count_replicate_self,
      List.count_eq_zero_of_not_mem (by simp)] at counted
    omega
  obtain ⟨-, stops, -, limited⟩ := texts_force_no_deep_nesting hookFree
  obtain ⟨-, evaluated, -⟩ := limited .user "!tags=='a'" withoutTag compiled
  exact ⟨hookFree, compiled, rfl, evaluated, stops _ crowded⟩

end ListQuery
