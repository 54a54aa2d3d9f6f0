import Mathlib.Data.List.Forall2
import ListQuery.Proofs.Compile.Reading
import ListQuery.Proofs.Schema.Records
import ListQuery.Sample.Models

/-! Compiled conditions are well typed. Where no hook and no converter has its own way, each path
leads to a declared type, each constant is of the scalar type inside it, and lower case is asked of
texts alone, with the literals as they were written but for their case. A record of its declared
type therefore has a value wherever a condition looks. -/

namespace ListQuery

/-! ### Types of constants -/

/-- The type inside all lists. -/
def FieldType.innermost {M : Type} : FieldType M → FieldType M
  | .list element => element.innermost
  | type => type

/-- The type of a constant. Null has none of its own. -/
def Scalar.type? {M : Type} : Scalar → Option (FieldType M)
  | .null => none
  | .bool _ => some .bool
  | .int _ => some .int
  | .float _ => some .float
  | .text _ => some .text
  | .instant _ => some .instant

/-- A constant is null or of the scalar type inside a type. -/
def Scalar.OfType {M : Type} (constant : Scalar) (type : FieldType M) : Prop :=
  constant = .null ∨ constant.type? = some type.innermost

theorem Scalar.OfType.foldCase {M : Type} {constant : Scalar} {type : FieldType M}
    (typed : constant.OfType type) : constant.foldCase.OfType type := by
  cases constant with
  | text => exact Or.inr (typed.resolve_left nofun)
  | _ => exact typed

namespace Literal

variable {M : Type}

/-- A text that is a literal never stands for null. -/
theorem type?_of_scalarOf {raw : String} {type : FieldType M} {constant : Scalar}
    (read : scalarOf raw type = .ok constant) : constant.type? = some type.innermost := by
  have mapped {α : Type} {value : Except LiteralFault α} {make : α → Scalar}
      {scalar : FieldType M} (same : value.map make = .ok constant)
      (typed : ∀ a, (make a).type? = some scalar) : constant.type? = some scalar := by
    cases value with
    | error fault => cases same
    | ok a =>
      cases same
      exact typed a
  induction type with
  | bool | int | float | instant => exact mapped read fun _ => rfl
  | text =>
    cases read
    rfl
  | list element ih => exact ih read
  | record model => cases read

/-- A literal stands for a constant of the type that it is read at. -/
theorem ofType_scalar {raw : Option String} {type : FieldType M} {constant : Scalar}
    (read : scalar raw type = .ok constant) : constant.OfType type := by
  cases raw with
  | none =>
    cases read
    exact Or.inl rfl
  | some text => exact Or.inr (type?_of_scalarOf read)

end Literal

/-! ### Constants as they were written -/

/-- The operands of a condition, from the left, each with its constants. -/
def Predicate.leaves : Predicate → List (Operand × List Scalar)
  | .compare operand _ constant => [(operand, [constant])]
  | .oneOf operand constants => [(operand, constants)]
  | .text operand _ pattern => [(operand, [.text pattern])]
  | .any _ inner | .all _ inner | .not inner => inner.leaves
  | .and left right | .or left right => left.leaves ++ right.leaves
  | .native _ => []

/-- The clauses of a filter, from the left: the literals of each, and whether they are marked with
an asterisk. -/
def Filter.clauses : Filter → List (List (Option String) × Bool)
  | .clause _ _ raw _ caseInsensitive => [(raw, caseInsensitive)]
  | .collection _ inner _ _ => inner.clauses
  | .and left right _ | .or left right _ => left.clauses ++ right.clauses

/-- A literal in lower case. -/
def lowered : Option String → Scalar
  | none => .null
  | some text => .text (Text.lowercase text)

/-- An operand in lower case comes from a clause with an asterisk, and its constants are the
clause's literals in lower case. -/
def Spells (leaf : Operand × List Scalar) (clause : List (Option String) × Bool) : Prop :=
  leaf.1.foldCase = true → clause.2 = true ∧ leaf.2 = clause.1.map lowered

/-- A condition's operands come from some of the clauses, in their order. -/
def Predicate.SpelledFrom (clauses : List (List (Option String) × Bool)) (p : Predicate) : Prop :=
  ∃ kept, kept.Sublist clauses ∧ List.Forall₂ Spells p.leaves kept

theorem Predicate.leaves_negatedIf (negated : Bool) (p : Predicate) :
    (p.negatedIf negated).leaves = p.leaves := by
  cases negated <;> rfl

/-! ### Where conditions look -/

/-- What a condition can look up on a value, whether or not an earlier part decides. -/
def Predicate.lookups : Predicate → Value → List (Option Value)
  | .compare operand _ _, subject | .oneOf operand _, subject | .text operand _ _, subject =>
    [subject.lookup? operand.path]
  | .any path inner, subject | .all path inner, subject =>
    subject.lookup? path ::
      match subject.lookup? path with
      | some (.list items) => items.flatMap inner.lookups
      | _ => []
  | .and left right, subject | .or left right, subject =>
    left.lookups subject ++ right.lookups subject
  | .not inner, subject => inner.lookups subject
  | .native _, _ => []

namespace Compile

variable {M : Type} [Schema M] [DecidableEq M] {config : Config M} {scope : Scope M}

/-- A scope's path finds a value of the type that it leads to. -/
theorem lookup?_of_leads {path : FieldPath} {type : FieldType M}
    (leads : scope.Leads config path type) {value : Value} (typed : value.HasType scope.type) :
    ∃ found, value.lookup? path = some found ∧ found.HasType type := by
  cases leads with
  | field leads => exact typed.lookup? leads
  | element => exact ⟨value, rfl, typed⟩

theorem none_not_mem_lookup {path : FieldPath} {type : FieldType M}
    (leads : scope.Leads config path type) {value : Value} (typed : value.HasType scope.type) :
    none ∉ [value.lookup? path] := by
  obtain ⟨found, same, -⟩ := lookup?_of_leads leads typed
  simp [same]

/-- A quantifier looks up its list, and what is asked of the elements. -/
theorem none_not_mem_elements {path : FieldPath} {element : FieldType M} {inner : Predicate}
    (leads : scope.Leads config path (.list element)) {value : Value}
    (typed : value.HasType scope.type)
    (inside : ∀ item : Value, item.HasType element → none ∉ inner.lookups item) :
    none ∉ (Predicate.any path inner).lookups value := by
  obtain ⟨found, same, foundTyped⟩ := lookup?_of_leads leads typed
  rw [Predicate.lookups, same, List.mem_cons, not_or]
  refine ⟨nofun, ?_⟩
  cases foundTyped with
  | null => exact List.not_mem_nil
  | list each =>
    intro absent
    obtain ⟨item, among, missed⟩ := List.mem_flatMap.mp absent
    exact inside item (each item among) missed

/-- What a condition reads within its scope, a value of the scope's type has. -/
theorem none_not_mem_lookups {fits : FieldType M → Operand → List Scalar → Prop} {p : Predicate}
    (within : p.Within config fits scope) {value : Value} (typed : value.HasType scope.type) :
    none ∉ p.lookups value := by
  induction p generalizing scope value with
  | compare | oneOf =>
    obtain ⟨type, leads, -⟩ := within
    exact none_not_mem_lookup leads typed
  | text => exact none_not_mem_lookup within.1 typed
  | any path inner ih | all path inner ih =>
    obtain ⟨element, leads, inside⟩ := within
    refine none_not_mem_elements leads typed fun item itemTyped => ih inside ?_
    rwa [Scope.type_elementScope]
  | and left right ihLeft ihRight | or left right ihLeft ihRight =>
    rw [Predicate.lookups, List.mem_append, not_or]
    exact ⟨ihLeft within.1 typed, ihRight within.2 typed⟩
  | not inner ih => exact ih within typed
  | native => exact within.elim

/-- The look-ups of a condition decide it, and where they end shows in the list of them. -/
theorem holds_eq_of_lookups_append {fits : FieldType M → Operand → List Scalar → Prop}
    {p : Predicate} (within : p.Within config fits scope) {v w : Value}
    {s t : List (Option Value)} (same : p.lookups v ++ s = p.lookups w ++ t) :
    p.holds v = p.holds w ∧ s = t := by
  induction p generalizing scope s t with
  | compare | oneOf | text =>
    obtain ⟨found, rest⟩ := List.cons.inj same
    rw [Predicate.holds, Predicate.holds, Value.operand?, Value.operand?, found]
    exact ⟨rfl, rest⟩
  | any | all =>
    obtain ⟨found, rest⟩ := List.cons.inj same
    rw [found] at rest
    rw [Predicate.holds, Predicate.holds, found]
    exact ⟨rfl, List.append_cancel_left rest⟩
  | and left right ihLeft ihRight | or left right ihLeft ihRight =>
    rw [Predicate.lookups, Predicate.lookups, List.append_assoc, List.append_assoc] at same
    obtain ⟨first, others⟩ := ihLeft within.1 same
    obtain ⟨second, rest⟩ := ihRight within.2 others
    rw [Predicate.holds, Predicate.holds, first, second]
    exact ⟨rfl, rest⟩
  | not inner ih =>
    obtain ⟨held, rest⟩ := ih within same
    rw [Predicate.holds, Predicate.holds, held]
    exact ⟨rfl, rest⟩
  | native => exact within.elim

/-- A condition sees of a value what it looks up, and nothing else. -/
theorem holds_eq_of_lookups {fits : FieldType M → Operand → List Scalar → Prop} {p : Predicate}
    (within : p.Within config fits scope) {v w : Value} (same : p.lookups v = p.lookups w) :
    p.holds v = p.holds w :=
  (holds_eq_of_lookups_append within (congrArg (· ++ []) same)).1

/-! ### What is compiled without converters -/

/-- No alias has a converter of its own. -/
def WithoutConverters (config : Config M) : Prop :=
  ∀ model segment known, (config.mapping model).alias? segment = some known → known.convert = none

theorem convert_of_visible (plain : WithoutConverters config) {property : String}
    {target : Target M} (found : visible? config scope property = some target) :
    target.convert = none := by
  cases scope with
  | element type =>
    obtain ⟨-, rfl⟩ := visible?_element found
    rfl
  | model root =>
    obtain ⟨resolved, known, -, rfl⟩ := visible?_model found
    obtain ⟨owner, field, stands⟩ := standsFor_of_resolve known
    rcases stands.convert with none | ⟨model, segment, known, named, same⟩
    · exact none
    · exact same.trans (plain model segment known named)

omit [DecidableEq M] in
/-- Without a converter the type reads the literal. -/
theorem constant_of_type {property : String} {type : FieldType M} {foldCase : Bool}
    {literal : Option String} {scalar : Scalar}
    (read : constant property type none foldCase literal = .ok scalar) :
    ∃ plain, Literal.scalar literal type = .ok plain ∧
      scalar = if foldCase then plain.foldCase else plain := by
  cases plain : Literal.scalar literal type with
  | error fault => cases literal <;> simp [constant, plain] at read
  | ok plain' =>
    refine ⟨plain', rfl, ?_⟩
    cases literal <;> simpa [constant, plain] using read.symm

/-- The constants of an operand are of its type, and lower case is asked of texts alone. -/
structure Fits (type : FieldType M) (operand : Operand) (constants : List Scalar) : Prop where
  typed : ∀ constant ∈ constants, constant.OfType type
  folded : operand.foldCase = true → type = .text

section Constants
variable {property : String} {type : FieldType M} {path : FieldPath} {caseInsensitive : Bool}
  {raw : List (Option String)} {scalars : List Scalar}

omit [DecidableEq M] in
theorem fits_of_constants
    (read : List.Forall₂ (fun literal scalar => constant property type none
      (caseInsensitive && type.isText) literal = .ok scalar) raw scalars) :
    Fits type ⟨path, caseInsensitive && type.isText⟩ scalars where
  typed := by
    induction read with
    | nil => exact List.forall_mem_nil _
    | cons first _ ih =>
      refine List.forall_mem_cons.mpr ⟨?_, ih⟩
      obtain ⟨plain, literal, rfl⟩ := constant_of_type first
      have typed := Literal.ofType_scalar literal
      split
      · exact typed.foldCase
      · exact typed
  folded fold := eq_text_of_isText (Bool.and_eq_true_iff.mp fold).2

omit [DecidableEq M] in
/-- Texts are read as they are written. -/
theorem eq_map_lowered
    (read : List.Forall₂ (fun literal scalar =>
      constant property (.text : FieldType M) none true literal = .ok scalar) raw scalars) :
    scalars = raw.map lowered := by
  induction read with
  | nil => rfl
  | @cons literal scalar _ _ first _ ih =>
    obtain ⟨plain, same, rfl⟩ := constant_of_type first
    rw [List.map_cons, ← ih]
    cases literal <;> cases same <;> rfl

omit [DecidableEq M] in
theorem spells_of_constants
    (read : List.Forall₂ (fun literal scalar => constant property type none
      (caseInsensitive && type.isText) literal = .ok scalar) raw scalars) :
    Spells (⟨path, caseInsensitive && type.isText⟩, scalars) (raw, caseInsensitive) := by
  intro fold
  obtain ⟨marked, isText⟩ := Bool.and_eq_true_iff.mp fold
  cases eq_text_of_isText isText
  cases marked
  exact ⟨rfl, eq_map_lowered read⟩

end Constants

omit [Schema M] [DecidableEq M] in
theorem leaves_of_asks {stands : Option String → Scalar → Prop} {operand : Operand}
    {type : FieldType M} {raw : List (Option String)} {p : Predicate}
    (asks : Asks stands operand type raw p) :
    ∃ scalars, p.leaves = [(operand, scalars)] ∧ List.Forall₂ stands raw scalars := by
  cases asks with
  | oneOf each | compare each | text _ each => exact ⟨_, rfl, each⟩

theorem leaves_quantify (quantifier : Filter.Quantifier) (path : FieldPath) (p : Predicate) :
    (quantify quantifier path p).leaves = p.leaves := by
  cases quantifier <;> rfl

/-- What is left of a join has the clauses of both sides. -/
theorem spelled_combine {join : Predicate → Predicate → Predicate}
    (joined : ∀ l r, (join l r).leaves = l.leaves ++ r.leaves) {a b : Option Predicate}
    {p : Predicate} {negated : Bool}
    {f g : List (List (Option String) × Bool)}
    (same : some p = (combine join a b).map (·.negatedIf negated))
    (left : ∀ q, a = some q → q.SpelledFrom f) (right : ∀ q, b = some q → q.SpelledFrom g) :
    p.SpelledFrom (f ++ g) := by
  rcases a with _ | a <;> rcases b with _ | b <;> cases same <;>
    rw [Predicate.SpelledFrom, Predicate.leaves_negatedIf]
  · obtain ⟨kept, within, spelled⟩ := right b rfl
    exact ⟨kept, within.trans (List.sublist_append_right f g), spelled⟩
  · obtain ⟨kept, within, spelled⟩ := left a rfl
    exact ⟨kept, within.trans (List.sublist_append_left f g), spelled⟩
  · obtain ⟨first, within, spelled⟩ := left a rfl
    obtain ⟨second, within', spelled'⟩ := right b rfl
    rw [joined]
    exact ⟨first ++ second, within.append within', List.rel_append spelled spelled'⟩

/-- What is left of a filter has its clauses in their order. -/
theorem spelled_of_filter (hookFree : WithoutFilterHooks config) (plain : WithoutConverters config)
    {f : Filter} {p : Predicate} (compiled : (filter config scope f).result = .ok (some p)) :
    p.SpelledFrom f.clauses := by
  induction f generalizing scope p with
  | clause property operator raw negated caseInsensitive =>
    obtain ⟨target, q, found, made, rfl⟩ := clause_eq_ok_some compiled
    rw [condition, customFilter_of_visible hookFree found] at made
    refine ⟨[(raw, caseInsensitive)], List.Sublist.refl _, ?_⟩
    rw [Predicate.leaves_negatedIf]
    rcases fieldClause_eq_ok made with ⟨element, inner, type, inside, within, rfl⟩ | within
    · rw [convert_of_visible plain found] at within
      obtain ⟨scalars, same, each⟩ := leaves_of_asks (asks_of_scalarClause within)
      rw [Predicate.leaves, same]
      exact .cons (spells_of_constants each) .nil
    · rw [convert_of_visible plain found] at within
      obtain ⟨scalars, same, each⟩ := leaves_of_asks (asks_of_scalarClause within)
      rw [same]
      exact .cons (spells_of_constants each) .nil
  | collection property inner quantifier negated ih =>
    obtain ⟨target, element, q, found, type, made, rfl⟩ := collection_eq_ok_some compiled
    rw [Predicate.SpelledFrom, Predicate.leaves_negatedIf, leaves_quantify]
    exact ih made
  | and left right negated ihLeft ihRight =>
    obtain ⟨a, b, first, second, same⟩ := filter_and_eq_ok.mp compiled
    refine spelled_combine (fun _ _ => rfl) same ?_ ?_
    · rintro q rfl
      exact ihLeft first
    · rintro q rfl
      exact ihRight second
  | or left right negated ihLeft ihRight =>
    obtain ⟨a, b, first, second, same⟩ := filter_or_eq_ok.mp compiled
    refine spelled_combine (fun _ _ => rfl) same ?_ ?_
    · rintro q rfl
      exact ihLeft first
    · rintro q rfl
      exact ihRight second

end Compile

/-- A condition is well typed in a scope. -/
def Predicate.WellTyped {M : Type} [Schema M] [DecidableEq M] (config : Config M) (scope : Scope M)
    (p : Predicate) : Prop :=
  p.Within config Compile.Fits scope

open Compile (WithoutFilterHooks WithoutConverters)

/-- Without hooks and converters a compiled filter text is well typed, its folded constants are the
literals of its clauses in lower case, and on a record of the model every look-up finds a value. -/
theorem compiled_filter_is_well_typed {M : Type} [Schema M] [DecidableEq M] {config : Config M}
    {model : M} {text : String} {p : Predicate} (hookFree : WithoutFilterHooks config)
    (plain : WithoutConverters config)
    (compiled : (compileFilter config model text).result = .ok (some p)) :
    p.WellTyped config (.model model) ∧
      (∃ f, Filter.parse text = .ok (some f) ∧ p.SpelledFrom f.clauses) ∧
      ∀ record : Value, record.HasType (.record model) → none ∉ p.lookups record := by
  obtain ⟨f, parsed, made⟩ := compileFilter_eq_ok_some compiled
  have wellTyped : p.WellTyped config (.model model) := by
    refine Compile.within_of_filter hookFree ?_ made
    intro scope property target found type path caseInsensitive raw scalars read
    rw [Compile.convert_of_visible plain found] at read
    exact Compile.fits_of_constants read
  exact ⟨wellTyped, ⟨f, parsed, Compile.spelled_of_filter hookFree plain made⟩,
    fun record typed => Compile.none_not_mem_lookups wellTyped typed⟩

/-- An order without a customer, of one line. -/
def smallOrder : Value :=
  .record [("id", .int 1), ("total", .null), ("status", .text "open"), ("placed", .null),
    ("lines", .list [.record [("sku", .text "AB"), ("qty", .int 2), ("price", .null)]]),
    ("customer", .null)]

/-- The order holds what is declared of orders and lines. -/
theorem smallOrder_hasType : smallOrder.HasType (.record Sample.Model.order) := by
  have line : (Value.record [("sku", .text "AB"), ("qty", .int 2), ("price", .null)]).HasType
      (.record Sample.Model.line) := by
    refine .record (by decide) ?_
    intro field declared value found
    simp only [Schema.fields, Sample.Model.fields, List.mem_cons, List.not_mem_nil, or_false]
      at declared
    rcases declared with rfl | rfl | rfl <;> cases found <;> constructor
  refine .record (by decide) ?_
  intro field declared value found
  simp only [Schema.fields, Sample.Model.fields, List.mem_cons, List.not_mem_nil, or_false]
    at declared
  rcases declared with rfl | rfl | rfl | rfl | rfl | rfl <;> cases found
  case inr.inr.inr.inr.inl.refl => exact .list (List.forall_mem_singleton.mpr line)
  all_goals constructor

/-- A folded list of literals inside a quantifier, beside a negated number. -/
theorem lines_filter_is_well_typed : ∃ p,
    WithoutFilterHooks ({} : Config Sample.Model) ∧ WithoutConverters ({} : Config Sample.Model) ∧
      (compileFilter {} Sample.Model.order "lines*(sku|=*'Ab',null)&!id>1").result = .ok (some p) ∧
      p.WellTyped {} (.model Sample.Model.order) ∧
      (∃ f, Filter.parse "lines*(sku|=*'Ab',null)&!id>1" = .ok (some f) ∧
        p.SpelledFrom f.clauses) ∧
      smallOrder.HasType (.record Sample.Model.order) ∧ none ∉ p.lookups smallOrder := by
  have parsed : Filter.parse "lines*(sku|=*'Ab',null)&!id>1" =
      .ok (some (.and
        (.collection "lines" (.clause "sku" .oneOf [some "Ab", none] false true) .all false)
        (.clause "id" .greater [some "1"] true false) false)) := by
    decide +kernel
  have compiled : (compileFilter {} Sample.Model.order "lines*(sku|=*'Ab',null)&!id>1").result =
      .ok (some (.and (.all ["lines"] (.oneOf ⟨["sku"], true⟩ [.text "ab", .null]))
        (.not (.compare ⟨["id"], false⟩ .gt (.int 1))))) := by
    rw [compileFilter_result parsed]
    rfl
  have hookFree : WithoutFilterHooks ({} : Config Sample.Model) := fun _ _ => rfl
  have plain : WithoutConverters ({} : Config Sample.Model) := nofun
  obtain ⟨wellTyped, spelled, present⟩ := compiled_filter_is_well_typed hookFree plain compiled
  exact ⟨_, hookFree, plain, compiled, wellTyped, spelled, smallOrder_hasType,
    present smallOrder smallOrder_hasType⟩

end ListQuery
