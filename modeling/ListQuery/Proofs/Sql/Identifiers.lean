import Mathlib.Control.Monad.Basic
import ListQuery.Proofs.Compile.Reading
import ListQuery.Proofs.Sql.Constants
import ListQuery.Sample.Models

/-! The names in the statements of a query. Whatever a request calls a property, the column that
stands for it is named by a path of declared fields from the model of the rows that it is read from;
every other name is of the catalog or an alias of the statement's own. What a request says is left
to constants and to the numbers of its window. Constants hold no identifiers, save for the floats
that are no number or infinite: their texts are words without quotes, which name columns. -/

namespace ListQuery.Sql

variable {M : Type} [Schema M] [DecidableEq M] {config : Config M} {catalog : Catalog}

/-! ### Names in their scopes -/

/-- The rows that a selection goes over: the records of the root, or the elements of a collection,
which is known by its key and has a table of its own. -/
inductive Level (M : Type) where
  | root (model : M)
  | elements (key : String) (type : FieldType M) (table : CollectionTable)

namespace Level

/-- What a row stands for. -/
def scope : Level M → Scope M
  | root model => .model model
  | elements _ type _ => Compile.elementScope type

/-- The place of the conditions on the rows, at a depth. -/
def place (depth : Nat) : Level M → Place
  | root _ => { depth }
  | elements key _ table => ⟨depth, key, some table.valueColumn⟩

/-- The key of a collection of the rows. -/
def collection (level : Level M) (path : FieldPath) : String :=
  collectionKey (level.place 0) path

omit [Schema M] [DecidableEq M] in
theorem depth_place (level : Level M) (depth : Nat) : (level.place depth).depth = depth := by
  cases level <;> rfl

omit [Schema M] [DecidableEq M] in
theorem collectionKey_place (level : Level M) (depth : Nat) (path : FieldPath) :
    collectionKey (level.place depth) path = level.collection path := by
  cases level <;> rfl

/-- The columns that conditions on the rows may name. A path starts at the model of the rows, and
only elements that are no records are read from the value column. -/
inductive Has : Level M → String → Prop where
  | identity {level : Level M} : Has level identity
  | foreignKey {key : String} {type : FieldType M} {table : CollectionTable} :
      Has (elements key type table) table.foreignKey
  | value {key : String} {type : FieldType M} {table : CollectionTable}
      (scalar : Compile.elementScope type = .element type) :
      Has (elements key type table) table.valueColumn
  | field {level : Level M} {model owner : M} {path : FieldPath} {last : Field M}
      (records : level.scope = .model model) (leads : Schema.Leads model path owner last) :
      Has level (path.joined "_")

end Level

/-- Every column is one that its rows have, and every subselection goes over the table that is
registered for a collection of the rows around it. The levels are the selections that an alias can
speak of, from the outermost on. -/
def Expr.Named (config : Config M) (catalog : Catalog) : List (Level M) → Expr → Prop
  | levels, column depth name => ∃ level, levels[depth]? = some level ∧ level.Has name
  | _, constant _ => True
  | levels, lower value | levels, orFalse value | levels, isNull value | levels, isNotNull value
  | levels, inList value _ | levels, like value _ | levels, not value =>
    value.Named config catalog levels
  | levels, compare _ left right | levels, and left right | levels, or left right =>
    left.Named config catalog levels ∧ right.Named config catalog levels
  | levels, .exists table depth condition =>
    depth = levels.length ∧ ∃ level path element registered,
      levels.getLast? = some level ∧ level.scope.Leads config path (.list element) ∧
      catalog.collections.get? (level.collection path) = some registered ∧
      table = registered.table ∧
      condition.Named config catalog
        (levels ++ [.elements (level.collection path) element registered])

/-- A selection from an entity's table, whose columns are those of records of a model. -/
structure Select.Named (config : Config M) (catalog : Catalog) (entity : String) (model : M)
    (select : Select) : Prop where
  table : select.table = catalog.tableName entity
  condition : ∀ e, select.condition = some e → e.Named config catalog [.root model]
  order : ∀ column ∈ select.order, ∃ path owner last,
    Schema.Leads model path owner last ∧ column.name = path.joined "_"

section Conditions
variable {fits : FieldType M → Operand → List Scalar → Prop} {outer : List (Level M)}
  {level : Level M}

theorem has_of_leads {path : FieldPath} {type : FieldType M} {depth : Nat} {name : String}
    (leads : level.scope.Leads config path type)
    (named : columnName? (level.place depth) path = some name) : level.Has name := by
  generalize speaks : level.scope = scope at leads
  cases leads with
  | field leads =>
    have present : path.isEmpty = false := List.isEmpty_eq_false_iff.mpr leads.ne_nil
    rw [columnName?, present] at named
    cases named
    exact .field speaks leads
  | element =>
    cases level with
    | root model => cases speaks
    | elements key element table =>
      cases named
      refine .value ?_
      cases element with
      | record model => cases speaks
      | _ => rfl

omit [Schema M] [DecidableEq M] in
theorem getElem?_level : (outer ++ [level])[outer.length]? = some level :=
  List.getElem?_concat_length

omit [Schema M] [DecidableEq M] in
theorem elementPlace_level (key : String) (type : FieldType M) (table : CollectionTable) :
    elementPlace (level.place outer.length) key table =
      (Level.elements key type table).place (outer ++ [level]).length := by
  rw [elementPlace, level.depth_place, List.length_append]
  rfl

theorem named_of_operandColumn {operand : Operand} {type : FieldType M} {column : Expr}
    (leads : level.scope.Leads config operand.path type)
    (compiled : operandColumn (level.place outer.length) operand = .ok column) :
    column.Named config catalog (outer ++ [level]) := by
  obtain ⟨name, named, rfl⟩ := operandColumn_ok compiled
  rw [level.depth_place]
  have here : (Expr.column outer.length name).Named config catalog (outer ++ [level]) :=
    ⟨level, getElem?_level, has_of_leads leads named⟩
  split
  · exact here
  · exact here

variable {levels : List (Level M)} {column : Expr}

theorem named_comparison (named : column.Named config catalog levels) (op : Comparison)
    (constant : Scalar) : (comparison column op constant).Named config catalog levels := by
  unfold comparison
  split
  · cases op with
    | eq | ne => exact named
    | _ => trivial
  · cases op with
    | ne => exact ⟨⟨named, trivial⟩, named⟩
    | _ => exact ⟨named, trivial⟩

theorem named_membership (named : column.Named config catalog levels) (constants : List Scalar) :
    (membership column constants).Named config catalog levels := by
  simp only [membership]
  split
  · trivial
  · exact named
  · exact named
  · exact ⟨named, named⟩

theorem named_negated {inside : Expr} (named : inside.Named config catalog levels)
    (predicate : Predicate) : (negated predicate inside).Named config catalog levels := by
  unfold negated
  split <;> exact named

/-- A subselection names the table of its collection, and ties its foreign key to the identity of
the rows around it. -/
theorem named_someElement {path : FieldPath} {element : FieldType M} {table : CollectionTable}
    {inside : Expr} (leads : level.scope.Leads config path (.list element))
    (registered : catalog.collections.get? (level.collection path) = some table)
    (named : inside.Named config catalog
      (outer ++ [level] ++ [.elements (level.collection path) element table])) :
    (someElement (level.place outer.length) table inside).Named config catalog
      (outer ++ [level]) := by
  rw [someElement, level.depth_place]
  have deep : (outer ++ [level]).length = outer.length + 1 := List.length_append
  refine ⟨deep.symm, level, path, element, table, List.getLast?_concat, leads, registered, rfl,
    ⟨⟨.elements (level.collection path) element table, ?inner, .foreignKey⟩,
      ⟨level, ?around, .identity⟩⟩, named⟩
  case inner => rw [← deep, getElem?_level]
  case around => rw [List.getElem?_append_left (by simp), getElem?_level]

/-- The operand of a list is within the scope of the disjunction that it stands for. -/
theorem leads_of_asList? {threshold : Nat} {predicate : Predicate} {operand : Operand}
    {scalars : List Scalar} {scope : Scope M}
    (found : asList? threshold predicate = some (operand, scalars))
    (within : predicate.Within config fits scope) :
    ∃ type, scope.Leads config operand.path type := by
  obtain ⟨nonempty, equalities⟩ := asList?_some found
  obtain ⟨first, rest, rfl⟩ := List.exists_cons_of_ne_nil nonempty
  obtain ⟨type, leads, -⟩ := @forall_of_equalities? (Predicate.Within config fits scope) _ _
    (fun _ _ both => both) equalities within (operand, first) List.mem_cons_self
  exact ⟨type, leads⟩

/-- A condition within its scope names columns of its rows. -/
theorem named_of_condition {p : Predicate} {e : Expr} {steps : List OrToIn}
    (within : p.Within config fits level.scope)
    (compiled : condition catalog (level.place outer.length) p = .ok (e, steps)) :
    e.Named config catalog (outer ++ [level]) := by
  induction p generalizing outer level e steps with
  | compare operand op constant =>
    obtain ⟨column, named, rfl⟩ := condition_compare_eq_ok compiled
    obtain ⟨type, leads, -⟩ := within
    exact named_comparison (named_of_operandColumn leads named) op constant
  | oneOf operand constants =>
    obtain ⟨column, named, rfl⟩ := condition_oneOf_eq_ok compiled
    obtain ⟨type, leads, -⟩ := within
    exact named_membership (named_of_operandColumn leads named) constants
  | text operand position pattern =>
    obtain ⟨column, named, rfl⟩ := condition_text_eq_ok compiled
    exact (named_of_operandColumn within.1 named : column.Named config catalog _)
  | any path inner ih =>
    obtain ⟨element, leads, inside⟩ := within
    obtain ⟨table, e, registered, made, rfl⟩ := condition_any_eq_ok compiled
    rw [level.collectionKey_place] at registered made
    rw [elementPlace_level _ element] at made
    have below : e.Named config catalog
        (outer ++ [level] ++ [.elements (level.collection path) element table]) := ih inside made
    exact named_someElement leads registered below
  | all path inner ih =>
    obtain ⟨element, leads, inside⟩ := within
    obtain ⟨table, e, registered, made, rfl⟩ := condition_all_eq_ok compiled
    rw [level.collectionKey_place] at registered made
    rw [elementPlace_level _ element] at made
    have below : e.Named config catalog
        (outer ++ [level] ++ [.elements (level.collection path) element table]) := ih inside made
    exact named_someElement leads registered (named_negated below inner)
  | and left right ihLeft ihRight =>
    obtain ⟨first, second, _, _, leads, follows, rfl, rfl⟩ := condition_and_eq_ok compiled
    exact ⟨ihLeft within.1 leads, ihRight within.2 follows⟩
  | or left right ihLeft ihRight =>
    obtain ⟨operand, constants, column, listed, named, rfl⟩ |
      ⟨first, second, _, _, leads, follows, rfl, rfl⟩ := condition_or_eq_ok compiled
    · obtain ⟨type, leads⟩ := leads_of_asList? listed within
      exact named_membership (named_of_operandColumn leads named) constants
    · exact ⟨ihLeft within.1 leads, ihRight within.2 follows⟩
  | not inner ih =>
    obtain ⟨inside, made, rfl⟩ := condition_not_eq_ok compiled
    exact named_negated (ih within made) inner
  | native test => exact within.elim

end Conditions

/-! ### Names and words in texts -/

/-- The words of statements. -/
def vocabulary : List String :=
  ["SELECT ", "*", "COUNT(*)", " FROM ", " AS ", " WHERE ", " ORDER BY ", " ASC", " DESC",
    " LIMIT ", " OFFSET ", "EXISTS(SELECT 1 FROM ", "LOWER(", "COALESCE(", ", FALSE)", "NOT ",
    " AND ", " OR ", " = ", " <> ", " > ", " >= ", " < ", " <= ", " IS NULL", " IS NOT NULL",
    " IN (", " LIKE ", " ESCAPE E'\\\\'", "(", ")", ", ", "."]

/-- The names that a statement for an entity can hold, whatever is asked of it. -/
inductive Known (M : Type) [Schema M] (catalog : Catalog) (entity : String) : String → Prop where
  | entity : Known M catalog entity (catalog.tableName entity)
  | table {key : String} {table : CollectionTable}
      (registered : catalog.collections.get? key = some table) : Known M catalog entity table.table
  | foreignKey {key : String} {table : CollectionTable}
      (registered : catalog.collections.get? key = some table) :
      Known M catalog entity table.foreignKey
  | valueColumn {key : String} {table : CollectionTable}
      (registered : catalog.collections.get? key = some table) :
      Known M catalog entity table.valueColumn
  | numbered (depth : Nat) : Known M catalog entity (aliasName depth)
  | identity : Known M catalog entity identity
  | field {model owner : M} {path : FieldPath} {last : Field M}
      (leads : Schema.Leads model path owner last) : Known M catalog entity (path.joined "_")

/-- A piece is a word of the vocabulary, or a name, a constant or a number of certain kinds. -/
inductive Piece.Admitted (named : String → Prop) (stated : Scalar → Prop) (counted : Nat → Prop) :
    Piece → Prop where
  | word {text : String} (among : text ∈ vocabulary) : Admitted named stated counted (word text)
  | name {held : String} (known : named held) : Admitted named stated counted (name held)
  | constant {scalar : Scalar} (known : stated scalar) :
      Admitted named stated counted (constant scalar)
  | number {n : Nat} (known : counted n) : Admitted named stated counted (number n)

namespace Piece

variable {named : String → Prop} {stated : Scalar → Prop} {counted : Nat → Prop}
  {first second : List Piece}

/-- All pieces are admitted. -/
def AllAdmitted (named : String → Prop) (stated : Scalar → Prop) (counted : Nat → Prop)
    (pieces : List Piece) : Prop :=
  ∀ piece ∈ pieces, piece.Admitted named stated counted

namespace AllAdmitted

theorem nil : AllAdmitted named stated counted [] :=
  List.forall_mem_nil _

theorem single {piece : Piece} (admitted : piece.Admitted named stated counted) :
    AllAdmitted named stated counted [piece] :=
  List.forall_mem_singleton.mpr admitted

theorem append (one : AllAdmitted named stated counted first)
    (other : AllAdmitted named stated counted second) :
    AllAdmitted named stated counted (first ++ second) :=
  List.forall_mem_append.mpr ⟨one, other⟩

/-- Words in front of pieces. -/
theorem word_cons {words : String} (other : AllAdmitted named stated counted second)
    (among : words ∈ vocabulary) : AllAdmitted named stated counted (word words :: second) :=
  List.forall_mem_cons.mpr ⟨.word among, other⟩

/-- Words between pieces. -/
theorem between {words : String} (one : AllAdmitted named stated counted first)
    (other : AllAdmitted named stated counted second) (among : words ∈ vocabulary) :
    AllAdmitted named stated counted (first ++ word words :: second) :=
  one.append (other.word_cons among)

theorem enclosed (inside : Bool) (one : AllAdmitted named stated counted first) :
    AllAdmitted named stated counted (enclosed inside first) := by
  cases inside with
  | false => exact one
  | true => exact (one.between nil (by decide)).word_cons (by decide)

theorem separated {parts : List (List Piece)}
    (each : ∀ part ∈ parts, AllAdmitted named stated counted part) :
    AllAdmitted named stated counted (separated parts) :=
  separated_induction nil each fun _ _ one other => one.between other (by decide)

/-- A column of an alias. -/
theorem column {source column : String} (numbered : named source) (known : named column) :
    AllAdmitted named stated counted [name source, word ".", name column] :=
  (single (.name numbered)).between (single (.name known)) (by decide)

/-- A table under an alias. -/
theorem table {table source : String} (known : named table) (numbered : named source) :
    AllAdmitted named stated counted [name table, word " AS ", name source] :=
  (single (.name known)).between (single (.name numbered)) (by decide)

/-- The names that are found between quotes are those of the pieces. -/
theorem known_of_quoted {pieces : List Piece} {held : String}
    (admitted : AllAdmitted named stated counted pieces)
    (found : .quoted held ∈ identifiers pieces) : named held := by
  obtain ⟨piece, listed, stands⟩ := List.mem_filterMap.mp found
  cases admitted piece listed with
  | name known =>
    cases stands
    exact known
  | constant =>
    obtain ⟨_, -, same⟩ := Option.map_eq_some_iff.mp stands
    cases same
  | _ => cases stands

end AllAdmitted

end Piece

section Names
variable {stated : Scalar → Prop} {counted : Nat → Prop} {levels : List (Level M)} {entity : String}

/-- A collection's elements are read from its own table. -/
def Level.Registered (catalog : Catalog) : Level M → Prop
  | root _ => True
  | elements key _ table => catalog.collections.get? key = some table

omit [DecidableEq M] in
theorem known_of_has {level : Level M} {name : String} (registered : level.Registered catalog)
    (has : level.Has name) : Known M catalog entity name := by
  cases has with
  | identity => exact .identity
  | foreignKey => exact .foreignKey registered
  | value => exact .valueColumn registered
  | field _ leads => exact .field leads

/-- The names that a condition may use are known, and the rest of its text is words and its
constants. -/
theorem Expr.Named.admitted {e : Expr} (allowed : e.Named config catalog levels)
    (registered : ∀ level ∈ levels, level.Registered catalog)
    (known : ∀ scalar ∈ e.constants, stated scalar) :
    Piece.AllAdmitted (Known M catalog entity) stated counted e.pieces := by
  induction e generalizing levels with
  | column depth name =>
    obtain ⟨level, here, has⟩ := allowed
    exact .column (.numbered depth)
      (known_of_has (registered level (List.mem_of_getElem? here)) has)
  | constant scalar => exact .single (.constant (known scalar List.mem_cons_self))
  | lower value ih | orFalse value ih =>
    exact ((ih allowed registered known).between .nil (by decide)).word_cons (by decide)
  | compare comparison left right ihLeft ihRight =>
    obtain ⟨here, there⟩ := List.forall_mem_append.mp known
    refine (ihLeft allowed.1 registered here).between (ihRight allowed.2 registered there) ?_
    cases comparison <;> decide
  | isNull value ih | isNotNull value ih =>
    exact (ih allowed registered known).between .nil (by decide)
  | inList value constants ih =>
    obtain ⟨here, there⟩ := List.forall_mem_append.mp known
    refine ((ih allowed registered here).between (.separated fun part among => ?_)
      (by decide)).between .nil (by decide)
    obtain ⟨scalar, listed, rfl⟩ := List.mem_map.mp among
    exact .single (.constant (there scalar listed))
  | like value pattern ih =>
    obtain ⟨here, there⟩ := List.forall_mem_append.mp known
    have stands : stated (.text pattern) := there _ List.mem_cons_self
    exact (ih allowed registered here).between
      ((Piece.AllAdmitted.single (.constant stands)).between .nil (by decide)) (by decide)
  | and left right ihLeft ihRight | or left right ihLeft ihRight =>
    obtain ⟨here, there⟩ := List.forall_mem_append.mp known
    exact ((ihLeft allowed.1 registered here).enclosed _).between
      ((ihRight allowed.2 registered there).enclosed _) (by decide)
  | not value ih => exact ((ih allowed registered known).enclosed _).word_cons (by decide)
  | «exists» table depth condition ih =>
    obtain ⟨-, level, path, element, collection, -, -, found, rfl, inside⟩ := allowed
    have below := ih inside
      (List.forall_mem_append.mpr ⟨registered, List.forall_mem_singleton.mpr found⟩) known
    exact ((Piece.AllAdmitted.table (.table found) (.numbered depth)).between
      (below.between .nil (by decide)) (by decide)).word_cons (by decide)

theorem admitted_boundPieces {named : String → Prop} {words : String} {bound : Option Nat}
    (known : ∀ n, bound = some n → counted n) (among : words ∈ vocabulary) :
    Piece.AllAdmitted named stated counted (Select.boundPieces words bound) := by
  cases bound with
  | none => exact .nil
  | some n => exact (Piece.AllAdmitted.single (.number (known n rfl))).word_cons among

/-- A selection's text has known names, its constants, and numbers for its window alone. -/
theorem Select.Named.admitted {select : Select} {model : M}
    (allowed : select.Named config catalog entity model)
    (known : ∀ scalar ∈ select.constants, stated scalar) :
    Piece.AllAdmitted (Known M catalog entity) stated
      (fun n => select.limit = some n ∨ select.offset = some n) select.pieces := by
  have table : Known M catalog entity select.table := by
    rw [allowed.table]
    exact .entity
  refine ((((Piece.AllAdmitted.append ?head ?condition).append ?order).append ?limit).append
    ?offset)
  case head =>
    refine (((Piece.AllAdmitted.table table (.numbered 0)).word_cons (by decide)).word_cons
      ?_).word_cons (by decide)
    cases select.projection <;> decide
  case condition =>
    cases given : select.condition with
    | none => exact .nil
    | some e =>
      rw [Select.constants, given] at known
      exact ((allowed.condition e given).admitted (List.forall_mem_singleton.mpr trivial)
        known).word_cons (by decide)
  case order =>
    rw [Select.orderPieces]
    split
    · exact .nil
    · refine (Piece.AllAdmitted.separated fun part among => ?_).word_cons (by decide)
      obtain ⟨column, listed, rfl⟩ := List.mem_map.mp among
      obtain ⟨path, owner, last, leads, same⟩ := allowed.order column listed
      have direction : (if column.ascending then " ASC" else " DESC") ∈ vocabulary := by
        split <;> decide
      refine (Piece.AllAdmitted.column (.numbered 0) ?_).between .nil direction
      rw [same]
      exact .field leads
  case limit => exact admitted_boundPieces (fun n bound => Or.inl bound) (by decide)
  case offset => exact admitted_boundPieces (fun n bound => Or.inr bound) (by decide)

end Names

/-! ### Statements of a query -/

section Statements
variable {model : M} {query : Query} {plan : Plan} {entity : String}

theorem named_orderColumns {keys : List SortKey} {columns : List OrderColumn}
    (leads : ∀ key ∈ keys, key.target.Leads config model)
    (compiled : orderColumns keys = .ok columns) :
    ∀ column ∈ columns, ∃ path owner last,
      Schema.Leads model path owner last ∧ column.name = path.joined "_" := by
  induction keys generalizing columns with
  | nil =>
    cases compiled
    exact List.forall_mem_nil _
  | cons key rest ih =>
    obtain ⟨target, ascending⟩ := key
    obtain ⟨here, later⟩ := List.forall_mem_cons.mp leads
    cases here with
    | field declared =>
      obtain ⟨others, follow, same⟩ := bind_eq_ok.mp compiled
      cases same
      exact List.forall_mem_cons.mpr ⟨⟨_, _, _, declared, rfl⟩, ih later follow⟩

theorem named_planCondition {where? : Option Expr} {steps : List OrToIn}
    (within : ∀ p, plan.filter = some p → p.Within config (fun _ _ _ => True) (.model model))
    (compiled : planCondition catalog plan = .ok (where?, steps)) :
    ∀ e, where? = some e → e.Named config catalog [.root model] := by
  rintro e rfl
  rw [planCondition] at compiled
  split at compiled
  · cases compiled
  · rename_i p given
    obtain ⟨⟨_, _⟩, made, same⟩ := bind_eq_ok.mp compiled
    cases same
    exact @named_of_condition M _ _ config catalog _ [] (.root model) p e steps (within p given)
      made

/-- Both statements of a plan go over the entity's table and take their condition from its filter,
and the rows their order from its keys. -/
theorem selects_of_compile {statements : Statements}
    (translated : (compile catalog plan entity).result = .ok statements) :
    ∀ select ∈ [statements.rows, statements.count],
      select.table = catalog.tableName entity ∧
        (∃ steps, planCondition catalog plan = .ok (select.condition, steps)) ∧
        (select.order = [] ∨ orderColumns plan.ordering.keys = .ok select.order) := by
  obtain ⟨⟨rows, steps⟩, selected, rest⟩ := Traced.result_bind_eq_ok.mp translated
  obtain ⟨counted, counts, rest⟩ := Traced.result_bind_eq_ok.mp rest
  obtain ⟨_, -, same⟩ := Traced.result_bind_eq_ok.mp rest
  cases same
  obtain ⟨⟨where?, _⟩, planned, rest⟩ := bind_eq_ok.mp selected
  obtain ⟨columns, ordered, same⟩ := bind_eq_ok.mp rest
  cases same
  obtain ⟨⟨where'?, _⟩, planned', same⟩ := bind_eq_ok.mp counts
  cases same
  exact List.forall_mem_cons.mpr ⟨⟨rfl, ⟨_, planned⟩, Or.inr ordered⟩,
    List.forall_mem_singleton.mpr ⟨rfl, ⟨_, planned'⟩, Or.inl rfl⟩⟩

/-- Only floats of the plan's filter are written as words without quotes. -/
theorem stated_of_mem_constants {select : Select} {steps : List OrToIn}
    (planned : planCondition catalog plan = .ok (select.condition, steps)) :
    ∀ scalar ∈ select.constants, bareWord? scalar = none ∨ scalar ∈ plan.constants := by
  intro scalar among
  cases written : bareWord? scalar with
  | none => exact Or.inl rfl
  | some word =>
    obtain ⟨⟨x, rfl⟩, -⟩ := bareWord?_eq_some written
    exact Or.inr ((float_mem_select_iff planned x).mp among)

theorem named_of_compile {statements : Statements}
    (within : ∀ p, plan.filter = some p → p.Within config (fun _ _ _ => True) (.model model))
    (leads : ∀ key ∈ plan.ordering.keys, key.target.Leads config model)
    (translated : (compile catalog plan entity).result = .ok statements) :
    ∀ select ∈ [statements.rows, statements.count],
      select.Named config catalog entity model := by
  intro select among
  obtain ⟨table, ⟨steps, planned⟩, ordered⟩ := selects_of_compile translated select among
  refine ⟨table, named_planCondition within planned, ?_⟩
  rcases ordered with unordered | ordered
  · rw [unordered]
    exact List.forall_mem_nil _
  · exact named_orderColumns leads ordered

/-- The words without quotes in the statements of a plan are those of its filter's constants. -/
theorem bare_mem_identifiers_iff {statements : Statements}
    (translated : (compile catalog plan entity).result = .ok statements) :
    ∀ select ∈ [statements.rows, statements.count], ∀ word,
      .bare word ∈ identifiers select.written ↔
        ∃ scalar ∈ plan.constants, bareWord? scalar = some word := by
  intro select among word
  obtain ⟨-, ⟨steps, planned⟩, -⟩ := selects_of_compile translated select among
  rw [select.identifiers_written, Piece.bare_mem_identifiers_iff, select.constants_pieces]
  refine exists_congr fun scalar => and_congr_left fun written => ?_
  obtain ⟨⟨x, rfl⟩, -⟩ := bareWord?_eq_some written
  exact float_mem_select_iff planned x

/-- Without hooks of its own a request names nothing in the statements of its plan, if and only if
no float in its filter is infinite or no number. Those alone are written as words without quotes,
and a reader takes them for columns. All else that it finds in the texts is known beforehand: the
entity's table, the tables of collections with their foreign keys and value columns, numbered
aliases, the identity, and declared fields on a path from the model of the rows that they are read
from. What is left are words of the language, constants, and the numbers of the limit and the
offset. -/
theorem identifiers_known_iff_finite {statements : Statements}
    (filterPlain : Compile.WithoutFilterHooks config)
    (sortPlain : OrderCompile.WithoutSortHooks config)
    (compiled : (Plan.compile config model query).result = .ok plan)
    (translated : (compile catalog plan entity).result = .ok statements) :
    ∀ select ∈ [statements.rows, statements.count],
      select.Named config catalog entity model ∧
        (∀ found ∈ identifiers select.written,
          (∃ name, found = .quoted name ∧ Known M catalog entity name) ∨
            found = .bare "NaN" ∨ found = .bare "inf") ∧
        ((∀ found ∈ identifiers select.written,
            ∃ name, found = .quoted name ∧ Known M catalog entity name) ↔
          ∀ x, .float x ∈ plan.constants → x.isNaN = false ∧ x.isInfinite = false) ∧
        select.written = Piece.text select.pieces ∧
        ∀ piece ∈ select.pieces, piece.Admitted (Known M catalog entity)
          (fun scalar => bareWord? scalar = none ∨ scalar ∈ plan.constants)
          (fun n => select.limit = some n ∨ select.offset = some n) := by
  obtain ⟨filter, ordering, filtered, ordered, rfl⟩ := Traced.result_join_eq_ok.mp compiled
  have within : ∀ p, filter = some p → p.Within config (fun _ _ _ => True) (.model model) := by
    rintro p rfl
    obtain ⟨f, -, made⟩ := compileFilter_eq_ok_some filtered
    exact Compile.within_of_filter filterPlain (fun _ _ _ _ _ _ _ => trivial) made
  have leads := leads_of_compileOrder sortPlain ordered
  intro select among
  have named := named_of_compile within leads translated select among
  have bare := bare_mem_identifiers_iff translated select among
  obtain ⟨-, ⟨steps, planned⟩, -⟩ := selects_of_compile translated select among
  have admitted := named.admitted (stated_of_mem_constants planned)
  have quoted (name : String) (found : .quoted name ∈ identifiers select.written) :
      Known M catalog entity name := by
    rw [select.identifiers_written] at found
    exact admitted.known_of_quoted found
  refine ⟨named, ?known, ⟨?finite, ?onlyKnown⟩, select.written_eq_text, admitted⟩
  case known =>
    intro found listed
    cases found with
    | quoted name => exact Or.inl ⟨name, rfl, quoted name listed⟩
    | bare word =>
      obtain ⟨scalar, -, written⟩ := (bare word).mp listed
      exact Or.inr ((bareWord?_eq_some written).2.imp (congrArg _) (congrArg _))
  case finite =>
    intro known x stated
    refine bareWord?_float_eq_none_iff.mp (Option.eq_none_iff_forall_ne_some.mpr ?_)
    intro word written
    obtain ⟨name, same, -⟩ := known _ ((bare word).mpr ⟨.float x, stated, written⟩)
    cases same
  case onlyKnown =>
    intro finite found listed
    cases found with
    | quoted name => exact ⟨name, rfl, quoted name listed⟩
    | bare word =>
      obtain ⟨scalar, stated, written⟩ := (bare word).mp listed
      obtain ⟨⟨x, rfl⟩, -⟩ := bareWord?_eq_some written
      rw [bareWord?_float_eq_none_iff.mpr (finite x stated)] at written
      cases written

end Statements

/-- Users have a town, which is the city of their address. -/
def withTowns : Config Sample.Model where
  mappings := [(.user, { aliases := [("town", ⟨"address.city", none⟩)] })]

/-- A catalog with tables of users, of their orders with their lines, and of their tags. -/
def userTables : Catalog :=
  { tables := [("User", "users")]
    collections := [("orders", ⟨"orders", "user_id", "value"⟩),
      ("orders.lines", ⟨"order_lines", "order_id", "value"⟩),
      ("tags", ⟨"user_tags", "user_id", "tag"⟩)] }

/-- A request with quotes in its constants. -/
def quotingRequest : Query where
  filter := "Orders(Lines(SKU=='t0\"'))|Town=='O''Neill'|TAGS=='a'"
  orderBy := "-Town"
  limit := some 5

/-- The plan of the request. -/
def quotingPlan : Plan where
  filter := some (.or (.or
    (.any ["orders"] (.any ["lines"] (.compare ⟨["sku"], false⟩ .eq (.text "t0\""))))
    (.compare ⟨["address", "city"], false⟩ .eq (.text "O'Neill")))
    (.any ["tags"] (.compare ⟨[], false⟩ .eq (.text "a"))))
  ordering := ⟨[⟨.field ["address", "city"], false⟩]⟩
  window := { limit := some 5 }

/-- Whatever quotes the constants hold, all names are known beforehand. -/
theorem quotingRequest_names_nothing :
    ∃ statements, Compile.WithoutFilterHooks withTowns ∧ OrderCompile.WithoutSortHooks withTowns ∧
      (Plan.compile withTowns Sample.Model.user quotingRequest).result = .ok quotingPlan ∧
      (compile userTables quotingPlan "User").result = .ok statements ∧
      ∀ found ∈ identifiers statements.rows.written,
        ∃ name, found = .quoted name ∧ Known Sample.Model userTables "User" name := by
  have parsed : Filter.parse quotingRequest.filter =
      .ok (some (.or (.or
        (.collection "Orders"
          (.collection "Lines" (.clause "SKU" .equal [some "t0\""] false false) .any false) .any
          false)
        (.clause "Town" .equal [some "O'Neill"] false false) false)
        (.clause "TAGS" .equal [some "a"] false false) false)) := by
    decide +kernel
  have entries : OrderBy.parse quotingRequest.orderBy = [⟨"Town", false⟩] := by
    decide +kernel
  have filterPlain : Compile.WithoutFilterHooks withTowns := by
    intro model property
    cases model <;> rfl
  have sortPlain : OrderCompile.WithoutSortHooks withTowns := by
    intro model property
    cases model <;> rfl
  have compiled : (Plan.compile withTowns Sample.Model.user quotingRequest).result =
      .ok quotingPlan := by
    rw [Plan.compile, Traced.result_bind, compileFilter_result parsed, compileOrder, entries]
    rfl
  obtain ⟨statements, translated⟩ :
      ∃ statements, (compile userTables quotingPlan "User").result = .ok statements := ⟨_, rfl⟩
  have finite : ∀ x, .float x ∈ quotingPlan.constants → x.isNaN = false ∧ x.isInfinite = false := by
    intro x stated
    simp [quotingPlan, Plan.constants, Predicate.constants] at stated
  obtain ⟨-, -, known, -⟩ := identifiers_known_iff_finite filterPlain sortPlain compiled translated
    statements.rows List.mem_cons_self
  exact ⟨statements, filterPlain, sortPlain, compiled, translated, known.mpr finite⟩

section Unscored
variable {name : String}

/-- A request for users whose score is no number. -/
def unscoredRequest : Query where
  filter := "score=='nan'"

/-- The plan of the request. -/
def unscoredPlan : Plan where
  filter := some (.compare ⟨["score"], false⟩ .eq (.float .nan))

theorem head_of_declared {model : Sample.Model} {field : Field Sample.Model}
    (declared : Schema.declared? model name = some field) :
    ∃ c rest, name.toList = c :: rest ∧ c ≠ 'N' := by
  have each : ∀ field ∈ Schema.fields model, field.name.toList.head?.any (· ≠ 'N') = true := by
    cases model <;> decide
  have head := each field (List.mem_of_find?_eq_some declared)
  rw [Schema.name_of_declared declared] at head
  cases characters : name.toList with
  | nil =>
    rw [characters] at head
    cases head
  | cons c rest =>
    rw [characters] at head
    exact ⟨c, rest, rfl, of_decide_eq_true head⟩

/-- Without tables of collections no statement for users has a name that begins with an N. -/
theorem head_ne_of_known (known : Known Sample.Model {} "User" name) :
    name.toList.head? ≠ some 'N' := by
  cases known with
  | entity => decide +kernel
  | table registered | foreignKey registered | valueColumn registered => cases registered
  | numbered depth => simp [aliasName]
  | identity => decide
  | @field model owner path last leads =>
    obtain ⟨first, rest, rfl⟩ := List.exists_cons_of_ne_nil leads.ne_nil
    have declared : ∃ field, Schema.declared? model first = some field := by
      cases leads with
      | last declared => exact ⟨_, declared⟩
      | through declared _ _ => exact ⟨_, declared⟩
    obtain ⟨field, declared⟩ := declared
    obtain ⟨c, tail, characters, other⟩ := head_of_declared declared
    rw [FieldPath.joined]
    cases rest with
    | nil => simp [characters, other]
    | cons second rest => simp [String.intercalate_cons_cons, characters, other]

/-- The score is compared with a word, which is the name of nothing that is known. -/
theorem unscoredRequest_names_column :
    ∃ statements, Compile.WithoutFilterHooks ({} : Config Sample.Model) ∧
      OrderCompile.WithoutSortHooks ({} : Config Sample.Model) ∧
      (Plan.compile {} Sample.Model.user unscoredRequest).result = .ok unscoredPlan ∧
      (compile {} unscoredPlan "User").result = .ok statements ∧
      statements.rows.written = "SELECT * FROM \"user\" AS \"t0\" WHERE \"t0\".\"score\" = NaN" ∧
      .bare "NaN" ∈ identifiers statements.rows.written ∧
      ¬ Known Sample.Model {} "User" "NaN" := by
  have parsed : Filter.parse unscoredRequest.filter =
      .ok (some (.clause "score" .equal [some "nan"] false false)) := by
    decide +kernel
  have compiled : (Plan.compile {} Sample.Model.user unscoredRequest).result =
      .ok unscoredPlan := by
    rw [Plan.compile, Traced.result_bind, compileFilter_result parsed]
    rfl
  have unknown : ¬ Known Sample.Model {} "User" "NaN" := fun known => head_ne_of_known known rfl
  refine ⟨_, fun _ _ => rfl, fun _ _ => rfl, compiled, rfl, ?_, ?_, unknown⟩
  · decide +kernel
  · decide +kernel

end Unscored

end ListQuery.Sql
