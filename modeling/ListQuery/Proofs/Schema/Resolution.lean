import ListQuery.Proofs.Schema.Leads
import ListQuery.Proofs.Text.Case
import ListQuery.Sample.Models

/-! What a property stands for, told without its aliases. A property that is found has a canonical
name, its path with points between the names, and under a configuration without aliases that name
finds the same field. A property that is not found asks for a name that is not declared, or goes on
behind a field that is no record. -/

namespace ListQuery

namespace Schema

variable {M : Type} [Schema M]

theorem field?_congr {left right : String} (same : Text.sameIgnoringCase left right = true)
    (model : M) : field? model left = field? model right := by
  have alike (field : Field M) :
      Text.sameIgnoringCase field.name left = Text.sameIgnoringCase field.name right := by
    rw [Text.sameIgnoringCase_comm, Text.sameIgnoringCase_congr same,
      Text.sameIgnoringCase_comm]
  simp only [field?, alike]

theorem sameIgnoringCase_of_field? {model : M} {name : String} {field : Field M}
    (found : field? model name = some field) :
    Text.sameIgnoringCase field.name name = true := by
  have named := List.find?_some found
  exact named

/-- A field that is found is found by its own name, whatever others are called. -/
theorem field?_name {model : M} {name : String} {field : Field M}
    (found : field? model name = some field) : field? model field.name = some field := by
  rw [field?_congr (sameIgnoringCase_of_field? found), found]

end Schema

namespace Config

variable {M : Type} [DecidableEq M]

/-- The configuration with the aliases of all models taken away. -/
def withoutAliases (config : Config M) : Config M :=
  { config with
    mappings :=
      config.mappings.map fun (model, mapping) => (model, { mapping with aliases := [] }) }

theorem mapping_withoutAliases (config : Config M) (model : M) :
    config.withoutAliases.mapping model = { config.mapping model with aliases := [] } := by
  have kept (mappings : Association M Mapping) :
      Association.get? model
          (mappings.map fun (model, mapping) => (model, { mapping with aliases := [] })) =
        (Association.get? model mappings).map fun mapping => { mapping with aliases := [] } := by
    induction mappings with
    | nil => rfl
    | cons pair rest ih =>
      rw [List.map_cons, Association.get?, Association.get?, ih]
      split <;> rfl
  rw [mapping, mapping, withoutAliases, kept]
  cases Association.get? model config.mappings <;> rfl

end Config

namespace Resolve

open Schema (field? field?_name)

variable {M : Type} [Schema M]

theorem walkFields_last {model : M} {name : String} {field : Field M}
    (found : field? model name = some field) :
    walkFields model [name] = some ⟨[field.name], model, field.type⟩ := by
  rw [walkFields, found]
  rfl

theorem walkFields_missing {model : M} {name : String} (missing : field? model name = none)
    (rest : List String) : walkFields model (name :: rest) = none := by
  rw [walkFields, missing]

theorem walkFields_through {model next : M} {name : String} {rest : List String} {field : Field M}
    (found : field? model name = some field) (record : field.type = .record next)
    (more : rest ≠ []) :
    walkFields model (name :: rest) = (walkFields next rest).map (stepBefore field) := by
  have nonempty : rest.isEmpty = false := by simpa using more
  rw [walkFields, found]
  simp only [nonempty, record]
  rfl

theorem walkFields_stuck {model : M} {name : String} {rest : List String} {field : Field M}
    (found : field? model name = some field) (plain : ∀ next, field.type ≠ .record next)
    (more : rest ≠ []) : walkFields model (name :: rest) = none := by
  have nonempty : rest.isEmpty = false := by simpa using more
  rw [walkFields, found]
  simp only [nonempty]
  cases type : field.type with
  | record next => exact absurd type (plain next)
  | _ => rfl

/-- A walk that its own names lead along again, none of them with a point in it. -/
structure Canonical (model : M) (walk : Walk M) : Prop where
  filled : walk.names ≠ []
  again : walkFields model walk.names = some walk
  plain : ∀ name ∈ walk.names, '.' ∉ name.toList

theorem plain_of_field? {model : M} {name : String} {field : Field M}
    (found : field? model name = some field) (plain : '.' ∉ name.toList) :
    '.' ∉ field.name.toList :=
  mt (Text.mem_congr (by decide)
    (Text.sameIgnoringCase_iff.mp (Schema.sameIgnoringCase_of_field? found))).mp plain

theorem canonical_of_walkFields {model : M} {names : List String} {walk : Walk M}
    (walked : walkFields model names = some walk) (plain : ∀ name ∈ names, '.' ∉ name.toList) :
    Canonical model walk := by
  induction names generalizing model walk with
  | nil => cases walked
  | cons name rest ih =>
    obtain ⟨plainName, plainRest⟩ := List.forall_mem_cons.mp plain
    rw [walkFields] at walked
    split at walked
    · cases walked
    · rename_i field found
      split at walked
      · cases walked
        exact ⟨List.cons_ne_nil _ _, walkFields_last (field?_name found),
          List.forall_mem_singleton.mpr (plain_of_field? found plainName)⟩
      · split at walked
        · rename_i next record
          obtain ⟨later, walkedOn, rfl⟩ := Option.map_eq_some_iff.mp walked
          obtain ⟨filled, again, plainLater⟩ := ih walkedOn plainRest
          refine ⟨List.cons_ne_nil _ _, ?_, ?_⟩
          · exact (walkFields_through (field?_name found) record filled).trans
              (congrArg (Option.map (stepBefore field)) again)
          · exact List.forall_mem_cons.mpr ⟨plain_of_field? found plainName, plainLater⟩
        · cases walked

/-- A walk to a record goes on with a walk from its model. -/
theorem walkFields_append {model next : M} {names names' : List String} {walk later : Walk M}
    (walked : walkFields model names = some walk) (record : walk.type = .record next)
    (walkedOn : walkFields next names' = some later) :
    walkFields model (names ++ names') =
      some { later with names := walk.names ++ later.names } := by
  have more : names' ≠ [] := by
    rintro rfl
    cases walkedOn
  induction names generalizing model walk with
  | nil => cases walked
  | cons name rest ih =>
    rw [walkFields] at walked
    split at walked
    · cases walked
    · rename_i field found
      split at walked
      · rename_i last
        cases walked
        rw [List.isEmpty_iff.mp last, List.singleton_append,
          walkFields_through found record more, walkedOn]
        rfl
      · split at walked
        · rename_i between toBetween
          obtain ⟨first, walkedFirst, rfl⟩ := Option.map_eq_some_iff.mp walked
          rw [List.cons_append, walkFields_through found toBetween (by simp [more]),
            ih walkedFirst record]
          rfl
        · cases walked

theorem Canonical.append {model next : M} {walk later : Walk M} (first : Canonical model walk)
    (record : walk.type = .record next) (second : Canonical next later) :
    Canonical model { later with names := walk.names ++ later.names } where
  filled := List.append_ne_nil_of_left_ne_nil first.filled _
  again := walkFields_append first.again record second.again
  plain name among := (List.mem_append.mp among).elim (first.plain name) (second.plain name)

variable [DecidableEq M] {config : Config M}

/-- The names that a segment comes to: those of its target if it is an alias, and otherwise the
segment itself. -/
def targets (config : Config M) (model : M) (segment : String) : List String :=
  match (config.mapping model).alias? segment with
  | some known => Text.splitAt '.' known.target
  | none => [segment]

omit [Schema M] in
theorem targets_ne_nil (config : Config M) (model : M) (segment : String) :
    targets config model segment ≠ [] := by
  rw [targets]
  split
  · exact Text.splitAt_ne_nil '.' _
  · exact List.cons_ne_nil _ _

omit [Schema M] in
theorem plain_of_mem_targets {model : M} {segment name : String}
    (plain : '.' ∉ segment.toList) (among : name ∈ targets config model segment) :
    '.' ∉ name.toList := by
  rw [targets] at among
  split at among
  · exact Text.not_mem_of_mem_splitAt among
  · rwa [List.mem_singleton.mp among]

theorem walkSegment_eq (config : Config M) (model : M) (segment : String) :
    walkSegment config model segment =
      (walkFields model (targets config model segment)).map
        (·, ((config.mapping model).alias? segment).bind Alias.convert) := by
  rw [walkSegment, targets]
  cases (config.mapping model).alias? segment <;> rfl

theorem canonical_of_walkSegments {model : M} {segments : List String} {walk : Walk M}
    {convert : Option Converter}
    (walked : walkSegments config model segments = some (walk, convert))
    (plain : ∀ segment ∈ segments, '.' ∉ segment.toList) : Canonical model walk := by
  induction segments generalizing model walk convert with
  | nil => cases walked
  | cons segment rest ih =>
    obtain ⟨plainSegment, plainRest⟩ := List.forall_mem_cons.mp plain
    rw [walkSegments, walkSegment_eq] at walked
    split at walked
    · cases walked
    · rename_i first firstConvert found
      obtain ⟨first, fields, same⟩ := Option.map_eq_some_iff.mp found
      cases same
      have canonical : Canonical model first :=
        canonical_of_walkFields fields fun _ => plain_of_mem_targets plainSegment
      split at walked
      · cases walked
        exact canonical
      · split at walked
        · rename_i next record
          obtain ⟨⟨later, _⟩, walkedOn, same⟩ := Option.map_eq_some_iff.mp walked
          cases same
          exact canonical.append record (ih walkedOn plainRest)
        · cases walked

/-- Without aliases every segment is a name. -/
theorem walkSegments_withoutAliases (config : Config M) (model : M) (names : List String) :
    walkSegments config.withoutAliases model names =
      (walkFields model names).map (·, none) := by
  have bare (model : M) (name : String) :
      walkSegment config.withoutAliases model name =
        (walkFields model [name]).map (·, none) := by
    rw [walkSegment_eq, targets, Config.mapping_withoutAliases]
    rfl
  induction names generalizing model with
  | nil => rfl
  | cons name rest ih =>
    rw [walkSegments, bare]
    cases found : field? model name with
    | none =>
      rw [walkFields_missing found, walkFields_missing found]
      rfl
    | some field =>
      rw [walkFields_last found, Option.map_some]
      cases rest with
      | nil =>
        rw [walkFields_last found]
        rfl
      | cons second others =>
        by_cases walkable : ∃ next, field.type = .record next
        · obtain ⟨next, record⟩ := walkable
          rw [walkFields_through found record (List.cons_ne_nil _ _)]
          simp only [record, ih, List.isEmpty_cons, Bool.false_eq_true, if_false, Option.map_map]
          rfl
        · have plain := not_exists.mp walkable
          rw [walkFields_stuck found plain (List.cons_ne_nil _ _)]
          cases type : field.type with
          | record next => exact absurd type (plain next)
          | _ => simp

omit [Schema M] in
theorem annotate_withoutAliases (config : Config M) (root : M) (walk : Walk M)
    (convert : Option Converter) :
    annotate config.withoutAliases root walk none =
      { annotate config root walk convert with convert := none } := by
  simp only [annotate, Config.mapping_withoutAliases]
  rfl

/-- Names that lead nowhere, the rest of the segments behind them: some name is not declared, or
names or segments follow a field that is no record. -/
inductive Blocked (config : Config M) : M → List String → List String → Prop where
  | undeclared {model : M} {name : String} {names segments : List String}
      (missing : field? model name = none) : Blocked config model (name :: names) segments
  | unwalkable {model : M} {name : String} {names segments : List String} {field : Field M}
      (found : field? model name = some field) (plain : ∀ next, field.type ≠ .record next)
      (more : names ≠ [] ∨ segments ≠ []) : Blocked config model (name :: names) segments
  | within {model next : M} {name : String} {names segments : List String} {field : Field M}
      (found : field? model name = some field) (record : field.type = .record next)
      (later : Blocked config next names segments) : Blocked config model (name :: names) segments
  | beyond {model next : M} {name segment : String} {segments : List String} {field : Field M}
      (found : field? model name = some field) (record : field.type = .record next)
      (later : Blocked config next (targets config next segment) segments) :
      Blocked config model [name] (segment :: segments)

/-- The segments that are left can be walked from a field of a type. -/
def GoesOn (config : Config M) (type : FieldType M) (segments : List String) : Prop :=
  segments = [] ∨ ∃ next, type = .record next ∧ (walkSegments config next segments).isSome

theorem isSome_walkSegments_iff (config : Config M) (model : M) (segment : String)
    (rest : List String) :
    (walkSegments config model (segment :: rest)).isSome ↔
      ∃ walk, walkFields model (targets config model segment) = some walk ∧
        GoesOn config walk.type rest := by
  rw [walkSegments, walkSegment_eq]
  cases walkFields model (targets config model segment) with
  | none => simp
  | some walk =>
    simp only [Option.map_some, GoesOn, Option.some.injEq, exists_eq_left', List.isEmpty_iff]
    split
    · simp_all
    · split <;> simp_all

theorem Blocked.not_goesOn {model : M} {names segments : List String} {walk : Walk M}
    (blocked : Blocked config model names segments)
    (walked : walkFields model names = some walk) : ¬ GoesOn config walk.type segments := by
  induction blocked generalizing walk with
  | undeclared missing =>
    rw [walkFields_missing missing] at walked
    cases walked
  | @unwalkable model name names segments field found plain more =>
    by_cases last : names = []
    · subst last
      rw [walkFields_last found] at walked
      cases walked
      rintro (rfl | ⟨next, record, _⟩)
      · simp at more
      · exact plain next record
    · rw [walkFields_stuck found plain last] at walked
      cases walked
  | @within model next name names segments field found record later ih =>
    by_cases last : names = []
    · subst last
      cases later
    · rw [walkFields_through found record last] at walked
      obtain ⟨onward, walkedOn, rfl⟩ := Option.map_eq_some_iff.mp walked
      have stuck := ih walkedOn
      exact stuck
  | @beyond model next name segment segments field found record later ih =>
    rw [walkFields_last found] at walked
    cases walked
    rintro (none | ⟨other, same, walkable⟩)
    · cases none
    · cases record.symm.trans same
      obtain ⟨walk, walkedOn, goesOn⟩ := (isSome_walkSegments_iff ..).mp walkable
      exact ih walkedOn goesOn

/-- Whether names are blocked is settled by their last one: all the others either lead through a
record or block. -/
theorem goesOn_or_blocked_of_last {segments : List String}
    (last : ∀ model name, (∃ walk, walkFields model [name] = some walk ∧
      GoesOn config walk.type segments) ∨ Blocked config model [name] segments)
    (model : M) {names : List String} (filled : names ≠ []) :
    (∃ walk, walkFields model names = some walk ∧ GoesOn config walk.type segments) ∨
      Blocked config model names segments := by
  induction names generalizing model with
  | nil => exact absurd rfl filled
  | cons name rest ih =>
    by_cases more : rest = []
    · rw [more]
      exact last model name
    · cases found : field? model name with
      | none => exact Or.inr (.undeclared found)
      | some field =>
        by_cases walkable : ∃ next, field.type = .record next
        · obtain ⟨next, record⟩ := walkable
          rcases ih next more with ⟨walk, walked, goesOn⟩ | blocked
          · refine Or.inl ⟨stepBefore field walk, ?_, goesOn⟩
            rw [walkFields_through found record more, walked, Option.map_some]
          · exact Or.inr (.within found record blocked)
        · exact Or.inr (.unwalkable found (not_exists.mp walkable) (Or.inl more))

/-- Names lead somewhere from where the segments can be walked, or they are blocked. -/
theorem goesOn_or_blocked (config : Config M) (segments : List String) (model : M)
    {names : List String} (filled : names ≠ []) :
    (∃ walk, walkFields model names = some walk ∧ GoesOn config walk.type segments) ∨
      Blocked config model names segments := by
  induction segments generalizing model names with
  | nil =>
    refine goesOn_or_blocked_of_last (fun model name => ?_) model filled
    cases found : field? model name with
    | none => exact Or.inr (.undeclared found)
    | some field => exact Or.inl ⟨_, walkFields_last found, Or.inl rfl⟩
  | cons segment segments ih =>
    refine goesOn_or_blocked_of_last (fun model name => ?_) model filled
    cases found : field? model name with
    | none => exact Or.inr (.undeclared found)
    | some field =>
      by_cases walkable : ∃ next, field.type = .record next
      · obtain ⟨next, record⟩ := walkable
        rcases ih next (targets_ne_nil config next segment) with led | blocked
        · refine Or.inl ⟨_, walkFields_last found, Or.inr ⟨next, record, ?_⟩⟩
          exact (isSome_walkSegments_iff config next segment segments).mpr led
        · exact Or.inr (.beyond found record blocked)
      · exact Or.inr
          (.unwalkable found (not_exists.mp walkable) (Or.inr (List.cons_ne_nil _ _)))

theorem walkSegments_eq_none_iff (config : Config M) (model : M) (segment : String)
    (rest : List String) :
    walkSegments config model (segment :: rest) = none ↔
      Blocked config model (targets config model segment) rest := by
  rw [← Option.not_isSome_iff_eq_none, isSome_walkSegments_iff]
  constructor
  · intro stuck
    exact (goesOn_or_blocked config rest model (targets_ne_nil config model segment)).resolve_left
      stuck
  · rintro blocked ⟨walk, walked, goesOn⟩
    exact blocked.not_goesOn walked goesOn

end Resolve

open Schema (Leads)
open Resolve (Blocked targets)

variable {M : Type} [Schema M] [DecidableEq M]

/-- A property that is found is found again by its canonical name. -/
theorem resolve_dotted {config : Config M} {model : M} {property : String}
    {resolved : Resolved M} (named : ∀ field ∈ Schema.fields model, field.name ≠ "")
    (found : resolve config model property = some resolved) :
    resolve config.withoutAliases model resolved.path.dotted =
      some { resolved with convert := none } := by
  obtain ⟨owner, field, standsFor⟩ := standsFor_of_resolve found
  have leads := standsFor.leads
  rw [resolve] at found
  split at found
  · cases found
  · obtain ⟨⟨walk, convert⟩, walked, rfl⟩ := Option.map_eq_some_iff.mp found
    have canonical : Resolve.Canonical model walk :=
      Resolve.canonical_of_walkSegments walked fun _ => Text.not_mem_of_mem_splitAt
    have cut : Text.splitAt '.' walk.names.dotted = walk.names :=
      Text.splitAt_dotted canonical.filled canonical.plain
    -- Only one empty name is written as no text, and no field of the root is called so.
    have filled : walk.names.dotted ≠ "" := by
      intro empty
      have single : walk.names = [""] := by
        rw [← cut, empty]
        rfl
      change Leads model walk.names owner field at leads
      rw [single] at leads
      cases leads with
      | last declared =>
        exact named field (List.mem_of_find?_eq_some declared) (Schema.name_of_declared declared)
      | through _ _ later => exact later.ne_nil rfl
    change resolve config.withoutAliases model walk.names.dotted = _
    rw [resolve, if_neg (by simpa using filled), cut, Resolve.walkSegments_withoutAliases,
      canonical.again]
    exact congrArg some (Resolve.annotate_withoutAliases config model walk convert)

/-- A property is not found when it is no text, or when its names are blocked. -/
theorem resolve_eq_none_iff (config : Config M) (model : M) (property : String) :
    resolve config model property = none ↔ property = "" ∨ ∃ segment rest,
      Text.splitAt '.' property = segment :: rest ∧
        Blocked config model (targets config model segment) rest := by
  rw [resolve]
  obtain ⟨segment, rest, cut⟩ := List.exists_cons_of_ne_nil (Text.splitAt_ne_nil '.' property)
  by_cases empty : property = ""
  · simp [empty]
  · rw [if_neg (by simpa using empty), cut, Option.map_eq_none_iff,
      Resolve.walkSegments_eq_none_iff]
    simp [empty]

/-- What is found is a path along declared fields, and its names with points between them find the
same without any alias; what is not found is no text, or asks for a name that is not declared, or
goes on behind a field that is no record. That the fields of the root have names is needed for the
canonical name alone: one empty name would be written as no text. -/
theorem resolution_is_canonical (config : Config M) (model : M)
    (named : ∀ field ∈ Schema.fields model, field.name ≠ "") (property : String) :
    (∀ resolved, resolve config model property = some resolved →
      resolved.path ≠ [] ∧
      (∃ owner field, Leads model resolved.path owner field ∧ resolved.type = field.type) ∧
      resolve config.withoutAliases model resolved.path.dotted =
        some { resolved with convert := none }) ∧
    (resolve config model property = none ↔ property = "" ∨ ∃ segment rest,
      Text.splitAt '.' property = segment :: rest ∧
        Blocked config model (targets config model segment) rest) := by
  refine ⟨fun resolved found => ?_, resolve_eq_none_iff config model property⟩
  obtain ⟨owner, field, standsFor⟩ := standsFor_of_resolve found
  exact ⟨standsFor.leads.ne_nil, ⟨owner, field, standsFor.leads, standsFor.type⟩,
    resolve_dotted named found⟩

/-- A mapping under which users say `town` for the city of their address, and read it with a
converter of their own. -/
def townNames : Config Sample.Model where
  mappings :=
    [(.user, { aliases := [("town", ⟨"ADDRESS.city", some fun raw => .ok (.text raw)⟩)] })]

/-- The town of a manager is the field `manager.address.city`; a street has no parts. -/
theorem town_of_manager_is_canonical :
    (∀ field ∈ Schema.fields Sample.Model.user, field.name ≠ "") ∧
    (∃ resolved, resolve townNames .user "Manager.Town" = some resolved ∧
      resolved.path = ["manager", "address", "city"] ∧ resolved.convert.isSome ∧
      resolve townNames.withoutAliases .user "manager.address.city" =
        some { resolved with convert := none }) ∧
    ∃ segment rest, Text.splitAt '.' "town.name" = segment :: rest ∧
      Blocked townNames Sample.Model.user (targets townNames Sample.Model.user segment) rest := by
  have named : ∀ field ∈ Schema.fields Sample.Model.user, field.name ≠ "" := by decide
  have found : (resolve townNames .user "Manager.Town").map
      (fun resolved => (resolved.path, resolved.convert.isSome)) =
        some (["manager", "address", "city"], true) := by
    decide +kernel
  obtain ⟨resolved, found, same⟩ := Option.map_eq_some_iff.mp found
  obtain ⟨path, convert⟩ := Prod.mk.inj same
  obtain ⟨_, _, again⟩ := (resolution_is_canonical townNames .user named _).1 resolved found
  have dotted : resolved.path.dotted = "manager.address.city" := by
    rw [path]
    decide +kernel
  rw [dotted] at again
  have missing : resolve townNames .user "town.name" = none :=
    by
    have path : (resolve townNames .user "town.name").map Resolved.path = none := by
      decide +kernel
    exact Option.map_eq_none_iff.mp path
  have blocked := ((resolution_is_canonical townNames .user named _).2.mp missing).resolve_left
    (by decide)
  exact ⟨named, ⟨resolved, found, path, convert, again⟩, blocked⟩

end ListQuery
