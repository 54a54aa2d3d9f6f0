import Mathlib.Data.List.Forall2
import ListQuery.Proofs.Mapping.Rules
import ListQuery.Sample.Models

/-! Mapping files and the order of their entries. A file has no order of its own: its models,
aliases, tables and collections are maps. As long as no two keys of a map differ in case alone, what
a file makes of a configuration, and of a catalog, can be told from its entries, and whatever order
they are gone through in makes no difference to any look-up. -/

namespace ListQuery

/-! ### Associations without an order -/

namespace Association

variable {κ α : Type}

theorem get?_eq_some_iff [DecidableEq κ] {entries : Association κ α}
    (distinct : (entries.map Prod.fst).Nodup) {key : κ} {value : α} :
    entries.get? key = some value ↔ (key, value) ∈ entries := by
  induction entries with
  | nil => simp [get?]
  | cons entry rest ih =>
    obtain ⟨first, held⟩ := entry
    obtain ⟨fresh, later⟩ := List.nodup_cons.mp distinct
    rw [get?, List.mem_cons, Prod.mk.injEq]
    split
    · rename_i same
      subst same
      have apart : (first, value) ∉ rest := fun among =>
        fresh (List.mem_map.mpr ⟨_, among, rfl⟩)
      simp [apart, eq_comm]
    · rename_i other
      simp [ih later, Ne.symm other]

theorem put_of_not_mem [DecidableEq κ] {entries : Association κ α} {key : κ}
    (fresh : key ∉ entries.map Prod.fst) (value : α) :
    entries.put key value = entries ++ [(key, value)] := by
  induction entries with
  | nil => rfl
  | cons entry rest ih =>
    obtain ⟨other, later⟩ := not_or.mp (List.mem_cons.not.mp fresh)
    rw [put, if_neg (Ne.symm other), ih later, List.cons_append]

/-- Entries with different keys are put one after the other. -/
theorem ofList_of_nodup [DecidableEq κ] {entries : List (κ × α)}
    (distinct : (entries.map Prod.fst).Nodup) : ofList entries = entries := by
  have onto (before : Association κ α) (all : ((before ++ entries).map Prod.fst).Nodup) :
      entries.foldl (fun association entry => put entry.1 entry.2 association) before =
        before ++ entries := by
    clear distinct
    induction entries generalizing before with
    | nil => simp
    | cons entry rest ih =>
      have fresh : entry.1 ∉ before.map Prod.fst := by
        intro among
        rw [List.map_append] at all
        exact (List.nodup_append.mp all).2.2 _ among _ List.mem_cons_self rfl
      rw [List.foldl_cons, put_of_not_mem fresh, ih _ (by simpa using all), List.append_assoc]
      rfl
  exact onto [] distinct

/-- The same keys in another order, their values changed at most as a relation says. -/
def Reordered (related : α → α → Prop) (entries other : Association κ α) : Prop :=
  ∃ between : List (κ × α), entries.Perm between ∧
    List.Forall₂ (fun a b => a.1 = b.1 ∧ related a.2 b.2) between other

/-- What stands in one of two related lists is related to something in the other. -/
theorem exists_of_forall₂ {β γ : Type} {related : β → γ → Prop} {left : List β} {right : List γ}
    (each : List.Forall₂ related left right) {b : β} (among : b ∈ left) :
    ∃ c ∈ right, related b c := by
  induction each with
  | nil => cases among
  | cons here _ ih =>
    rcases List.mem_cons.mp among with rfl | later
    · exact ⟨_, List.mem_cons_self, here⟩
    · obtain ⟨c, listed, same⟩ := ih later
      exact ⟨c, List.mem_cons_of_mem _ listed, same⟩

namespace Reordered

variable {related : α → α → Prop} {entries other : Association κ α} {key : κ} {value : α}

theorem keys (reordered : Reordered related entries other) :
    (entries.map Prod.fst).Perm (other.map Prod.fst) := by
  obtain ⟨between, moved, changed⟩ := reordered
  have same : between.map Prod.fst = other.map Prod.fst := by
    rw [← List.forall₂_eq_eq_eq, List.forall₂_map_left_iff, List.forall₂_map_right_iff]
    exact changed.imp fun _ _ => And.left
  rw [← same]
  exact moved.map Prod.fst

theorem exists_of_mem (reordered : Reordered related entries other)
    (among : (key, value) ∈ entries) : ∃ new, (key, new) ∈ other ∧ related value new := by
  obtain ⟨between, moved, changed⟩ := reordered
  obtain ⟨⟨_, new⟩, listed, rfl, same⟩ := exists_of_forall₂ changed (moved.mem_iff.mp among)
  exact ⟨new, listed, same⟩

theorem exists_of_mem_other (reordered : Reordered related entries other)
    (among : (key, value) ∈ other) : ∃ old, (key, old) ∈ entries ∧ related old value := by
  obtain ⟨between, moved, changed⟩ := reordered
  obtain ⟨⟨_, old⟩, listed, rfl, same⟩ := exists_of_forall₂ changed.flip among
  exact ⟨old, moved.mem_iff.mpr listed, same⟩

end Reordered

end Association

/-! ### Files without an order -/

/-- The same section with its aliases in another order. -/
structure ModelSection.Reordered (modelSection other : ModelSection) : Prop where
  aliases : modelSection.aliases.Perm other.aliases
  ignore : modelSection.ignore = other.ignore
  ignoreFilter : modelSection.ignoreFilter = other.ignoreFilter
  ignoreSort : modelSection.ignoreSort = other.ignoreSort

namespace MappingFile

/-- The same file with all its maps in another order. -/
structure Reordered (file other : MappingFile) : Prop where
  strict : file.strict = other.strict
  models : Association.Reordered ModelSection.Reordered file.models other.models
  tables : file.tables.Perm other.tables
  collections : Association.Reordered List.Perm file.collections other.collections

/-- No two keys of a map agree: names of models and of entities that have collections differ in more
than the case of ASCII letters, sources of aliases in more than case, and all other keys differ. -/
structure Distinct (file : MappingFile) : Prop where
  models : (file.models.map Prod.fst).Pairwise fun a b => Text.sameIgnoringCase a b = false
  aliases : ∀ name modelSection, (name, modelSection) ∈ file.models →
    (modelSection.aliases.map Prod.fst).Pairwise fun a b => Text.lowercase a ≠ Text.lowercase b
  tables : (file.tables.map Prod.fst).Nodup
  entities : (file.collections.map Prod.fst).Pairwise fun a b => Text.sameIgnoringCase a b = false
  paths : ∀ entity tables, (entity, tables) ∈ file.collections → (tables.map Prod.fst).Nodup

theorem Distinct.reordered {file other : MappingFile} (distinct : file.Distinct)
    (reordered : file.Reordered other) : other.Distinct := by
  have apart {names changed : List String} (moved : names.Perm changed)
      (all : names.Pairwise fun a b => Text.sameIgnoringCase a b = false) :
      changed.Pairwise fun a b => Text.sameIgnoringCase a b = false :=
    (moved.pairwise_iff fun {a b} other => (Text.sameIgnoringCase_comm b a).trans other).mp all
  refine ⟨apart reordered.models.keys distinct.models, ?aliases,
    (reordered.tables.map Prod.fst).nodup_iff.mp distinct.tables,
    apart reordered.collections.keys distinct.entities, ?paths⟩
  case aliases =>
    intro name modelSection among
    obtain ⟨old, listed, same⟩ := reordered.models.exists_of_mem_other among
    have moved := same.aliases.map Prod.fst
    exact (moved.pairwise_iff fun {a b} => Ne.symm).mp (distinct.aliases name old listed)
  case paths =>
    intro entity tables among
    obtain ⟨old, listed, same⟩ := reordered.collections.exists_of_mem_other among
    exact (same.map Prod.fst).nodup_iff.mp (distinct.paths entity old listed)

/-! ### What a file makes of a configuration -/

/-- Of keys that differ in more than case, only one goes by a name. -/
theorem filter_eq_singleton {α : Type} {entries : List (String × α)} {key name : String} {value : α}
    (distinct : (entries.map Prod.fst).Pairwise fun a b => Text.sameIgnoringCase a b = false)
    (among : (key, value) ∈ entries) (named : Text.sameIgnoringCase key name = true) :
    (entries.filter fun (key, _) => Text.sameIgnoringCase key name) = [(key, value)] := by
  obtain ⟨front, back, rfl⟩ := List.append_of_mem among
  rw [List.map_append, List.map_cons, List.pairwise_append, List.pairwise_cons] at distinct
  obtain ⟨-, ⟨after, -⟩, before⟩ := distinct
  have none {entries : List (String × α)}
      (others : ∀ entry ∈ entries, Text.sameIgnoringCase key entry.1 = false) :
      (entries.filter fun (key, _) => Text.sameIgnoringCase key name) = [] := by
    refine List.filter_eq_nil_iff.mpr fun entry listed goes => ?_
    have same : Text.sameIgnoringCase key entry.1 = true := by
      rw [Text.sameIgnoringCase_congr named, Text.sameIgnoringCase_comm]
      exact goes
    rw [others entry listed] at same
    cases same
  have front_none := none fun entry listed => by
    rw [Text.sameIgnoringCase_comm]
    exact before _ (List.mem_map_of_mem listed) _ List.mem_cons_self
  have back_none := none fun entry listed => after _ (List.mem_map_of_mem listed)
  rw [List.filter_append, front_none, List.filter_cons, back_none]
  exact if_pos named

theorem filter_eq_nil {α : Type} {entries : List (String × α)} {name : String}
    (others : ∀ key value, (key, value) ∈ entries → Text.sameIgnoringCase key name = false) :
    (entries.filter fun (key, _) => Text.sameIgnoringCase key name) = [] := by
  refine List.filter_eq_nil_iff.mpr fun entry listed goes => ?_
  have same : Text.sameIgnoringCase entry.1 name = true := goes
  rw [others entry.1 entry.2 listed] at same
  cases same

/-- What a file makes of a configuration for a model, told by its entries: the option of the file,
and the rules of the model's section on top of those that there were. Without a section the model
keeps its rules, and other models keep theirs. -/
structure Configures {M : Type} [Schema M] [DecidableEq M] (file : MappingFile) (model : M)
    (base result : Config M) : Prop where
  strict : result.strict = file.strict
  others : ∀ other, other ≠ model → result.mappings.get? other = base.mappings.get? other
  absent : (∀ name modelSection, (name, modelSection) ∈ file.models →
      Text.sameIgnoringCase name (Schema.name model) = false) →
    result.mappings.get? model = base.mappings.get? model
  present : ∀ name modelSection, (name, modelSection) ∈ file.models →
    Text.sameIgnoringCase name (Schema.name model) = true →
      ∃ mapping, result.mappings.get? model = some mapping ∧
        modelSection.Extends (base.mapping model) mapping

section Configures
variable {M : Type} [Schema M] [DecidableEq M] {file : MappingFile} {model : M}

theorem section?_of_mem {name asked : String} {modelSection : ModelSection}
    (distinct : file.Distinct) (among : (name, modelSection) ∈ file.models)
    (same : Text.sameIgnoringCase name asked = true) : file.section? asked = some modelSection := by
  rw [section?, ← List.head?_filter, filter_eq_singleton distinct.models among same]
  rfl

theorem section?_of_none {asked : String}
    (others : ∀ name modelSection, (name, modelSection) ∈ file.models →
      Text.sameIgnoringCase name asked = false) : file.section? asked = none := by
  rw [section?, ← List.head?_filter, filter_eq_nil others]
  rfl

theorem Distinct.configures (distinct : file.Distinct) (model : M) (base : Config M) :
    file.Configures model base (file.configure model base).2 where
  strict := by
    rw [configure]
    split <;> rfl
  others other apart := by
    rw [configure]
    split
    · rfl
    · rw [Config.configure, Association.get?_put, if_neg (Ne.symm apart)]
  absent others := by
    rw [configure, section?_of_none others]
  present name modelSection among same := by
    rw [configure, section?_of_mem distinct among same]
    refine ⟨(base.mapping model).addAll modelSection.rules, ?_, ?_⟩
    · simp only [Config.configure, Association.get?_put, if_pos]
      rfl
    · have sources := distinct.aliases name modelSection among
      rw [List.pairwise_map] at sources
      exact ModelSection.extends_addAll sources (base.mapping model)

end Configures

end MappingFile

/-- Two mappings say the same of every name. -/
structure Mapping.SameLookups (mapping other : Mapping) : Prop where
  aliases : ∀ name, mapping.alias? name = other.alias? name
  ignoresFilter : ∀ name, mapping.ignoresFilter name = other.ignoresFilter name
  ignoresSort : ∀ name, mapping.ignoresSort name = other.ignoresSort name
  customFilter : ∀ name, mapping.customFilter? name = other.customFilter? name
  customSort : ∀ name, mapping.customSort? name = other.customSort? name

theorem Mapping.SameLookups.refl (mapping : Mapping) : mapping.SameLookups mapping :=
  ⟨fun _ => rfl, fun _ => rfl, fun _ => rfl, fun _ => rfl, fun _ => rfl⟩

/-- What a section extends a mapping to is settled, as far as look-ups go. -/
theorem ModelSection.Extends.sameLookups {modelSection : ModelSection}
    {base mapping other : Mapping} (first : modelSection.Extends base mapping)
    (second : modelSection.Extends base other) : mapping.SameLookups other where
  aliases name := by
    by_cases known : ∃ entry ∈ modelSection.aliases, Text.lowercase entry.1 = Text.lowercase name
    · obtain ⟨entry, listed, same⟩ := known
      rw [first.alias_of_mem entry.1 entry.2 listed name same,
        second.alias_of_mem entry.1 entry.2 listed name same]
    · have others : ∀ entry ∈ modelSection.aliases, Text.lowercase entry.1 ≠ Text.lowercase name :=
        fun entry listed same => known ⟨entry, listed, same⟩
      rw [first.alias_of_other name others, second.alias_of_other name others]
  ignoresFilter name := (first.ignoresFilter name).trans (second.ignoresFilter name).symm
  ignoresSort name := (first.ignoresSort name).trans (second.ignoresSort name).symm
  customFilter name := (first.customFilter name).trans (second.customFilter name).symm
  customSort name := (first.customSort name).trans (second.customSort name).symm

/-- Two configurations have the same option and say the same of every name of every model, and the
same models have a mapping. -/
structure Config.SameLookups {M : Type} [DecidableEq M] (config other : Config M) : Prop where
  strict : config.strict = other.strict
  registered : ∀ model, config.isRegistered model = other.isRegistered model
  mapping : ∀ model, (config.mapping model).SameLookups (other.mapping model)

namespace MappingFile

variable {file other : MappingFile}

/-- What a file makes of a configuration is settled by its entries, as far as look-ups go. -/
theorem Configures.sameLookups {M : Type} [Schema M] [DecidableEq M] {model : M}
    {base first second : Config M} (one : file.Configures model base first)
    (two : file.Configures model base second) : first.SameLookups second := by
  -- The mappings of a model are there for both or for neither, and look alike.
  have alike (asked : M) : first.isRegistered asked = second.isRegistered asked ∧
      (first.mapping asked).SameLookups (second.mapping asked) := by
    have equal (same : first.mappings.get? asked = second.mappings.get? asked) :
        first.isRegistered asked = second.isRegistered asked ∧
          (first.mapping asked).SameLookups (second.mapping asked) := by
      rw [Config.isRegistered, Config.isRegistered, Config.mapping, Config.mapping, same]
      exact ⟨rfl, .refl _⟩
    by_cases apart : asked = model
    · subst apart
      by_cases known : ∃ name modelSection, (name, modelSection) ∈ file.models ∧
          Text.sameIgnoringCase name (Schema.name asked) = true
      · obtain ⟨name, modelSection, among, named⟩ := known
        obtain ⟨mapping, found, extended⟩ := one.present name modelSection among named
        obtain ⟨mapping', found', extended'⟩ := two.present name modelSection among named
        rw [Config.isRegistered, Config.isRegistered, Config.mapping, Config.mapping, found, found']
        exact ⟨rfl, extended.sameLookups extended'⟩
      · have others : ∀ name modelSection, (name, modelSection) ∈ file.models →
            Text.sameIgnoringCase name (Schema.name asked) = false :=
          fun name modelSection among => Bool.eq_false_iff.mpr fun named =>
            known ⟨name, modelSection, among, named⟩
        exact equal ((one.absent others).trans (two.absent others).symm)
    · exact equal ((one.others asked apart).trans (two.others asked apart).symm)
  exact ⟨one.strict.trans two.strict.symm, fun asked => (alike asked).1,
    fun asked => (alike asked).2⟩

/-- A section whose aliases stand in another order extends mappings in the same way. -/
theorem extends_of_reordered {modelSection changed : ModelSection} {base result : Mapping}
    (reordered : modelSection.Reordered changed) (extended : changed.Extends base result) :
    modelSection.Extends base result where
  alias_of_mem source target among :=
    extended.alias_of_mem source target (reordered.aliases.mem_iff.mp among)
  alias_of_other name others :=
    extended.alias_of_other name fun entry listed =>
      others entry (reordered.aliases.mem_iff.mpr listed)
  ignoresFilter name := by
    rw [reordered.ignore, reordered.ignoreFilter]
    exact extended.ignoresFilter name
  ignoresSort name := by
    rw [reordered.ignore, reordered.ignoreSort]
    exact extended.ignoresSort name
  customFilter := extended.customFilter
  customSort := extended.customSort

/-- What a file in another order makes of a configuration is what the file says. -/
theorem Configures.of_reordered {M : Type} [Schema M] [DecidableEq M] {model : M}
    {base result : Config M} (reordered : file.Reordered other)
    (made : other.Configures model base result) : file.Configures model base result where
  strict := made.strict.trans reordered.strict.symm
  others := made.others
  absent unnamed := by
    refine made.absent fun name modelSection among => ?_
    obtain ⟨old, listed, -⟩ := reordered.models.exists_of_mem_other among
    exact unnamed name old listed
  present name modelSection among named := by
    obtain ⟨changed, listed, same⟩ := reordered.models.exists_of_mem among
    obtain ⟨mapping, found, extended⟩ := made.present name changed listed named
    exact ⟨mapping, found, extends_of_reordered same extended⟩

/-! ### What a file makes of a catalog -/

/-- The catalog of an entity, told by the entries of a file: its tables, and the collections of the
entity, the case of ASCII letters in its name apart. -/
structure Catalogs (file : MappingFile) (entity : String) (catalog : Sql.Catalog) : Prop where
  threshold : catalog.threshold = ({} : Sql.Catalog).threshold
  table : ∀ name table, catalog.tables.get? name = some table ↔ (name, table) ∈ file.tables
  collection : ∀ path table, catalog.collections.get? path = some table ↔
    ∃ name tables, (name, tables) ∈ file.collections ∧
      Text.sameIgnoringCase name entity = true ∧ (path, table) ∈ tables

theorem collections_of_mem {name entity : String}
    {tables : Association String Sql.CollectionTable} (distinct : file.Distinct)
    (among : (name, tables) ∈ file.collections)
    (named : Text.sameIgnoringCase name entity = true) :
    (file.catalog entity).collections = tables := by
  rw [catalog, filter_eq_singleton distinct.entities among named, List.flatMap_singleton]
  exact Association.ofList_of_nodup (distinct.paths name tables among)

theorem catalogs (distinct : file.Distinct) (entity : String) :
    file.Catalogs entity (file.catalog entity) where
  threshold := rfl
  table name table := Association.get?_eq_some_iff distinct.tables
  collection path table := by
    by_cases known : ∃ name tables, (name, tables) ∈ file.collections ∧
        Text.sameIgnoringCase name entity = true
    · obtain ⟨name, tables, among, named⟩ := known
      rw [collections_of_mem distinct among named,
        Association.get?_eq_some_iff (distinct.paths name tables among)]
      refine ⟨fun listed => ⟨name, tables, among, named, listed⟩, ?_⟩
      rintro ⟨name', tables', among', named', listed⟩
      rw [← collections_of_mem distinct among named, collections_of_mem distinct among' named']
      exact listed
    · have none : (file.catalog entity).collections = [] := by
        rw [catalog, filter_eq_nil fun name tables among => Bool.eq_false_iff.mpr fun named =>
          known ⟨name, tables, among, named⟩]
        rfl
      rw [none]
      constructor
      · intro found
        cases found
      · rintro ⟨name, tables, among, named, -⟩
        exact absurd ⟨name, tables, among, named⟩ known

theorem Catalogs.of_reordered {entity : String} {catalog : Sql.Catalog}
    (reordered : file.Reordered other) (made : other.Catalogs entity catalog) :
    file.Catalogs entity catalog where
  threshold := made.threshold
  table name table := (made.table name table).trans reordered.tables.mem_iff.symm
  collection path table := by
    rw [made.collection]
    constructor
    · rintro ⟨name, tables, among, named, listed⟩
      obtain ⟨old, former, same⟩ := reordered.collections.exists_of_mem_other among
      exact ⟨name, old, former, named, same.mem_iff.mpr listed⟩
    · rintro ⟨name, tables, among, named, listed⟩
      obtain ⟨new, later, same⟩ := reordered.collections.exists_of_mem among
      exact ⟨name, new, later, named, same.mem_iff.mp listed⟩

/-! ### The order of a file -/

/-- Where no two keys of a map differ in case alone, a file makes the same of a configuration and of
a catalog in whatever order its maps are gone through, and both can be told from its entries. The
configuration has the file's option; the model's section, if there is one, has gone on top of the
rules that there were, with its aliases before theirs and its ignored properties beside theirs; all
else is as it was. The catalog has the file's tables and the entity's collections. -/
theorem order_of_entries_is_no_matter {M : Type} [Schema M] [DecidableEq M]
    (distinct : file.Distinct) (reordered : file.Reordered other) (model : M) (base : Config M)
    (entity : String) :
    file.Configures model base (other.configure model base).2 ∧
    (file.configure model base).2.SameLookups (other.configure model base).2 ∧
    file.Catalogs entity (other.catalog entity) ∧
    (∀ name, (file.catalog entity).tableName name = (other.catalog entity).tableName name) ∧
    ∀ path, (file.catalog entity).collections.get? path =
      (other.catalog entity).collections.get? path := by
  have made : file.Configures model base (other.configure model base).2 :=
    .of_reordered reordered ((distinct.reordered reordered).configures model base)
  have listed : file.Catalogs entity (other.catalog entity) :=
    .of_reordered reordered (catalogs (distinct.reordered reordered) entity)
  have own : file.Catalogs entity (file.catalog entity) := catalogs distinct entity
  refine ⟨made, (distinct.configures model base).sameLookups made, listed, fun name => ?_,
    fun path => Option.ext fun table => (own.collection path table).trans
      (listed.collection path table).symm⟩
  have tables : (file.catalog entity).tables.get? name = (other.catalog entity).tables.get? name :=
    Option.ext fun table => (own.table name table).trans (listed.table name table).symm
  rw [Sql.Catalog.tableName, Sql.Catalog.tableName, tables]

/-- A file with a section for users and one for orders, and with tables for both. -/
def shopFile : MappingFile where
  strict := true
  models :=
    [ ("USER",
        { aliases := [("Town", "address.city"), ("Mail", "email")], ignore := ["Tags"]
          ignoreSort := ["name"] }),
      ("Order", { ignoreFilter := ["total"] }) ]
  tables := [("User", "people"), ("Order", "sales")]
  collections :=
    [ ("user", [("orders", ⟨"sales", "buyer", "value"⟩), ("tags", ⟨"labels", "owner", "label"⟩)]),
      ("Order", [("lines", ⟨"parts", "sale", "value"⟩)]) ]

/-- The file, with all its maps the other way round. -/
def shopFileReversed : MappingFile where
  strict := true
  models :=
    [ ("Order", { ignoreFilter := ["total"] }),
      ("USER",
        { aliases := [("Mail", "email"), ("Town", "address.city")], ignore := ["Tags"]
          ignoreSort := ["name"] }) ]
  tables := [("Order", "sales"), ("User", "people")]
  collections :=
    [ ("Order", [("lines", ⟨"parts", "sale", "value"⟩)]),
      ("user", [("tags", ⟨"labels", "owner", "label"⟩), ("orders", ⟨"sales", "buyer", "value"⟩)]) ]

theorem shopFile_distinct : shopFile.Distinct where
  models := by decide +kernel
  aliases := by
    have each : ∀ entry ∈ shopFile.models, (entry.2.aliases.map Prod.fst).Pairwise
        fun a b => Text.lowercase a ≠ Text.lowercase b := by
      decide +kernel
    exact fun name modelSection among => each (name, modelSection) among
  tables := by decide
  entities := by decide +kernel
  paths := by
    have each : ∀ entry ∈ shopFile.collections, (entry.2.map Prod.fst).Nodup := by decide
    exact fun entity tables among => each (entity, tables) among

theorem shopFile_reordered : shopFile.Reordered shopFileReversed where
  strict := rfl
  models :=
    ⟨_, .swap _ _ _, .cons ⟨rfl, .refl _, rfl, rfl, rfl⟩
      (.cons ⟨rfl, .swap _ _ _, rfl, rfl, rfl⟩ .nil)⟩
  tables := .swap _ _ _
  collections := ⟨_, .swap _ _ _, .cons ⟨rfl, .refl _⟩ (.cons ⟨rfl, .swap _ _ _⟩ .nil)⟩

/-- Rules for users: a town that is none, a nickname, and an address that is not for filtering. -/
def withNicknames : Config Sample.Model where
  mappings := [(.user,
    { aliases := [("town", ⟨"manager.name", none⟩), ("nick", ⟨"name", none⟩)]
      filterIgnored := ["email"] })]

theorem shopFile_goes_on_top :
    shopFile.Distinct ∧ shopFile.Reordered shopFileReversed ∧
    ∃ mapping, (shopFileReversed.configure .user withNicknames).2.mappings.get? .user =
        some mapping ∧
      mapping.alias? "TOWN" = some ⟨"address.city", none⟩ ∧
      mapping.alias? "Nick" = some ⟨"name", none⟩ ∧
      mapping.ignoresFilter "EMAIL" = true ∧ mapping.ignoresFilter "tags" = true ∧
      (shopFile.configure .user withNicknames).2.SameLookups
        (shopFileReversed.configure .user withNicknames).2 ∧
      (shopFileReversed.catalog "USER").collections.get? "tags" =
        some ⟨"labels", "owner", "label"⟩ := by
  obtain ⟨made, same, listed, -⟩ := order_of_entries_is_no_matter shopFile_distinct
    shopFile_reordered Sample.Model.user withNicknames "USER"
  obtain ⟨mapping, found, extended⟩ := made.present "USER" _ List.mem_cons_self (by decide +kernel)
  have nickname : mapping.alias? "Nick" = some ⟨"name", none⟩ := by
    rw [extended.alias_of_other "Nick" (by decide +kernel)]
    rfl
  refine ⟨shopFile_distinct, shopFile_reordered, mapping, found, ?_, nickname, ?_, ?_, same, ?_⟩
  · exact extended.alias_of_mem "Town" _ List.mem_cons_self "TOWN" (by decide +kernel)
  · rw [extended.ignoresFilter]
    decide +kernel
  · rw [extended.ignoresFilter]
    decide +kernel
  · exact (listed.collection _ _).mpr ⟨"user", _, List.mem_cons_self, by decide +kernel,
      List.mem_cons_of_mem _ List.mem_cons_self⟩

end MappingFile

end ListQuery
