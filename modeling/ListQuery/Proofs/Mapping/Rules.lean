import ListQuery.MappingFile

/-! What a mapping says after more rules. A rule adds to what is said about one name and leaves the
rest as it is, so what a look-up finds after many rules can be told without going through them in
turn: by the rules that are about the name, and by the mapping that they were added to. -/

namespace ListQuery

namespace PropertyRule

/-- Whether clauses on the rule's property are passed over. -/
def hidesFilter (rule : PropertyRule) : Bool :=
  match rule.rule with
  | .ignore | .ignoreForFiltering => true
  | _ => false

/-- Whether order entries for the rule's property are passed over. -/
def hidesSort (rule : PropertyRule) : Bool :=
  match rule.rule with
  | .ignore | .ignoreForSorting => true
  | _ => false

/-- The rule gives a property's clauses or order entries to a hook. -/
def IsHook (rule : PropertyRule) : Prop :=
  match rule.rule with
  | .filterBy _ | .sortBy _ => True
  | _ => False

/-- The rule makes a name an alias. -/
def Names (rule : PropertyRule) (name : String) : Prop :=
  ∃ source convert, rule.rule = .mapFrom source convert ∧
    Text.lowercase source = Text.lowercase name

end PropertyRule

namespace Mapping

/-! ### One rule -/

theorem contains_insertName (name other : String) (names : List String) :
    (insertName name names).contains other = (names.contains other || name == other) := by
  unfold insertName
  split
  · rename_i among
    cases same : name == other with
    | false => rw [Bool.or_false]
    | true => rw [← beq_iff_eq.mp same, among, Bool.or_true]
  · rw [List.contains_append, List.contains_cons, List.contains_nil, Bool.or_false, Bool.beq_comm]

theorem ignoresFilter_add (mapping : Mapping) (rule : PropertyRule) (name : String) :
    (mapping.add rule).ignoresFilter name = (mapping.ignoresFilter name ||
      rule.hidesFilter && Text.lowercase rule.property == Text.lowercase name) := by
  obtain ⟨property, rule⟩ := rule
  cases rule <;> simp only [add, ignoresFilter, PropertyRule.hidesFilter, contains_insertName,
    Bool.false_and, Bool.true_and, Bool.or_false]

theorem ignoresSort_add (mapping : Mapping) (rule : PropertyRule) (name : String) :
    (mapping.add rule).ignoresSort name = (mapping.ignoresSort name ||
      rule.hidesSort && Text.lowercase rule.property == Text.lowercase name) := by
  obtain ⟨property, rule⟩ := rule
  cases rule <;> simp only [add, ignoresSort, PropertyRule.hidesSort, contains_insertName,
    Bool.false_and, Bool.true_and, Bool.or_false]

theorem alias?_add_of_not_names {rule : PropertyRule} {name : String} (other : ¬ rule.Names name)
    (mapping : Mapping) : (mapping.add rule).alias? name = mapping.alias? name := by
  obtain ⟨property, rule⟩ := rule
  cases rule with
  | mapFrom source convert =>
    have apart : Text.lowercase source ≠ Text.lowercase name :=
      fun same => other ⟨source, convert, rfl, same⟩
    simp [add, alias?, apart]
  | _ => rfl

theorem alias?_add_mapFrom {source name : String}
    (same : Text.lowercase source = Text.lowercase name) (mapping : Mapping) (target : String)
    (convert : Option Converter) :
    (mapping.add ⟨target, .mapFrom source convert⟩).alias? name = some ⟨target, convert⟩ := by
  simp [add, alias?, same]

theorem hooks_add {rule : PropertyRule} (plain : ¬ rule.IsHook) (mapping : Mapping) :
    (mapping.add rule).customFilters = mapping.customFilters ∧
      (mapping.add rule).customSorts = mapping.customSorts := by
  obtain ⟨property, rule⟩ := rule
  cases rule with
  | filterBy | sortBy => exact absurd trivial plain
  | _ => exact ⟨rfl, rfl⟩

/-! ### Many rules -/

/-- What no rule changes is as it was. -/
theorem addAll_eq_of_add {α : Type} {rules : List PropertyRule} (look : Mapping → α)
    (kept : ∀ rule ∈ rules, ∀ mapping : Mapping, look (mapping.add rule) = look mapping)
    (mapping : Mapping) : look (mapping.addAll rules) = look mapping := by
  induction rules generalizing mapping with
  | nil => rfl
  | cons rule rest ih =>
    obtain ⟨here, later⟩ := List.forall_mem_cons.mp kept
    exact (ih later (mapping.add rule)).trans (here mapping)

/-- What each rule adds to is added to by any of them. -/
theorem addAll_eq_or (look : Mapping → Bool) {adds : PropertyRule → Bool}
    (step : ∀ (mapping : Mapping) rule, look (mapping.add rule) = (look mapping || adds rule))
    (mapping : Mapping) (rules : List PropertyRule) :
    look (mapping.addAll rules) = (look mapping || rules.any adds) := by
  induction rules generalizing mapping with
  | nil => simp [addAll]
  | cons rule rest ih =>
    have later : look ((mapping.add rule).addAll rest) = _ := ih (mapping.add rule)
    rw [List.any_cons, ← Bool.or_assoc, ← step]
    exact later

theorem addAll_append (mapping : Mapping) (front back : List PropertyRule) :
    mapping.addAll (front ++ back) = (mapping.addAll front).addAll back :=
  List.foldl_append

theorem addAll_cons (mapping : Mapping) (rule : PropertyRule) (rest : List PropertyRule) :
    mapping.addAll (rule :: rest) = (mapping.add rule).addAll rest :=
  rfl

end Mapping

/-! ### Sections -/

/-- What a section makes of a mapping. Its aliases go before those of the mapping, without a
converter of their own; what it ignores is ignored beside what was ignored; and hooks stay. -/
structure ModelSection.Extends (modelSection : ModelSection) (base result : Mapping) : Prop where
  alias_of_mem : ∀ source target, (source, target) ∈ modelSection.aliases →
    ∀ name, Text.lowercase source = Text.lowercase name →
      result.alias? name = some ⟨target, none⟩
  alias_of_other : ∀ name,
    (∀ entry ∈ modelSection.aliases, Text.lowercase entry.1 ≠ Text.lowercase name) →
      result.alias? name = base.alias? name
  ignoresFilter : ∀ name, result.ignoresFilter name = (base.ignoresFilter name ||
    (modelSection.ignore ++ modelSection.ignoreFilter).any fun property =>
      Text.lowercase property == Text.lowercase name)
  ignoresSort : ∀ name, result.ignoresSort name = (base.ignoresSort name ||
    (modelSection.ignore ++ modelSection.ignoreSort).any fun property =>
      Text.lowercase property == Text.lowercase name)
  customFilter : ∀ name, result.customFilter? name = base.customFilter? name
  customSort : ∀ name, result.customSort? name = base.customSort? name

namespace ModelSection

variable {modelSection : ModelSection}

/-- The rules of a section that are no aliases. -/
def ignoreRules (modelSection : ModelSection) : List PropertyRule :=
  (modelSection.ignore.map fun property => ⟨property, .ignore⟩) ++
    (modelSection.ignoreFilter.map fun property => ⟨property, .ignoreForFiltering⟩) ++
    (modelSection.ignoreSort.map fun property => ⟨property, .ignoreForSorting⟩)

theorem rules_eq (modelSection : ModelSection) :
    modelSection.rules =
      (modelSection.aliases.map fun (source, target) => ⟨target, .mapFrom source none⟩) ++
        modelSection.ignoreRules := by
  simp only [rules, ignoreRules, List.append_assoc]

theorem not_names_of_mem_ignoreRules {rule : PropertyRule}
    (among : rule ∈ modelSection.ignoreRules) (name : String) : ¬ rule.Names name := by
  simp only [ignoreRules, List.mem_append, List.mem_map] at among
  rintro ⟨source, convert, same, -⟩
  obtain (⟨_, -, rfl⟩ | ⟨_, -, rfl⟩) | ⟨_, -, rfl⟩ := among <;> cases same

theorem not_isHook_of_mem_rules {rule : PropertyRule} (among : rule ∈ modelSection.rules) :
    ¬ rule.IsHook := by
  simp only [rules, List.mem_append, List.mem_map] at among
  obtain ((⟨_, -, rfl⟩ | ⟨_, -, rfl⟩) | ⟨_, -, rfl⟩) | ⟨_, -, rfl⟩ := among <;> exact id

/-- Aliases whose sources differ from a name in more than case say nothing of it. -/
theorem not_names_of_mem_aliases {aliases : List (String × String)} {name : String}
    (others : ∀ entry ∈ aliases, Text.lowercase entry.1 ≠ Text.lowercase name)
    {rule : PropertyRule}
    (among : rule ∈ aliases.map fun (source, target) => ⟨target, .mapFrom source none⟩) :
    ¬ rule.Names name := by
  obtain ⟨entry, listed, rfl⟩ := List.mem_map.mp among
  rintro ⟨source, convert, same, lowered⟩
  cases same
  exact others entry listed lowered

theorem any_false {α : Type} (entries : List α) : (entries.any fun _ => false) = false :=
  List.any_eq_false.mpr fun _ _ => Bool.false_ne_true

/-- The rules of a section do what it says, in whatever order its aliases stand, as long as their
sources differ in more than case. -/
theorem extends_addAll
    (distinct : modelSection.aliases.Pairwise fun a b => Text.lowercase a.1 ≠ Text.lowercase b.1)
    (base : Mapping) : modelSection.Extends base (base.addAll modelSection.rules) where
  alias_of_mem source target among name same := by
    obtain ⟨front, back, split⟩ := List.append_of_mem among
    rw [split] at distinct
    have later : ∀ entry ∈ back, Text.lowercase entry.1 ≠ Text.lowercase name := by
      have apart := (List.pairwise_cons.mp (List.pairwise_append.mp distinct).2.1).1
      exact fun entry listed lowered => apart entry listed (same.trans lowered.symm)
    rw [rules_eq, split, List.map_append, List.map_cons, List.append_assoc, Mapping.addAll_append,
      List.cons_append, Mapping.addAll_cons, Mapping.addAll_append]
    rw [Mapping.addAll_eq_of_add (·.alias? name) fun rule among mapping =>
      Mapping.alias?_add_of_not_names (not_names_of_mem_ignoreRules among name) mapping]
    rw [Mapping.addAll_eq_of_add (·.alias? name) fun rule among mapping =>
      Mapping.alias?_add_of_not_names (not_names_of_mem_aliases later among) mapping]
    exact Mapping.alias?_add_mapFrom same _ _ _
  alias_of_other name others := by
    rw [rules_eq, Mapping.addAll_append]
    rw [Mapping.addAll_eq_of_add (·.alias? name) fun rule among mapping =>
      Mapping.alias?_add_of_not_names (not_names_of_mem_ignoreRules among name) mapping]
    rw [Mapping.addAll_eq_of_add (·.alias? name) fun rule among mapping =>
      Mapping.alias?_add_of_not_names (not_names_of_mem_aliases others among) mapping]
  ignoresFilter name := by
    rw [Mapping.addAll_eq_or (·.ignoresFilter name) fun mapping rule =>
      mapping.ignoresFilter_add rule name]
    simp [rules, PropertyRule.hidesFilter, Function.comp_def, any_false]
  ignoresSort name := by
    rw [Mapping.addAll_eq_or (·.ignoresSort name) fun mapping rule =>
      mapping.ignoresSort_add rule name]
    simp [rules, PropertyRule.hidesSort, Function.comp_def, any_false]
  customFilter name := by
    rw [Mapping.customFilter?, Mapping.addAll_eq_of_add (·.customFilters) fun rule among mapping =>
      (Mapping.hooks_add (not_isHook_of_mem_rules among) mapping).1]
    rfl
  customSort name := by
    rw [Mapping.customSort?, Mapping.addAll_eq_of_add (·.customSorts) fun rule among mapping =>
      (Mapping.hooks_add (not_isHook_of_mem_rules among) mapping).2]
    rfl

end ModelSection

end ListQuery
