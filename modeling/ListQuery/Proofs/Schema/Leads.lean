import ListQuery.Resolve

/-! Paths along declared fields. A path leads from a model through fields that are records to a
last field, which a model owns. Whatever a request calls a property, what it stands for is such a
path, and the mappings that speak of it are those of the model at its start and of the owner at its
end. -/

namespace ListQuery

namespace Schema

variable {M : Type} [Schema M]

/-- The declared field of exactly this name. -/
def declared? (model : M) (name : String) : Option (Field M) :=
  (fields model).find? fun field => field.name == name

/-- A path leads along declared fields to the field of its last name. Only records are walked
through. -/
inductive Leads : M → FieldPath → M → Field M → Prop where
  | last {model : M} {name : String} {field : Field M}
      (declared : declared? model name = some field) : Leads model [name] model field
  | through {model next owner : M} {name : String} {path : FieldPath} {field last : Field M}
      (declared : declared? model name = some field) (record : field.type = .record next)
      (later : Leads next path owner last) : Leads model (name :: path) owner last

theorem name_of_declared {model : M} {name : String} {field : Field M}
    (declared : declared? model name = some field) : field.name = name := by
  have named := List.find?_some declared
  exact eq_of_beq named

/-- The field that is found without regard to case is the one of its own name. -/
theorem declared?_of_field? {model : M} {name : String} {field : Field M}
    (found : field? model name = some field) : declared? model field.name = some field := by
  obtain ⟨agrees, before, after, split, others⟩ := List.find?_eq_some_iff_append.mp found
  refine List.find?_eq_some_iff_append.mpr ⟨beq_self_eq_true _, before, after, split, ?_⟩
  intro other earlier
  cases same : other.name == field.name with
  | false => rfl
  | true =>
    have different := others other earlier
    rw [eq_of_beq same, agrees] at different
    cases different

namespace Leads

variable {model owner : M} {path : FieldPath} {last : Field M}

theorem ne_nil (leads : Leads model path owner last) : path ≠ [] := by
  cases leads <;> exact List.cons_ne_nil _ _

/-- A path ends with the name of the field that it leads to. -/
theorem getLast? (leads : Leads model path owner last) : path.getLast? = some last.name := by
  induction leads with
  | last declared => rw [name_of_declared declared, List.getLast?_singleton]
  | through _ _ later ih =>
    obtain ⟨name, rest, rfl⟩ := List.exists_cons_of_ne_nil later.ne_nil
    rw [List.getLast?_cons_cons, ih]

/-- A path to a record goes on with a path from its model. -/
theorem append {next owner' : M} {path' : FieldPath} {last' : Field M}
    (leads : Leads model path owner last) (record : last.type = .record next)
    (later : Leads next path' owner' last') : Leads model (path ++ path') owner' last' := by
  induction leads with
  | last declared => exact .through declared record later
  | through declared record' _ ih => exact .through declared record' (ih record)

end Leads

end Schema

open Schema (Leads declared?_of_field?)

namespace Resolve

variable {M : Type} [Schema M]

theorem leads_of_walkFields {model : M} {names : List String} {walk : Walk M}
    (walked : walkFields model names = some walk) :
    ∃ last, Leads model walk.names walk.owner last ∧ last.type = walk.type := by
  induction names generalizing model walk with
  | nil => cases walked
  | cons name rest ih =>
    rw [walkFields] at walked
    split at walked
    · cases walked
    · rename_i field found
      split at walked
      · cases walked
        exact ⟨field, .last (declared?_of_field? found), rfl⟩
      · split at walked
        · rename_i next record
          obtain ⟨later, walkedOn, rfl⟩ := Option.map_eq_some_iff.mp walked
          obtain ⟨last, leads, type⟩ := ih walkedOn
          exact ⟨last, .through (declared?_of_field? found) record leads, type⟩
        · cases walked

variable [DecidableEq M] {config : Config M}

/-- The converter of a segment is that of the alias that it is. -/
def FromAlias (config : Config M) (convert : Option Converter) : Prop :=
  convert = none ∨ ∃ model segment known,
    (config.mapping model).alias? segment = some known ∧ convert = known.convert

theorem leads_of_walkSegment {model : M} {segment : String} {walk : Walk M}
    {convert : Option Converter}
    (walked : walkSegment config model segment = some (walk, convert)) :
    (∃ last, Leads model walk.names walk.owner last ∧ last.type = walk.type) ∧
      FromAlias config convert := by
  rw [walkSegment] at walked
  split at walked
  · rename_i known named
    obtain ⟨walk, fields, same⟩ := Option.map_eq_some_iff.mp walked
    cases same
    exact ⟨leads_of_walkFields fields, Or.inr ⟨model, segment, known, named, rfl⟩⟩
  · obtain ⟨walk, fields, same⟩ := Option.map_eq_some_iff.mp walked
    cases same
    exact ⟨leads_of_walkFields fields, Or.inl rfl⟩

theorem leads_of_walkSegments {model : M} {segments : List String} {walk : Walk M}
    {convert : Option Converter}
    (walked : walkSegments config model segments = some (walk, convert)) :
    (∃ last, Leads model walk.names walk.owner last ∧ last.type = walk.type) ∧
      FromAlias config convert := by
  induction segments generalizing model walk convert with
  | nil => cases walked
  | cons segment rest ih =>
    rw [walkSegments] at walked
    split at walked
    · cases walked
    · rename_i first firstConvert found
      obtain ⟨⟨field, leads, type⟩, aliased⟩ := leads_of_walkSegment found
      split at walked
      · cases walked
        exact ⟨⟨field, leads, type⟩, aliased⟩
      · split at walked
        · rename_i next record
          obtain ⟨⟨later, laterConvert⟩, walkedOn, same⟩ := Option.map_eq_some_iff.mp walked
          cases same
          obtain ⟨⟨last, leadsOn, lastType⟩, lastAliased⟩ := ih walkedOn
          exact ⟨⟨last, leads.append (type.trans record) leadsOn, lastType⟩, lastAliased⟩
        · cases walked

end Resolve

variable {M : Type} [Schema M] [DecidableEq M]

/-- A property that is found stands for a declared field: the path leads to it from the root, and
what is said of it is said by the root under the whole path or by the owner under its name. -/
structure Resolved.StandsFor (config : Config M) (root : M) (resolved : Resolved M) (owner : M)
    (field : Field M) : Prop where
  leads : Leads root resolved.path owner field
  type : resolved.type = field.type
  convert : Resolve.FromAlias config resolved.convert
  filterIgnored : resolved.filterIgnored =
    ((config.mapping root).ignoresFilter resolved.path.dotted ||
      (config.mapping owner).ignoresFilter field.name)
  sortIgnored : resolved.sortIgnored =
    ((config.mapping root).ignoresSort resolved.path.dotted ||
      (config.mapping owner).ignoresSort field.name)
  customFilter : resolved.customFilter =
    ((config.mapping root).customFilter? resolved.path.dotted).or
      ((config.mapping owner).customFilter? field.name)
  customSort : resolved.customSort =
    ((config.mapping root).customSort? resolved.path.dotted).or
      ((config.mapping owner).customSort? field.name)

/-- Whatever a property is called, it stands for a declared field. -/
theorem standsFor_of_resolve {config : Config M} {root : M} {property : String}
    {resolved : Resolved M} (found : resolve config root property = some resolved) :
    ∃ owner field, resolved.StandsFor config root owner field := by
  rw [resolve] at found
  split at found
  · cases found
  · obtain ⟨⟨walk, convert⟩, walked, rfl⟩ := Option.map_eq_some_iff.mp found
    obtain ⟨⟨field, leads, type⟩, aliased⟩ := Resolve.leads_of_walkSegments walked
    have name : (walk.names.getLast?).getD "" = field.name := by
      rw [leads.getLast?, Option.getD_some]
    refine ⟨walk.owner, field, leads, type.symm, aliased, ?_, ?_, ?_, ?_⟩ <;>
      simp only [Resolve.annotate, name]

end ListQuery
