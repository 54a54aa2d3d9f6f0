import ListQuery.Mapping
import ListQuery.Text.Split

/-! Configurations: the mappings of all models, and what becomes of unknown properties. -/

namespace ListQuery

/-- The mappings of the models that have one. A strict configuration refuses what a lenient one
passes over. -/
structure Config (M : Type) where
  strict : Bool := false
  mappings : Association M Mapping := []

namespace Config

variable {M : Type} [DecidableEq M]

/-- The mapping of a model; without one it is empty. -/
def mapping (config : Config M) (model : M) : Mapping :=
  (config.mappings.get? model).getD {}

/-- Whether a model has a mapping. -/
def isRegistered (config : Config M) (model : M) : Bool :=
  (config.mappings.get? model).isSome

/-- The configuration with the mapping of a model taken away. -/
def clear (config : Config M) (model : M) : Config M :=
  { config with mappings := config.mappings.erase model }

/-- The warnings about rules whose first name is no field of the model. -/
def warnings [Schema M] (model : M) (rules : List PropertyRule) : List Event :=
  rules.filterMap fun rule =>
    let first := ((Text.splitAt '.' rule.property).head?).getD rule.property
    if (Schema.field? model first).isSome then none
    else some (.undeclaredRule rule.property (Schema.name model))

/-- The configuration with more rules for a model. Without a rule the model still gets a
mapping. -/
def configure [Schema M] (config : Config M) (model : M) (rules : List PropertyRule) :
    List Event × Config M :=
  (warnings model rules,
    { config with mappings := config.mappings.put model ((config.mapping model).addAll rules) })

end Config

end ListQuery
