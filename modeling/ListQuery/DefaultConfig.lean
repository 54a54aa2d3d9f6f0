import ListQuery.Query

/-! The default configuration of a program: installed at most once, and fixed to the empty one
by the first use before that. -/

namespace ListQuery

/-- The default configuration, absent as long as nothing has fixed it. -/
structure DefaultConfig (M : Type) where
  fixed : Option (Config M) := none

namespace DefaultConfig

variable {M : Type}

/-- Installs a configuration. Once one is fixed, another is given back. -/
def install (state : DefaultConfig M) (config : Config M) :
    Except (Config M) (DefaultConfig M) :=
  match state.fixed with
  | none => .ok ⟨some config⟩
  | some _ => .error config

/-- The configuration in use, which is fixed from then on. -/
def read (state : DefaultConfig M) : Config M × DefaultConfig M :=
  let config := state.fixed.getD {}
  (config, ⟨some config⟩)

variable [Schema M] [DecidableEq M] {α : Type} [Record α]

/-- Runs a query under the configuration in use. -/
def run (state : DefaultConfig M) (model : M) (paging : Bool) (query : Query) (rows : List α) :
    Traced QueryError (List α) × DefaultConfig M :=
  (query.run state.read.1 model paging rows, state.read.2)

end DefaultConfig

end ListQuery
