import ListQuery.Proofs.Filter.Parsing

/-! What can be wrong with a filter text by itself. The lexer and the parser report lexical and
grammatical faults and nothing else, whatever the limits on levels and groups. -/

namespace ListQuery

/-- An error of a text by itself, before any property is looked up. -/
def QueryError.IsFault : QueryError → Prop
  | .lexical .. | .grammar .. => True
  | _ => False

/-- A result that is an error only of a kind. -/
def FailsOnly {α : Type} (kind : QueryError → Prop) (result : Except QueryError α) : Prop :=
  ∀ error, result = .error error → kind error

section FailsOnly
variable {α : Type} {kind : QueryError → Prop}

theorem failsOnly_ok (a : α) : FailsOnly kind (.ok a) :=
  nofun

theorem failsOnly_error {error : QueryError} (such : kind error) :
    FailsOnly kind (.error error : Except QueryError α) := by
  rintro _ ⟨⟩
  exact such

theorem FailsOnly.mono {other : QueryError → Prop} {result : Except QueryError α}
    (fails : FailsOnly kind result) (more : ∀ error, kind error → other error) :
    FailsOnly other result :=
  fun error failed => more error (fails error failed)

theorem FailsOnly.map {β : Type} {result : Except QueryError α} (fails : FailsOnly kind result)
    (change : α → β) : FailsOnly kind (result.map change) := by
  cases result with
  | ok a => exact failsOnly_ok _
  | error error => exact failsOnly_error (fails error rfl)

end FailsOnly

namespace Filter

namespace Grammar

theorem refuse_failsOnly {α : Type} (expected : Expected) (tokens : List Token) :
    FailsOnly QueryError.IsFault (refuse expected tokens : Except QueryError α) := by
  cases tokens <;> exact failsOnly_error trivial

theorem values_failsOnly (tokens : List Token) : FailsOnly QueryError.IsFault (values tokens) := by
  fun_induction values tokens with
  | case1 => exact refuse_failsOnly _ _
  | case2 => exact refuse_failsOnly _ _
  | case3 => exact failsOnly_ok _
  | case4 => exact failsOnly_ok _
  | case5 token value found comma rest separates error failed ih =>
    exact failsOnly_error (ih error failed)
  | case6 => exact failsOnly_ok _

theorem clause_failsOnly (property : String) (tokens : List Token) :
    FailsOnly QueryError.IsFault (clause property tokens) := by
  unfold clause
  split
  · exact refuse_failsOnly _ _
  · split
    · split
      · exact failsOnly_ok _
      · rename_i error failed
        exact failsOnly_error (values_failsOnly _ error failed)
    · exact failsOnly_error trivial
    · exact refuse_failsOnly _ _

section Inner
variable {inner : Option (Parser Filter)}

theorem group_failsOnly (within : ∀ parser ∈ inner, ∀ tokens,
      FailsOnly QueryError.IsFault (parser.run tokens)) (tokens : List Token) :
    FailsOnly QueryError.IsFault (group inner tokens) := by
  unfold group
  split
  · exact refuse_failsOnly _ _
  · split
    · split
      · exact failsOnly_error trivial
      · rename_i parser
        split
        · rename_i error failed
          exact failsOnly_error (within parser rfl _ error failed)
        · exact failsOnly_error trivial
        · split
          · exact failsOnly_ok _
          · exact failsOnly_error trivial
    · exact refuse_failsOnly _ _

theorem quantified_failsOnly {result : Except QueryError (Filter × List Token)}
    (fails : FailsOnly QueryError.IsFault result) (levels : Nat) (property : String)
    (position : Nat) (quantifier : Quantifier) :
    FailsOnly QueryError.IsFault (quantified levels property position quantifier result) := by
  unfold quantified
  split
  · exact failsOnly_error (fails _ rfl)
  · split
    · exact failsOnly_ok _
    · exact failsOnly_error trivial

theorem positive_failsOnly (within : ∀ parser ∈ inner, ∀ tokens,
      FailsOnly QueryError.IsFault (parser.run tokens)) (levels : Nat) (tokens : List Token) :
    FailsOnly QueryError.IsFault (positive levels inner tokens) := by
  unfold positive
  split
  · exact refuse_failsOnly _ _
  · split
    · exact group_failsOnly within _
    · unfold afterProperty
      split
      · exact clause_failsOnly _ _
      · split
        · split
          · exact quantified_failsOnly (clause_failsOnly _ _) _ _ _ _
          · exact quantified_failsOnly (group_failsOnly within _) _ _ _ _
        · exact quantified_failsOnly (group_failsOnly within _) _ _ _ _
        · exact quantified_failsOnly (group_failsOnly within _) _ _ _ _
        · exact clause_failsOnly _ _
    · exact refuse_failsOnly _ _

theorem term_failsOnly (within : ∀ parser ∈ inner, ∀ tokens,
      FailsOnly QueryError.IsFault (parser.run tokens)) (levels : Nat) (tokens : List Token) :
    FailsOnly QueryError.IsFault ((term levels inner).run tokens) := by
  simp only [term]
  split
  · exact failsOnly_ok _
  · rename_i error failed
    exact failsOnly_error (positive_failsOnly within _ _ error failed)

end Inner

section Operand
variable {operand : Parser Filter}

theorem joinFrom_failsOnly (fails : ∀ tokens, FailsOnly QueryError.IsFault (operand.run tokens))
    (levels : Nat) (joins : TokenKind) (join : Filter → Filter → Bool → Filter) (left : Filter)
    (tokens : List Token) :
    FailsOnly QueryError.IsFault (joinFrom levels joins join operand left tokens) := by
  fun_induction joinFrom levels joins join operand left tokens with
  | case1 => exact failsOnly_ok _
  | case2 left token rest joining error failed => exact failsOnly_error (fails _ error failed)
  | case3 left token rest joining right after found low ih => exact ih
  | case4 => exact failsOnly_error trivial
  | case5 => exact failsOnly_ok _

theorem joined_failsOnly (fails : ∀ tokens, FailsOnly QueryError.IsFault (operand.run tokens))
    (levels : Nat) (joins : TokenKind) (join : Filter → Filter → Bool → Filter)
    (tokens : List Token) :
    FailsOnly QueryError.IsFault ((joined levels joins join operand).run tokens) := by
  simp only [joined]
  split
  · rename_i error failed
    exact failsOnly_error (fails _ error failed)
  · exact joinFrom_failsOnly fails _ _ _ _ _

end Operand

theorem disjunction_failsOnly (levels groups : Nat) (tokens : List Token) :
    FailsOnly QueryError.IsFault ((disjunction levels groups).run tokens) := by
  induction groups generalizing tokens with
  | zero =>
    refine joined_failsOnly (joined_failsOnly (term_failsOnly ?_ _) _ _ _) _ _ _ _
    exact nofun
  | succ groups ih =>
    refine joined_failsOnly (joined_failsOnly (term_failsOnly ?_ _) _ _ _) _ _ _ _
    rintro _ ⟨⟩
    exact ih

end Grammar

theorem ofTokens_failsOnly (tokens : List Token) :
    FailsOnly QueryError.IsFault (ofTokens tokens) := by
  unfold ofTokens
  split
  · rename_i error failed
    exact failsOnly_error (Grammar.disjunction_failsOnly _ _ _ error failed)
  · exact failsOnly_ok _
  · exact failsOnly_error trivial

theorem legal_failsOnly (tokens : List Token) : FailsOnly QueryError.IsFault (legal tokens) := by
  rw [legal_eq]
  split
  · exact failsOnly_ok _
  · rename_i error found
    obtain ⟨token, -, same⟩ := List.exists_of_findSome?_eq_some found
    obtain ⟨fault, -, rfl⟩ := Option.map_eq_some_iff.mp same
    exact failsOnly_error trivial

/-- What is wrong with a text by itself is a fault of its characters or of its grammar. -/
theorem parse_failsOnly (text : String) : FailsOnly QueryError.IsFault (parse text) := by
  unfold parse
  split
  · exact failsOnly_ok _
  · split
    · rename_i error failed
      exact failsOnly_error (legal_failsOnly _ error failed)
    · exact (ofTokens_failsOnly _).map some

end Filter

end ListQuery
