import ListQuery.Proofs.Filter.Spans
import ListQuery.Proofs.Text.Case

/-! Filters in small letters. The parser looks at the names among its tokens only to read the words
for values, in any case of letters, and to hand them on as properties. So tokens with small names
have the same filter but for the names of its properties, or the same fault at the same place. -/

namespace ListQuery

open ListQuery.Filter

/-! ### Names made small -/

namespace Filter

/-- The kind with its name in small letters, if it has one. -/
def TokenKind.lowered : TokenKind → TokenKind
  | identifier name => identifier (Text.lowered name)
  | kind => kind

/-- The token with its name in small letters. -/
def Token.lowered (token : Token) : Token :=
  { token with kind := token.kind.lowered }

@[simp] theorem Token.kind_lowered (token : Token) :
    token.lowered.kind = token.kind.lowered :=
  rfl

/-- The filter with its properties in small letters. -/
def lowered : Filter → Filter
  | clause property operator values negated caseInsensitive =>
    clause (Text.lowered property) operator values negated caseInsensitive
  | collection property inner quantifier negated =>
    collection (Text.lowered property) inner.lowered quantifier negated
  | and left right negated => and left.lowered right.lowered negated
  | or left right negated => or left.lowered right.lowered negated

theorem lowered_toggled (f : Filter) (change : Bool) :
    (f.toggled change).lowered = f.lowered.toggled change := by
  cases f <;> rfl

@[simp] theorem height_lowered (f : Filter) : f.lowered.height = f.height := by
  induction f with
  | clause => rfl
  | collection property inner quantifier negated ih => exact congrArg (· + 1) ih
  | and left right negated first second | or left right negated first second =>
    rw [lowered, height, height, first, second]

end Filter

/-- The fault with the name of its token in small letters. -/
def GrammarFault.lowered : GrammarFault → GrammarFault
  | found expected kind => found expected kind.lowered
  | leftOver kind => leftOver kind.lowered
  | fault => fault

/-- The error with the property that it names in small letters. -/
def QueryError.lowered : QueryError → QueryError
  | grammar fault position => grammar fault.lowered position
  | unresolvedFilter property => unresolvedFilter (Text.lowered property)
  | unresolvedOrdering property => unresolvedOrdering (Text.lowered property)
  | conversion property value typeName fault =>
    conversion (Text.lowered property) value typeName fault
  | notACollection property => notACollection (Text.lowered property)
  | unsupportedOperator property operator reason =>
    unsupportedOperator (Text.lowered property) operator reason
  | valueCount property operator count => valueCount (Text.lowered property) operator count
  | error => error

namespace Filter

/-! ### The parser -/

namespace Grammar

/-- What a parser function comes to, in small letters. -/
def loweredResult {α : Type} (lower : α → α) :
    Except QueryError (α × List Token) → Except QueryError (α × List Token)
  | .ok (result, rest) => .ok (lower result, rest.map Token.lowered)
  | .error error => .error error.lowered

/-- A parser that does the same in small letters. -/
def Lowers (parser : Parser Filter) : Prop :=
  ∀ tokens, parser.run (tokens.map Token.lowered) =
    loweredResult Filter.lowered (parser.run tokens)

/-- Making a name small makes it no other kind of token. -/
theorem lowered_kind_eq_iff {kind other : TokenKind} (plain : other.lexeme? = none) :
    kind.lowered = other ↔ kind = other := by
  cases kind with
  | identifier name => constructor <;> (rintro rfl; cases plain)
  | _ => rfl

theorem refuse_lowered {α : Type} (lower : α → α) (expected : Expected) (tokens : List Token) :
    refuse expected (tokens.map Token.lowered) = loweredResult lower (refuse expected tokens) := by
  cases tokens <;> rfl

theorem negations_lowered (tokens : List Token) :
    negations (tokens.map Token.lowered) =
      ((negations tokens).1, (negations tokens).2.map Token.lowered) := by
  induction tokens with
  | nil => rfl
  | cons token rest ih =>
    have same : token.lowered.kind = .exclamation ↔ token.kind = .exclamation :=
      lowered_kind_eq_iff rfl
    rw [List.map_cons, negations, negations, ih]
    simp only [same]
    split <;> rfl

/-- The words for values are read in any case. -/
theorem literal?_lowered (kind : TokenKind) : literal? kind.lowered = literal? kind := by
  cases kind with
  | identifier name =>
    simp only [TokenKind.lowered, literal?,
      Text.sameIgnoringCase_congr (Text.sameIgnoringCase_lowered name)]
  | _ => rfl

theorem values_lowered (tokens : List Token) :
    values (tokens.map Token.lowered) = loweredResult id (values tokens) := by
  fun_induction values tokens with
  | case1 => exact refuse_lowered id .value []
  | case2 token rest none =>
    rw [← refuse_lowered id .value (token :: rest), List.map_cons, values]
    simp only [Token.kind_lowered, literal?_lowered, none]
  | case3 token value literal =>
    rw [List.map_cons, values]
    simp only [Token.kind_lowered, literal?_lowered, literal]
    rfl
  | case4 token value literal comma rest separates later after found ih =>
    have separates : comma.kind.lowered = .comma := (lowered_kind_eq_iff rfl).mpr separates
    rw [found] at ih
    rw [List.map_cons, List.map_cons, values]
    simp only [Token.kind_lowered, literal?_lowered, literal, separates, if_true, ih]
    rfl
  | case5 token value literal comma rest separates error failed ih =>
    have separates : comma.kind.lowered = .comma := (lowered_kind_eq_iff rfl).mpr separates
    rw [failed] at ih
    rw [List.map_cons, List.map_cons, values]
    simp only [Token.kind_lowered, literal?_lowered, literal, separates, if_true, ih]
    rfl
  | case6 token value literal comma rest other =>
    have other : comma.kind.lowered ≠ .comma := mt (lowered_kind_eq_iff rfl).mp other
    rw [List.map_cons, List.map_cons, values]
    simp only [Token.kind_lowered, literal?_lowered, literal]
    exact if_neg other

theorem star_lowered (tokens : List Token) :
    star (tokens.map Token.lowered) = ((star tokens).1, (star tokens).2.map Token.lowered) := by
  cases tokens with
  | nil => rfl
  | cons token rest =>
    have same : token.lowered.kind = .asterisk ↔ token.kind = .asterisk :=
      lowered_kind_eq_iff rfl
    rw [List.map_cons, star, star]
    simp only [same]
    split <;> rfl

theorem clause_lowered (property : String) (tokens : List Token) :
    clause (Text.lowered property) (tokens.map Token.lowered) =
      loweredResult Filter.lowered (clause property tokens) := by
  cases tokens with
  | nil => exact refuse_lowered _ _ []
  | cons token rest =>
    obtain ⟨kind, start, stop⟩ := token
    cases kind with
    | operator op =>
      rw [List.map_cons, clause, clause]
      simp only [Token.lowered, TokenKind.lowered, star_lowered, values_lowered]
      cases values (star rest).2 <;> rfl
    | _ => rfl

section Inner
variable {inner : Option (Parser Filter)}

theorem group_lowered (within : ∀ parser ∈ inner, Lowers parser) (tokens : List Token) :
    group inner (tokens.map Token.lowered) =
      loweredResult Filter.lowered (group inner tokens) := by
  unfold group
  rw [negations_lowered]
  cases left : (negations tokens).2 with
  | nil => exact refuse_lowered _ _ []
  | cons token rest =>
    have opens : token.lowered.kind = .opening ↔ token.kind = .opening :=
      lowered_kind_eq_iff rfl
    simp only [List.map_cons, opens]
    split
    · cases inner with
      | none => rfl
      | some parser =>
        simp only [within parser rfl rest]
        rcases parser.run rest with error | ⟨f, _ | ⟨close, after⟩⟩
        · rfl
        · rfl
        · have closes : close.lowered.kind = .closing ↔ close.kind = .closing :=
            lowered_kind_eq_iff rfl
          simp only [loweredResult, List.map_cons, closes]
          split
          · rw [← lowered_toggled]
          · rfl
    · exact refuse_lowered _ _ (token :: rest)

theorem quantified_lowered (levels : Nat) (property : String) (position : Nat)
    (quantifier : Quantifier) (result : Except QueryError (Filter × List Token)) :
    quantified levels (Text.lowered property) position quantifier
        (loweredResult Filter.lowered result) =
      loweredResult Filter.lowered (quantified levels property position quantifier result) := by
  rcases result with error | ⟨f, rest⟩
  · rfl
  · simp only [loweredResult, quantified, height_lowered]
    split <;> rfl

theorem isOperator_lowered (kind : TokenKind) : kind.lowered.isOperator = kind.isOperator := by
  cases kind <;> rfl

theorem afterProperty_lowered (within : ∀ parser ∈ inner, Lowers parser) (levels : Nat)
    (property : String) (position : Nat) (tokens : List Token) :
    afterProperty levels inner (Text.lowered property) position (tokens.map Token.lowered) =
      loweredResult Filter.lowered (afterProperty levels inner property position tokens) := by
  cases tokens with
  | nil => exact clause_lowered property []
  | cons token rest =>
    have plain := clause_lowered property (token :: rest)
    have grouped := group_lowered within (token :: rest)
    obtain ⟨kind, start, stop⟩ := token
    cases kind with
    | asterisk =>
      have operator : ((rest.map Token.lowered).head?.map fun token => token.kind.isOperator) =
          rest.head?.map fun token => token.kind.isOperator := by
        cases rest with
        | nil => rfl
        | cons next later => exact congrArg some (isOperator_lowered next.kind)
      rw [List.map_cons, afterProperty, afterProperty]
      simp only [Token.kind_lowered, TokenKind.lowered, operator]
      split
      · rw [← quantified_lowered, ← clause_lowered]
        rfl
      · rw [← quantified_lowered, ← group_lowered within]
    | opening | exclamation =>
      rw [List.map_cons, afterProperty, afterProperty]
      simp only [Token.kind_lowered, TokenKind.lowered]
      rw [← quantified_lowered, ← grouped]
      rfl
    | _ => exact plain

theorem positive_lowered (within : ∀ parser ∈ inner, Lowers parser) (levels : Nat)
    (tokens : List Token) :
    positive levels inner (tokens.map Token.lowered) =
      loweredResult Filter.lowered (positive levels inner tokens) := by
  cases tokens with
  | nil => exact refuse_lowered _ _ []
  | cons token rest =>
    have grouped := group_lowered within (token :: rest)
    have refused := refuse_lowered Filter.lowered .propertyOrGroup (token :: rest)
    obtain ⟨kind, start, stop⟩ := token
    cases kind with
    | opening => exact grouped
    | identifier property => exact afterProperty_lowered within levels property start rest
    | _ => exact refused

theorem term_lowered (within : ∀ parser ∈ inner, Lowers parser) (levels : Nat) :
    Lowers (term levels inner) := by
  intro tokens
  simp only [term, negations_lowered, positive_lowered within]
  rcases positive levels inner (negations tokens).2 with error | ⟨f, rest⟩
  · rfl
  · exact congrArg (fun f => Except.ok (f, rest.map Token.lowered)) (lowered_toggled f _).symm

end Inner

section Join
variable {operand : Parser Filter} {joins : TokenKind} {join : Filter → Filter → Bool → Filter}

theorem joinFrom_cons (levels : Nat) (left : Filter) (token : Token) (rest : List Token) :
    joinFrom levels joins join operand left (token :: rest) =
      if token.kind = joins then
        match operand.run rest with
        | .error error => .error error
        | .ok (right, after) =>
          if max left.height right.height < levels then
            joinFrom levels joins join operand (join left right false) after
          else .error (.grammar (.tooManyLevels levels) (some token.start))
      else .ok (left, token :: rest) := by
  rw [joinFrom]
  split
  · cases operand.run rest <;> rfl
  · rfl

theorem joinFrom_lowered (lowers : Lowers operand) (plain : joins.lexeme? = none)
    (through : ∀ left right, (join left right false).lowered =
      join left.lowered right.lowered false)
    (levels : Nat) (left : Filter) (tokens : List Token) :
    joinFrom levels joins join operand left.lowered (tokens.map Token.lowered) =
      loweredResult Filter.lowered (joinFrom levels joins join operand left tokens) := by
  have same (token : Token) : token.lowered.kind = joins ↔ token.kind = joins :=
    lowered_kind_eq_iff plain
  fun_induction joinFrom levels joins join operand left tokens with
  | case1 left =>
    rw [List.map_nil, joinFrom]
    rfl
  | case2 left token rest joining error failed =>
    rw [List.map_cons, joinFrom_cons, if_pos ((same token).mpr joining), lowers, failed]
    rfl
  | case3 left token rest joining right after found fits ih =>
    rw [List.map_cons, joinFrom_cons, if_pos ((same token).mpr joining), lowers, found, ← ih,
      through]
    simp only [loweredResult, height_lowered, if_pos fits]
  | case4 left token rest joining right after found tooMany =>
    rw [List.map_cons, joinFrom_cons, if_pos ((same token).mpr joining), lowers, found]
    simp only [loweredResult, height_lowered, if_neg tooMany]
    rfl
  | case5 left token rest other =>
    rw [List.map_cons, joinFrom_cons, if_neg (mt (same token).mp other)]
    rfl

theorem joined_lowered (lowers : Lowers operand) (plain : joins.lexeme? = none)
    (through : ∀ left right, (join left right false).lowered =
      join left.lowered right.lowered false) (levels : Nat) :
    Lowers (joined levels joins join operand) := by
  intro tokens
  simp only [joined, lowers tokens]
  rcases operand.run tokens with error | ⟨first, rest⟩
  · rfl
  · exact joinFrom_lowered lowers plain through levels first rest

end Join

theorem disjunction_lowered (levels groups : Nat) : Lowers (disjunction levels groups) := by
  have around {inner : Option (Parser Filter)} (within : ∀ parser ∈ inner, Lowers parser) :
      Lowers (joined levels .or .or (joined levels .and .and (term levels inner))) :=
    joined_lowered (joined_lowered (term_lowered within levels) rfl (fun _ _ => rfl) levels)
      rfl (fun _ _ => rfl) levels
  induction groups with
  | zero => exact around nofun
  | succ groups ih =>
    refine around ?_
    rintro parser ⟨⟩
    exact ih

end Grammar

open Grammar

/-- The filter of tokens with small names is the filter with small names. -/
theorem ofTokens_lowered (tokens : List Token) :
    ofTokens (tokens.map Token.lowered) =
      ((ofTokens tokens).map lowered).mapError QueryError.lowered := by
  rw [ofTokens, ofTokens, disjunction_lowered]
  rcases (disjunction maxDepth maxDepth).run tokens with error | ⟨f, _ | ⟨token, rest⟩⟩
  · rfl
  · rfl
  · have closes : token.lowered.kind = .closing ↔ token.kind = .closing :=
      lowered_kind_eq_iff rfl
    simp only [loweredResult, List.map_cons, closes]
    split <;> rfl

theorem legal_lowered (tokens : List Token) :
    legal (tokens.map Token.lowered) =
      ((legal tokens).map (List.map Token.lowered)).mapError QueryError.lowered := by
  induction tokens with
  | nil => rfl
  | cons token rest ih =>
    obtain ⟨kind, start, stop⟩ := token
    rw [List.map_cons, legal_cons, legal_cons, ih]
    cases kind with
    | illegal c | unterminated => rfl
    | _ => cases legal rest <;> rfl

end Filter

end ListQuery
