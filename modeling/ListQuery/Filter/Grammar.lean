import ListQuery.Error
import ListQuery.Filter.Lexer
import ListQuery.Filter.Tree
import ListQuery.Text.Quoted

/-! Tokens as filters.

    disjunction := conjunction (or conjunction)*
    conjunction := term (and term)*
    term        := '!'* (group | property clause)
    group       := '!'* '(' disjunction ')'
    clause      := '*' operator '*'? values | '*'? group | operator '*'? values
    values      := value (',' value)*

Both joins associate to the left. Each exclamation mark changes the negation of the node after
it. The height of a tree and the number of open groups are limited. -/

namespace ListQuery.Filter

/-- The greatest height of a filter, and the greatest number of open groups. -/
def maxDepth : Nat := 100

namespace Grammar

/-- A step from tokens to a result and the tokens after it. It takes at least one token. -/
structure Parser (α : Type) where
  run : List Token → Except QueryError (α × List Token)
  progress : ∀ {tokens result rest}, run tokens = .ok (result, rest) → rest.length < tokens.length

/-- The first token is not what is asked for, or there is none. -/
def refuse {α : Type} (expected : Expected) : List Token → Except QueryError α
  | [] => .error (.grammar (.ended expected) none)
  | token :: _ => .error (.grammar (.found expected token.kind) (some token.start))

theorem refuse_ne_ok {α : Type} {expected : Expected} {tokens : List Token} {result : α} :
    refuse expected tokens ≠ .ok result := by
  cases tokens <;> simp [refuse]

/-- A run of exclamation marks: whether it negates, and the tokens after it. -/
def negations : List Token → Bool × List Token
  | [] => (false, [])
  | token :: rest =>
    if token.kind = .exclamation then ((negations rest).1 ^^ true, (negations rest).2)
    else (false, token :: rest)

theorem negations_length (tokens : List Token) : (negations tokens).2.length ≤ tokens.length := by
  induction tokens with
  | nil => simp [negations]
  | cons token rest ih =>
    simp only [negations]
    split
    · exact Nat.le_succ_of_le ih
    · exact Nat.le_refl _

/-- The literal of a token, if it is one. -/
def literal? : TokenKind → Option (Option String)
  | .string inner => some (some (String.ofList (Text.undoubleQuotes inner.toList)))
  | .number numeral => some (some numeral)
  | .identifier name =>
    if Text.sameIgnoringCase name "true" then some (some "true")
    else if Text.sameIgnoringCase name "false" then some (some "false")
    else if Text.sameIgnoringCase name "null" then some none
    else none
  | _ => none

/-- One or more literals between commas. -/
def values : List Token → Except QueryError (List (Option String) × List Token)
  | [] => refuse .value []
  | token :: rest =>
    match literal? token.kind with
    | none => refuse .value (token :: rest)
    | some value =>
      match rest with
      | [] => .ok ([value], [])
      | comma :: rest =>
        if comma.kind = .comma then
          match values rest with
          | .ok (later, rest) => .ok (value :: later, rest)
          | .error error => .error error
        else .ok ([value], comma :: rest)

theorem values_progress {tokens : List Token} {result : List (Option String)} {rest : List Token}
    (parsed : values tokens = .ok (result, rest)) : rest.length < tokens.length := by
  fun_induction values tokens generalizing result with
  | case1 => exact absurd parsed refuse_ne_ok
  | case2 => exact absurd parsed refuse_ne_ok
  | case3 =>
    simp only [Except.ok.injEq, Prod.mk.injEq] at parsed
    simp [← parsed.2]
  | case4 token value _ comma more _ later after found ih =>
    simp only [Except.ok.injEq, Prod.mk.injEq] at parsed
    obtain ⟨-, rfl⟩ := parsed
    have := ih found
    simp only [List.length_cons]
    omega
  | case5 => simp at parsed
  | case6 =>
    simp only [Except.ok.injEq, Prod.mk.injEq] at parsed
    simp [← parsed.2]

/-- An asterisk, if there is one, and the tokens after it. -/
def star : List Token → Bool × List Token
  | [] => (false, [])
  | token :: rest => if token.kind = .asterisk then (true, rest) else (false, token :: rest)

theorem star_length (tokens : List Token) : (star tokens).2.length ≤ tokens.length := by
  cases tokens with
  | nil => simp [star]
  | cons token rest =>
    simp only [star]
    split <;> simp

/-- An operator, an asterisk for comparing without case, and the literals. -/
def clause (property : String) : List Token → Except QueryError (Filter × List Token)
  | [] => refuse .operator []
  | token :: rest =>
    match token.kind with
    | .operator operator =>
      match values (star rest).2 with
      | .ok (values, after) => .ok (.clause property operator values false (star rest).1, after)
      | .error error => .error error
    | .equalsSign => .error (.grammar (.unknownOperator "=") (some token.start))
    | _ => refuse .operator (token :: rest)

theorem clause_progress {property : String} {tokens : List Token} {result : Filter}
    {rest : List Token} (parsed : clause property tokens = .ok (result, rest)) :
    rest.length < tokens.length := by
  unfold clause at parsed
  split at parsed
  · exact absurd parsed refuse_ne_ok
  · rename_i token more
    split at parsed
    · split at parsed
      · rename_i found
        simp only [Except.ok.injEq, Prod.mk.injEq] at parsed
        obtain ⟨-, rfl⟩ := parsed
        have shorter := values_progress found
        have kept := star_length more
        simp only [List.length_cons]
        omega
      · simp at parsed
    · simp at parsed
    · exact absurd parsed refuse_ne_ok

/-- A group: its inner filter between parentheses. Without an inner parser no further group
may be opened. -/
def group (inner : Option (Parser Filter)) (tokens : List Token) :
    Except QueryError (Filter × List Token) :=
  match (negations tokens).2 with
  | [] => refuse .group []
  | token :: rest =>
    if token.kind = .opening then
      match inner with
      | none => .error (.grammar (.tooManyGroups maxDepth) (some token.start))
      | some inner =>
        match inner.run rest with
        | .error error => .error error
        | .ok (_, []) => .error (.grammar (.unmatchedOpening token.start) (some token.start))
        | .ok (filter, close :: rest) =>
          if close.kind = .closing then .ok (filter.toggled (negations tokens).1, rest)
          else .error (.grammar (.unmatchedOpening token.start) (some close.start))
    else refuse .group (token :: rest)

theorem group_progress {inner : Option (Parser Filter)} {tokens : List Token} {result : Filter}
    {rest : List Token} (parsed : group inner tokens = .ok (result, rest)) :
    rest.length < tokens.length := by
  have kept := negations_length tokens
  unfold group at parsed
  split at parsed
  · exact absurd parsed refuse_ne_ok
  · rename_i token more after
    split at parsed
    · split at parsed
      · simp at parsed
      · rename_i parser
        split at parsed
        · simp at parsed
        · simp at parsed
        · rename_i filter close later found
          split at parsed
          · simp only [Except.ok.injEq, Prod.mk.injEq] at parsed
            obtain ⟨-, rfl⟩ := parsed
            have shorter := parser.progress found
            rw [after] at kept
            simp only [List.length_cons] at kept shorter
            omega
          · simp at parsed
    · exact absurd parsed refuse_ne_ok

/-- A filter on the elements of a collection, if its height stays within the limit. -/
def quantified (levels : Nat) (property : String) (position : Nat) (quantifier : Quantifier)
    (inner : Except QueryError (Filter × List Token)) :
    Except QueryError (Filter × List Token) :=
  match inner with
  | .error error => .error error
  | .ok (filter, rest) =>
    if filter.height < levels then .ok (.collection property filter quantifier false, rest)
    else .error (.grammar (.tooManyLevels levels) (some position))

theorem quantified_ok {levels : Nat} {property : String} {position : Nat}
    {quantifier : Quantifier} {inner : Except QueryError (Filter × List Token)} {result : Filter} {rest : List Token}
    (parsed : quantified levels property position quantifier inner = .ok (result, rest)) :
    ∃ filter, inner = .ok (filter, rest) := by
  unfold quantified at parsed
  split at parsed
  · simp at parsed
  · rename_i filter after
    split at parsed
    · simp only [Except.ok.injEq, Prod.mk.injEq] at parsed
      exact ⟨filter, by rw [parsed.2]⟩
    · simp at parsed

/-- What follows a property at a position: a clause, a group for some element, or after an
asterisk a clause or a group for every element. -/
def afterProperty (levels : Nat) (inner : Option (Parser Filter)) (property : String)
    (position : Nat) : List Token → Except QueryError (Filter × List Token)
  | [] => clause property []
  | token :: rest =>
    match token.kind with
    | .asterisk =>
      if (rest.head?.map fun token => token.kind.isOperator).getD false then
        quantified levels property position .all (clause "" rest)
      else quantified levels property position .all (group inner rest)
    | .opening | .exclamation => quantified levels property position .any (group inner (token :: rest))
    | _ => clause property (token :: rest)

theorem afterProperty_progress {levels : Nat} {inner : Option (Parser Filter)}
    {property : String} {position : Nat} {tokens : List Token} {result : Filter} {rest : List Token}
    (parsed : afterProperty levels inner property position tokens = .ok (result, rest)) :
    rest.length < tokens.length := by
  unfold afterProperty at parsed
  split at parsed
  · exact clause_progress parsed
  · split at parsed
    · split at parsed
      · obtain ⟨_, found⟩ := quantified_ok parsed
        exact Nat.lt_succ_of_lt (clause_progress found)
      · obtain ⟨_, found⟩ := quantified_ok parsed
        exact Nat.lt_succ_of_lt (group_progress found)
    · obtain ⟨_, found⟩ := quantified_ok parsed
      exact group_progress found
    · obtain ⟨_, found⟩ := quantified_ok parsed
      exact group_progress found
    · exact clause_progress parsed

/-- A group, or a property with what follows it. -/
def positive (levels : Nat) (inner : Option (Parser Filter)) :
    List Token → Except QueryError (Filter × List Token)
  | [] => refuse .propertyOrGroup []
  | token :: rest =>
    match token.kind with
    | .opening => group inner (token :: rest)
    | .identifier property => afterProperty levels inner property token.start rest
    | _ => refuse .propertyOrGroup (token :: rest)

theorem positive_progress {levels : Nat} {inner : Option (Parser Filter)} {tokens : List Token}
    {result : Filter} {rest : List Token} (parsed : positive levels inner tokens = .ok (result, rest)) :
    rest.length < tokens.length := by
  unfold positive at parsed
  split at parsed
  · exact absurd parsed refuse_ne_ok
  · split at parsed
    · exact group_progress parsed
    · exact Nat.lt_succ_of_lt (afterProperty_progress parsed)
    · exact absurd parsed refuse_ne_ok

/-- A term: a run of exclamation marks changes the negation of what follows it. -/
def term (levels : Nat) (inner : Option (Parser Filter)) : Parser Filter where
  run tokens :=
    match positive levels inner (negations tokens).2 with
    | .ok (filter, rest) => .ok (filter.toggled (negations tokens).1, rest)
    | .error error => .error error
  progress := by
    intro tokens result rest parsed
    split at parsed
    · rename_i filter after found
      simp only [Except.ok.injEq, Prod.mk.injEq] at parsed
      obtain ⟨-, rfl⟩ := parsed
      exact Nat.lt_of_lt_of_le (positive_progress found) (negations_length tokens)
    · simp at parsed

/-- The operands that follow a first one, joined from the left as long as the joining token
comes next and the height stays within the limit. -/
def joinFrom (levels : Nat) (joins : TokenKind) (join : Filter → Filter → Bool → Filter)
    (operand : Parser Filter) (left : Filter) : List Token → Except QueryError (Filter × List Token)
  | [] => .ok (left, [])
  | token :: rest =>
    if token.kind = joins then
      match _found : operand.run rest with
      | .error error => .error error
      | .ok (right, after) =>
        if max left.height right.height < levels then
          joinFrom levels joins join operand (join left right false) after
        else .error (.grammar (.tooManyLevels levels) (some token.start))
    else .ok (left, token :: rest)
termination_by tokens => tokens.length
decreasing_by
  have := operand.progress _found
  simp only [List.length_cons]
  omega

theorem joinFrom_length {levels : Nat} {joins : TokenKind}
    {join : Filter → Filter → Bool → Filter} {operand : Parser Filter} {left : Filter}
    {tokens : List Token} {result : Filter} {rest : List Token}
    (parsed : joinFrom levels joins join operand left tokens = .ok (result, rest)) :
    rest.length ≤ tokens.length := by
  fun_induction joinFrom levels joins join operand left tokens with
  | case1 => simp_all
  | case2 => simp at parsed
  | case3 left token more _ right after found _ ih =>
    have shorter := operand.progress found
    have := ih parsed
    simp only [List.length_cons]
    omega
  | case4 => simp at parsed
  | case5 =>
    simp only [Except.ok.injEq, Prod.mk.injEq] at parsed
    exact Nat.le_of_eq (congrArg List.length parsed.2.symm)

/-- One or more operands between joining tokens. -/
def joined (levels : Nat) (joins : TokenKind) (join : Filter → Filter → Bool → Filter)
    (operand : Parser Filter) : Parser Filter where
  run tokens :=
    match operand.run tokens with
    | .error error => .error error
    | .ok (first, rest) => joinFrom levels joins join operand first rest
  progress := by
    intro tokens result rest parsed
    split at parsed
    · simp at parsed
    · rename_i first more found
      exact Nat.lt_of_le_of_lt (joinFrom_length parsed) (operand.progress found)

/-- A disjunction of at most so many levels, in which at most `groups` groups may be open at a
time. -/
def disjunction (levels : Nat) : Nat → Parser Filter
  | 0 => joined levels .or .or (joined levels .and .and (term levels none))
  | groups + 1 =>
    joined levels .or .or (joined levels .and .and (term levels (some (disjunction levels groups))))

end Grammar

/-- A whole list of tokens as a filter. -/
def ofTokens (tokens : List Token) : Except QueryError Filter :=
  match (Grammar.disjunction maxDepth maxDepth).run tokens with
  | .error error => .error error
  | .ok (filter, []) => .ok filter
  | .ok (_, token :: _) =>
    let fault := if token.kind = .closing then .unmatchedClosing else .leftOver token.kind
    .error (.grammar fault (some token.start))

/-- Tokens up to the first that the language does not have. -/
def legal : List Token → Except QueryError (List Token)
  | [] => .ok []
  | token :: rest =>
    match token.kind with
    | .illegal c => .error (.lexical (.unexpectedCharacter c) token.start)
    | .unterminated => .error (.lexical .unterminatedString token.start)
    | _ =>
      match legal rest with
      | .ok later => .ok (token :: later)
      | .error error => .error error

/-- The tokens of a text, or the first fault in it. -/
def tokenize (text : String) : Except QueryError (List Token) :=
  legal (tokens text)

/-- The filter of a text. A blank text has none. -/
def parse (text : String) : Except QueryError (Option Filter) :=
  if Text.allBlank text.toList then .ok none
  else
    match tokenize text with
    | .error error => .error error
    | .ok tokens => (ofTokens tokens).map some

end ListQuery.Filter
