import Mathlib.Control.Monad.Basic
import ListQuery.Proofs.Filter.Expectation
import ListQuery.Proofs.Filter.Parsing
import ListQuery.Proofs.Filter.Spans

/-! Where the parser reports a fault. Every step of the parser goes the way of filters, token by
token: what it returns it has read to the end of a term, and where it stops, either no filter goes
on with the token that it names, or the tokens are over and a filter could go on. Limits on levels
and groups are the exception: they stop the parser where a filter could go on. -/

namespace ListQuery

/-- A fault of a filter that keeps to the grammar and not to the limits. -/
def GrammarFault.TooDeep : GrammarFault → Prop
  | .tooManyLevels _ | .tooManyGroups _ => True
  | _ => False

/-- The fault is met at the end of the input, where no token can be named: it has no place, or that
of the parenthesis it is about. -/
def GrammarFault.MetAtEnd (fault : GrammarFault) (position : Option Nat) : Prop :=
  position = none ∨ ∃ start, fault = .unmatchedOpening start ∧ position = some start

namespace Filter

/-! ### Open parentheses -/

/-- The parentheses that are open after further tokens, the innermost first. -/
def stillOpen (stack : List Token) : List Token → List Token
  | [] => stack
  | token :: rest =>
    if token.kind = .opening then stillOpen (token :: stack) rest
    else if token.kind = .closing then stillOpen stack.tail rest
    else stillOpen stack rest

/-- The parentheses that are open at the end of tokens, the innermost first. -/
def openParentheses (tokens : List Token) : List Token :=
  stillOpen [] tokens

theorem stillOpen_append (stack front back : List Token) :
    stillOpen stack (front ++ back) = stillOpen (stillOpen stack front) back := by
  induction front generalizing stack with
  | nil => rfl
  | cons token front ih =>
    simp only [List.cons_append, stillOpen]
    split
    · exact ih _
    · split <;> exact ih _

theorem stillOpen_opening {token : Token} (opens : token.kind = .opening)
    (stack rest : List Token) :
    stillOpen stack (token :: rest) = stillOpen (token :: stack) rest :=
  if_pos opens

theorem stillOpen_closing {token : Token} (closes : token.kind = .closing)
    (stack rest : List Token) :
    stillOpen stack (token :: rest) = stillOpen stack.tail rest := by
  have other : token.kind ≠ .opening := by simp [closes]
  rw [stillOpen, if_neg other, if_pos closes]

theorem stillOpen_plain {token : Token} (plain : Plain token.kind) (stack rest : List Token) :
    stillOpen stack (token :: rest) = stillOpen stack rest := by
  rw [stillOpen, if_neg plain.1, if_neg plain.2]

/-! ### Tokens that end a term -/

/-- Tokens lead from a stage to the end of a term, and close every parenthesis that they open. -/
structure Ended (stage : Stage) (tokens : List Token) (listed : Bool) : Prop where
  leads : advance stage (kinds tokens) = some (.ended listed, stage.2)
  closed : ∀ stack, stillOpen stack tokens = stack

section Ended
variable {mode next : Mode} {opened : Nat} {listed further : Bool} {token : Token}
  {front back : List Token}

theorem ended_nil : Ended (.ended listed, opened) [] listed :=
  ⟨rfl, fun _ => rfl⟩

theorem Ended.cons (ended : Ended (next, opened) back listed) (plain : Plain token.kind)
    (goes : follow (mode, opened) token.kind = some (next, opened)) :
    Ended (mode, opened) (token :: back) listed where
  leads := by
    rw [kinds_cons, advance_cons goes]
    exact ended.leads
  closed stack := by
    rw [stillOpen_plain plain]
    exact ended.closed stack

theorem Ended.append (first : Ended (mode, opened) front listed)
    (second : Ended (.ended listed, opened) back further) :
    Ended (mode, opened) (front ++ back) further where
  leads := by
    rw [kinds_append, advance_of_leads first.leads]
    exact second.leads
  closed stack := by rw [stillOpen_append, first.closed, second.closed]

/-- Where a group can begin, an opening parenthesis goes one level down. -/
theorem follow_opening (begins : Part.group.Begins mode) (opened : Nat) :
    follow (mode, opened) .opening = some (.term, opened + 1) := by
  rcases begins with rfl | rfl | rfl | rfl <;> rfl

theorem Ended.group {opening closing : Token} (inner : Ended (.term, opened + 1) front listed)
    (begins : Part.group.Begins mode) (opens : opening.kind = .opening)
    (closes : closing.kind = .closing) :
    Ended (mode, opened) (opening :: (front ++ [closing])) false where
  leads := by
    have down := follow_opening begins opened
    rw [kinds_cons, opens, advance_cons down, kinds_append, advance_of_leads inner.leads,
      kinds_cons, closes]
    rfl
  closed stack := by
    rw [stillOpen_opening opens, stillOpen_append, inner.closed, stillOpen_closing closes]
    rfl

end Ended

/-! ### What stops a step -/

/-- Why tokens are not read from a stage on. -/
inductive Blamed (stage : Stage) (tokens : List Token) : QueryError → Prop where
  | tooDeep {fault : GrammarFault} {position : Option Nat} (deep : fault.TooDeep) :
    Blamed stage tokens (.grammar fault position)
  /-- The tokens before one go the way of filters, and it does not go on from there. -/
  | token {fault : GrammarFault} {before after : List Token} {token : Token} {reached : Stage}
      (split : tokens = before ++ token :: after)
      (leads : advance stage (kinds before) = some reached)
      (wrong : follow reached token.kind = none)
      (earlier : ∀ start, fault = .unmatchedOpening start →
        ∃ opening ∈ before, opening.start = start) :
    Blamed stage tokens (.grammar fault (some token.start))
  | ended {reached : Stage} (leads : advance stage (kinds tokens) = some reached)
      (expected : Expected) : Blamed stage tokens (.grammar (.ended expected) none)
  | unclosed {reached : Stage} {opening : Token}
      (leads : advance stage (kinds tokens) = some reached)
      (innermost : ∀ stack, ∃ outer, stillOpen stack tokens = opening :: outer) :
    Blamed stage tokens (.grammar (.unmatchedOpening opening.start) (some opening.start))

/-- What stops a step stops it after more tokens too. -/
theorem Blamed.after {stage next : Stage} {back : List Token} {error : QueryError}
    (blamed : Blamed next back error) (front : List Token)
    (leads : advance stage (kinds front) = some next) :
    Blamed stage (front ++ back) error := by
  have onward {tokens : List Token} {reached : Stage}
      (further : advance next (kinds tokens) = some reached) :
      advance stage (kinds (front ++ tokens)) = some reached := by
    rw [kinds_append, advance_of_leads leads, further]
  cases blamed with
  | tooDeep deep => exact .tooDeep deep
  | @token fault before after token reached split further wrong earlier =>
    have same : front ++ back = (front ++ before) ++ token :: after := by
      rw [split, List.append_assoc]
    refine .token same (onward further) wrong fun start opens => ?_
    obtain ⟨opening, among, here⟩ := earlier start opens
    exact ⟨opening, List.mem_append_right front among, here⟩
  | ended further expected => exact .ended (onward further) expected
  | unclosed further innermost =>
    refine .unclosed (onward further) fun stack => ?_
    rw [stillOpen_append]
    exact innermost _

/-- How a step goes from a stage. What it returns it has read to the end of a term, it has read
values as long as they go on, and the tokens that it leaves are as promised. -/
inductive Outcome {α : Type} (stage : Stage) (promise : List Token → Prop) (tokens : List Token) :
    Except QueryError (α × List Token) → Prop where
  | read {a : α} {front rest : List Token} {listed : Bool} (split : tokens = front ++ rest)
      (ended : Ended stage front listed) (exhausted : listed = true → Grammar.NotNext .comma rest)
      (kept : promise rest) : Outcome stage promise tokens (.ok (a, rest))
  | failed {error : QueryError} (blamed : Blamed stage tokens error) :
    Outcome stage promise tokens (.error error)

section Outcome
variable {α β : Type} {mode next : Mode} {opened : Nat} {promise : List Token → Prop}
  {token : Token} {tokens : List Token} {result : Except QueryError (α × List Token)}

theorem Outcome.map (outcome : Outcome (mode, opened) promise tokens result) (change : α → β) :
    Outcome (mode, opened) promise tokens
      (result.map fun found => (change found.1, found.2)) := by
  cases outcome with
  | read split ended exhausted kept => exact .read split ended exhausted kept
  | failed blamed => exact .failed blamed

theorem Outcome.cons {k : TokenKind} (outcome : Outcome (next, opened) promise tokens result)
    (same : token.kind = k) (plain : Plain k)
    (goes : follow (mode, opened) k = some (next, opened)) :
    Outcome (mode, opened) promise (token :: tokens) result := by
  subst same
  cases outcome with
  | read split ended exhausted kept =>
    subst split
    exact .read (List.cons_append).symm (ended.cons plain goes) exhausted kept
  | failed blamed =>
    refine .failed (blamed.after [token] ?_)
    rw [kinds_cons, advance_cons goes]
    rfl

/-- Where a term ends, a step can go on. -/
theorem Outcome.after {front : List Token} {listed : Bool}
    (outcome : Outcome (.ended listed, opened) promise tokens result)
    (ended : Ended (mode, opened) front listed) :
    Outcome (mode, opened) promise (front ++ tokens) result := by
  cases outcome with
  | read split further exhausted kept =>
    subst split
    exact .read (List.append_assoc ..).symm (ended.append further) exhausted kept
  | failed blamed => exact .failed (blamed.after front ended.leads)

theorem Outcome.mono {weaker : List Token → Prop}
    (outcome : Outcome (mode, opened) promise tokens result)
    (weaken : ∀ rest, promise rest → weaker rest) :
    Outcome (mode, opened) weaker tokens result := by
  cases outcome with
  | read split ended exhausted kept => exact .read split ended exhausted (weaken _ kept)
  | failed blamed => exact .failed blamed

end Outcome

/-! ### The steps of the parser -/

namespace Grammar

section Steps
variable {mode : Mode} {opened levels : Nat} {promise : List Token → Prop} {token : Token}
  {tokens rest : List Token}

theorem notNext_nil (k : TokenKind) : NotNext k [] := by
  simp [NotNext]

/-- A token that cannot stand where it stands is what the step reports. -/
theorem blamed_first {stage : Stage} {fault : GrammarFault}
    (wrong : follow stage token.kind = none) (other : ∀ start, fault ≠ .unmatchedOpening start) :
    Blamed stage (token :: rest) (.grammar fault (some token.start)) := by
  have split : token :: rest = [] ++ token :: rest := rfl
  exact .token split rfl wrong fun start same => absurd same (other start)

/-- Where the tokens are over, whatever is asked for is missing. -/
theorem refuse_nil_outcome {α : Type} {stage : Stage} (expected : Expected) :
    Outcome stage promise [] (refuse expected [] : Except QueryError (α × List Token)) :=
  .failed (.ended rfl expected)

theorem refuse_outcome {α : Type} {stage : Stage} (expected : Expected)
    (wrong : ∀ token ∈ tokens.head?, follow stage token.kind = none) :
    Outcome stage promise tokens (refuse expected tokens : Except QueryError (α × List Token)) := by
  cases tokens with
  | nil => exact refuse_nil_outcome expected
  | cons token rest => exact .failed (blamed_first (wrong token rfl) (by simp))

/-- Where a value can stand: the stage goes on with a token as it does where a value has to. -/
def AsksValue (mode : Mode) (opened : Nat) (tokens : List Token) : Prop :=
  ∀ token ∈ tokens.head?, follow (mode, opened) token.kind = afterValue opened token.kind

theorem asksValue : AsksValue .value opened tokens :=
  fun _ _ => rfl

theorem AsksValue.literal {value : Option String} (asks : AsksValue mode opened (token :: rest))
    (found : literal? token.kind = some value) :
    Plain token.kind ∧ follow (mode, opened) token.kind = some (.ended true, opened) := by
  refine ⟨(literal?_eq_some_iff.mp found).plain, ?_⟩
  rw [asks token rfl, afterValue, found]
  rfl

/-- A value that no further value follows. -/
theorem last_outcome {value : Option String} (asks : AsksValue mode opened (token :: rest))
    (found : literal? token.kind = some value) (ends : NotNext .comma rest) :
    Outcome (mode, opened) (fun _ => True) (token :: rest) (.ok ([value], rest)) := by
  obtain ⟨plain, goes⟩ := asks.literal found
  have split : token :: rest = [token] ++ rest := rfl
  exact .read split (ended_nil.cons plain goes) (fun _ => ends) trivial

/-- A value, a comma and whatever comes of the values after it. -/
theorem more_outcome {comma : Token} {value : Option String}
    {result : Except QueryError (List (Option String) × List Token)}
    (later : Outcome (.value, opened) (fun _ => True) rest result)
    (asks : AsksValue mode opened (token :: comma :: rest))
    (found : literal? token.kind = some value) (separates : comma.kind = .comma) :
    Outcome (mode, opened) (fun _ => True) (token :: comma :: rest) result := by
  obtain ⟨plain, goes⟩ := asks.literal found
  exact (later.cons separates (by simp [Plain]) rfl).cons rfl plain goes

theorem values_outcome (asks : AsksValue mode opened tokens) :
    Outcome (mode, opened) (fun _ => True) tokens (values tokens) := by
  fun_induction values tokens generalizing mode with
  | case1 => exact refuse_nil_outcome _
  | case2 token rest none =>
    refine refuse_outcome _ fun first same => ?_
    rw [asks first same]
    cases same
    rw [afterValue, none]
    rfl
  | case3 token value found => exact last_outcome asks found (notNext_nil _)
  | case4 token value found comma rest separates later after listing ih =>
    have further := ih asksValue
    rw [listing] at further
    exact more_outcome (further.map (value :: ·)) asks found separates
  | case5 token value found comma rest separates error failing ih =>
    have further := ih asksValue
    rw [failing] at further
    exact more_outcome (further.map (value :: ·)) asks found separates
  | case6 token value found comma rest other =>
    exact last_outcome asks found fun next same => by cases same; exact other

/-- What follows an operator: an asterisk, if there is one, and values. -/
theorem star_outcome (opened : Nat) (tokens : List Token) :
    Outcome (.operator, opened) (fun _ => True) tokens (values (star tokens).2) := by
  rcases star_eq tokens with ⟨asterisk, more, rfl, mark, found⟩ | found
  · rw [found]
    exact (values_outcome asksValue).cons mark (by simp [Plain]) rfl
  · rw [found]
    refine values_outcome fun token first => follow_operator_of_other fun mark => ?_
    obtain ⟨rest, rfl⟩ := List.head?_eq_some_iff.mp first
    rw [star, if_pos mark] at found
    cases found

theorem clause_operator {property : String} {op : Operator} (symbol : token.kind = .operator op) :
    clause property (token :: rest) = (values (star rest).2).map fun found =>
      (.clause property op found.1 false (star rest).1, found.2) := by
  simp only [clause, symbol]
  cases values (star rest).2 <;> rfl

/-- A clause begins with an operator, and with nothing else. -/
theorem clause_outcome {property : String}
    (goes : ∀ op, follow (mode, opened) (.operator op) = some (.operator, opened))
    (others : ∀ token ∈ tokens.head?, (∀ op, token.kind ≠ .operator op) →
      follow (mode, opened) token.kind = none) :
    Outcome (mode, opened) (fun _ => True) tokens (clause property tokens) := by
  cases tokens with
  | nil => exact refuse_nil_outcome _
  | cons token rest =>
    by_cases operator : ∃ op, token.kind = .operator op
    · obtain ⟨op, symbol⟩ := operator
      have after := (star_outcome opened rest).cons symbol (by simp [Plain]) (goes op)
      rw [clause_operator symbol]
      exact after.map fun listed => Filter.clause property op listed false (star rest).1
    · have wrong := others token rfl fun op same => operator ⟨op, same⟩
      have refused (expected : Expected) :
          Outcome (mode, opened) (fun _ => True) (token :: rest)
            (refuse expected (token :: rest) : Except QueryError (Filter × List Token)) :=
        refuse_outcome expected fun first same => by cases same; exact wrong
      simp only [clause]
      split
      · rename_i op symbol
        exact absurd ⟨op, symbol⟩ operator
      · exact .failed (blamed_first wrong (by simp))
      · exact refused .operator

/-- A level too high stops a step that reads to its end, and changes nothing else. -/
theorem quantified_outcome {result : Except QueryError (Filter × List Token)}
    (outcome : Outcome (mode, opened) promise tokens result) (property : String) (position : Nat)
    (quantifier : Quantifier) :
    Outcome (mode, opened) promise tokens
      (quantified levels property position quantifier result) := by
  unfold quantified
  cases outcome with
  | read split ended exhausted kept =>
    simp only
    split
    · exact .read split ended exhausted kept
    · exact .failed (.tooDeep trivial)
  | failed blamed => exact .failed blamed

/-- What a filter leaves when it is read as far as it goes. -/
def Unjoined (rest : List Token) : Prop :=
  NotNext .and rest ∧ NotNext .or rest

/-- The parser for what stands in groups goes the way of filters. -/
def Inside (inner : Option (Parser Filter)) : Prop :=
  ∀ parser ∈ inner, ∀ tokens opened, Outcome (.term, opened) Unjoined tokens (parser.run tokens)

/-- A whole term is followed by a value, a join or a closing parenthesis, if it is followed by
anything. -/
theorem follow_ended_eq_none {listed : Bool} (kept : Unjoined (token :: rest))
    (exhausted : listed = true → NotNext .comma (token :: rest))
    (unclosed : opened = 0 ∨ token.kind ≠ .closing) :
    follow (.ended listed, opened) token.kind = none := by
  obtain ⟨notAnd, notOr⟩ := kept
  have notAnd := notAnd token rfl
  have notOr := notOr token rfl
  simp only [follow]
  split
  · split
    · rename_i comma more
      exact absurd comma (exhausted more token rfl)
    · rfl
  · rename_i joins
    exact absurd joins notAnd
  · rename_i joins
    exact absurd joins notOr
  · rename_i closes
    exact absurd closes (unclosed.resolve_left (Nat.succ_ne_zero _))
  · rfl

section Parentheses
variable {front : List Token} {listed : Bool}

theorem advance_opening (begins : Part.group.Begins mode) (opens : token.kind = .opening)
    (ended : Ended (.term, opened + 1) front listed) :
    advance (mode, opened) (kinds (token :: front)) = some (.ended listed, opened + 1) := by
  rw [kinds_cons, opens, advance_cons (follow_opening begins opened)]
  exact ended.leads

/-- A parenthesis that is open at the end is the innermost one, as the filter after it has closed
its own. -/
theorem unclosed_blamed (begins : Part.group.Begins mode) (opens : token.kind = .opening)
    (ended : Ended (.term, opened + 1) front listed) :
    Blamed (mode, opened) (token :: front)
      (.grammar (.unmatchedOpening token.start) (some token.start)) := by
  refine .unclosed (advance_opening begins opens ended) fun stack => ⟨stack, ?_⟩
  rw [stillOpen_opening opens]
  exact ended.closed (token :: stack)

/-- What stands instead of the closing parenthesis cannot stand there. -/
theorem unmatched_blamed {close : Token} (begins : Part.group.Begins mode)
    (opens : token.kind = .opening) (ended : Ended (.term, opened + 1) front listed)
    (kept : Unjoined (close :: rest)) (exhausted : listed = true → NotNext .comma (close :: rest))
    (unclosed : close.kind ≠ .closing) :
    Blamed (mode, opened) (token :: (front ++ close :: rest))
      (.grammar (.unmatchedOpening token.start) (some close.start)) := by
  have split : token :: (front ++ close :: rest) = (token :: front) ++ close :: rest := rfl
  refine .token split (advance_opening begins opens ended) ?_ fun start same => ?_
  · exact follow_ended_eq_none kept exhausted (Or.inr unclosed)
  · cases same
    exact ⟨token, List.mem_cons_self, rfl⟩

end Parentheses

variable {inner : Option (Parser Filter)}

theorem parentheses_outcome (inside : Inside inner) (begins : Part.group.Begins mode)
    (opens : token.kind = .opening) :
    Outcome (mode, opened) (fun _ => True) (token :: rest) (group inner (token :: rest)) := by
  have other : token.kind ≠ .exclamation := by simp [opens]
  simp only [group, negations_other other, if_pos opens]
  cases inner with
  | none => exact .failed (.tooDeep trivial)
  | some parser =>
    have outcome := inside parser rfl rest (opened + 1)
    simp only
    cases found : parser.run rest with
    | error error =>
      rw [found] at outcome
      cases outcome with
      | failed blamed =>
        refine .failed (blamed.after [token] ?_)
        rw [kinds_cons, opens, advance_cons (follow_opening begins opened)]
        rfl
    | ok pair =>
      obtain ⟨f, left⟩ := pair
      rw [found] at outcome
      cases outcome with
      | @read _ front _ listed split ended exhausted kept =>
        subst split
        cases left with
        | nil =>
          rw [List.append_nil]
          exact .failed (unclosed_blamed begins opens ended)
        | cons close left =>
          simp only
          split
          · rename_i closes
            have parted : token :: (front ++ close :: left) =
                (token :: (front ++ [close])) ++ left := by simp
            exact .read parted (ended.group begins opens closes) (by simp) trivial
          · rename_i unclosed
            exact .failed (unmatched_blamed begins opens ended kept exhausted unclosed)

theorem group_map_of_exclamation (mark : token.kind = .exclamation) :
    group inner (token :: rest) =
      (group inner rest).map fun found => (found.1.toggled true, found.2) := by
  simp only [group, negations_exclamation mark]
  obtain ⟨negated, after⟩ := negations rest
  cases after with
  | nil => rfl
  | cons opening more =>
    simp only
    split
    · cases inner with
      | none => rfl
      | some parser =>
        simp only
        split
        · rfl
        · rfl
        · split
          · simp [Except.map]
          · rfl
    · rfl

/-- A group after a property: exclamation marks, and then nothing but a parenthesis. -/
theorem group_outcome (inside : Inside inner)
    (begins : mode = .property ∨ mode = .asterisk ∨ mode = .group)
    (others : ∀ token ∈ tokens.head?, token.kind ≠ .exclamation → token.kind ≠ .opening →
      follow (mode, opened) token.kind = none) :
    Outcome (mode, opened) (fun _ => True) tokens (group inner tokens) := by
  induction tokens generalizing mode with
  | nil => exact refuse_nil_outcome _
  | cons token rest ih =>
    by_cases mark : token.kind = .exclamation
    · have goes : follow (mode, opened) .exclamation = some (.group, opened) := by
        rcases begins with rfl | rfl | rfl <;> rfl
      have further := @ih .group (Or.inr (Or.inr rfl)) fun _ _ => follow_group_eq_none
      rw [group_map_of_exclamation mark]
      exact (further.cons mark (by simp [Plain]) goes).map _
    · by_cases opens : token.kind = .opening
      · exact parentheses_outcome inside (Or.inr begins) opens
      · have wrong := others token rfl mark opens
        simp only [group, negations_other mark, if_neg opens]
        refine refuse_outcome _ fun first same => ?_
        cases same
        exact wrong

theorem afterProperty_outcome (inside : Inside inner) (property : String) (position : Nat) :
    Outcome (.property, opened) (fun _ => True) tokens
      (afterProperty levels inner property position tokens) := by
  cases tokens with
  | nil => exact refuse_nil_outcome _
  | cons token rest =>
    simp only [afterProperty]
    split
    · rename_i mark
      split
      · rename_i operator
        refine quantified_outcome (clause_outcome (fun _ => rfl) ?_) _ _ _ |>.cons
          mark (by simp [Plain]) rfl
        intro next first noOperator
        -- What the parser takes for an operator here is one, or an equals sign.
        rw [first] at operator
        refine follow_asterisk_eq_none ?_ ?_ noOperator
        · intro mark
          simp [mark, TokenKind.isOperator] at operator
        · intro opens
          simp [opens, TokenKind.isOperator] at operator
      · rename_i noOperator
        refine quantified_outcome (group_outcome inside (Or.inr (Or.inl rfl)) ?_) _ _ _ |>.cons
          mark (by simp [Plain]) rfl
        intro next first noMark noGroup
        rw [first] at noOperator
        refine follow_asterisk_eq_none noMark noGroup fun op symbol => ?_
        simp [symbol, TokenKind.isOperator] at noOperator
    · rename_i opens
      refine quantified_outcome (group_outcome inside (Or.inl rfl) ?_) _ _ _
      intro first same _ noGroup
      cases same
      exact absurd opens noGroup
    · rename_i mark
      refine quantified_outcome (group_outcome inside (Or.inl rfl) ?_) _ _ _
      intro first same noMark
      cases same
      exact absurd mark noMark
    · rename_i noStar noGroup noMark
      refine clause_outcome (fun _ => rfl) fun first same noOperator => ?_
      cases same
      exact follow_property_eq_none noMark noGroup noStar noOperator

theorem positive_outcome (inside : Inside inner) (noMark : NotNext .exclamation tokens) :
    Outcome (.term, opened) (fun _ => True) tokens (positive levels inner tokens) := by
  cases tokens with
  | nil => exact refuse_nil_outcome _
  | cons token rest =>
    have other := noMark token rfl
    simp only [positive]
    split
    · rename_i opens
      exact parentheses_outcome inside (Or.inl rfl) opens
    · rename_i property name
      exact (afterProperty_outcome inside property _).cons name (by simp [Plain]) rfl
    · rename_i noGroup noName
      refine refuse_outcome _ fun first same => ?_
      cases same
      exact follow_term_eq_none other noGroup noName

theorem term_eq_map (tokens : List Token) :
    (term levels inner).run tokens = (positive levels inner (negations tokens).2).map fun found =>
      (found.1.toggled (negations tokens).1, found.2) := by
  simp only [term]
  cases positive levels inner (negations tokens).2 <;> rfl

theorem term_outcome (inside : Inside inner) (tokens : List Token) (opened : Nat) :
    Outcome (.term, opened) (fun _ => True) tokens ((term levels inner).run tokens) := by
  rw [term_eq_map]
  refine Outcome.map ?_ (toggled (negations tokens).1)
  induction tokens with
  | nil => exact refuse_nil_outcome _
  | cons token rest ih =>
    by_cases mark : token.kind = .exclamation
    · rw [negations_exclamation mark]
      exact ih.cons mark (by simp [Plain]) rfl
    · rw [negations_other mark]
      exact positive_outcome inside fun first same => by cases same; exact mark

theorem follow_join {joins : TokenKind} (joining : joins = .and ∨ joins = .or) (listed : Bool)
    (opened : Nat) : follow (.ended listed, opened) joins = some (.term, opened) := by
  rcases joining with rfl | rfl <;> rfl

/-- Joining goes on from the end of a term to the end of the last operand. -/
theorem joinFrom_outcome {joins : TokenKind} {join : Filter → Filter → Bool → Filter}
    {operand : Parser Filter} {left : Filter} {listed : Bool} (joining : joins = .and ∨ joins = .or)
    (each : ∀ tokens, Outcome (.term, opened) promise tokens (operand.run tokens))
    (kept : promise tokens) (exhausted : listed = true → NotNext .comma tokens) :
    Outcome (.ended listed, opened) (fun rest => promise rest ∧ NotNext joins rest) tokens
      (joinFrom levels joins join operand left tokens) := by
  have plain : Plain joins := by rcases joining with rfl | rfl <;> simp [Plain]
  fun_induction joinFrom levels joins join operand left tokens generalizing listed with
  | case1 => exact .read rfl ended_nil exhausted ⟨kept, notNext_nil _⟩
  | case2 left token rest separates error failing =>
    have outcome := each rest
    rw [failing] at outcome
    cases outcome with
    | failed blamed =>
      exact (Outcome.failed blamed).cons separates plain (follow_join joining listed opened)
  | case3 left token rest separates right after found low ih =>
    have outcome := each rest
    rw [found] at outcome
    cases outcome with
    | read split ended spent unjoined =>
      subst split
      exact ((ih unjoined spent).after ended).cons separates plain
        (follow_join joining listed opened)
  | case4 left token rest separates right after found high => exact .failed (.tooDeep trivial)
  | case5 left token rest other =>
    refine .read rfl ended_nil exhausted ⟨kept, fun first same => ?_⟩
    cases same
    exact other

theorem joined_outcome {joins : TokenKind} {join : Filter → Filter → Bool → Filter}
    {operand : Parser Filter} (joining : joins = .and ∨ joins = .or)
    (each : ∀ tokens, Outcome (.term, opened) promise tokens (operand.run tokens))
    (tokens : List Token) :
    Outcome (.term, opened) (fun rest => promise rest ∧ NotNext joins rest) tokens
      ((joined levels joins join operand).run tokens) := by
  have outcome := each tokens
  simp only [joined]
  cases found : operand.run tokens with
  | error error =>
    rw [found] at outcome
    cases outcome with
    | failed blamed => exact .failed blamed
  | ok first =>
    rw [found] at outcome
    cases outcome with
    | read split ended spent unjoined =>
      subst split
      exact (joinFrom_outcome joining each unjoined spent).after ended

theorem disjunction_outcome (levels groups : Nat) (tokens : List Token) (opened : Nat) :
    Outcome (.term, opened) Unjoined tokens ((disjunction levels groups).run tokens) := by
  have read (groups : Nat) (inside : Inside (Grammar.inside levels groups)) (tokens : List Token)
      (opened : Nat) :
      Outcome (.term, opened) Unjoined tokens ((disjunction levels groups).run tokens) := by
    have conjunctions (tokens : List Token) : Outcome (.term, opened)
        (fun rest => True ∧ NotNext .and rest) tokens ((conjunction levels groups).run tokens) :=
      joined_outcome (Or.inl rfl) (fun tokens => term_outcome inside tokens opened) tokens
    rw [disjunction_eq]
    exact (joined_outcome (Or.inr rfl) conjunctions tokens).mono fun rest kept =>
      ⟨kept.1.2, kept.2⟩
  induction groups generalizing tokens opened with
  | zero => exact read 0 (by simp [Inside, Grammar.inside]) tokens opened
  | succ groups ih =>
    refine read (groups + 1) (fun parser same => ?_) tokens opened
    cases same
    exact ih

end Steps

end Grammar

open Grammar in
/-- Tokens that are no filter leave the way where the error says, or end on it. -/
theorem ofTokens_blamed {tokens : List Token} {error : QueryError}
    (failed : ofTokens tokens = .error error) : Blamed (.term, 0) tokens error := by
  have outcome := disjunction_outcome maxDepth maxDepth tokens 0
  unfold ofTokens at failed
  split at failed
  · rename_i failing
    cases failed
    rw [failing] at outcome
    cases outcome with
    | failed blamed => exact blamed
  · cases failed
  · rename_i filter token rest found
    cases failed
    rw [found] at outcome
    cases outcome with
    | read split ended exhausted kept =>
      have wrong := follow_ended_eq_none kept exhausted (Or.inl rfl)
      refine .token split ended.leads wrong fun start same => ?_
      split at same <;> cases same

/-! ### Texts -/

/-- What stands before a token begins before it. -/
theorem start_lt_start {text : String} {before after : List Token} {token earlier : Token}
    (split : tokens text = before ++ token :: after) (among : earlier ∈ before) :
    earlier.start < token.start := by
  have ordered : (tokens text).Pairwise fun one other => one.stop ≤ other.start :=
    (covers_tokensFrom text.toList 0).ordered
  have member : earlier ∈ tokens text := by
    rw [split]
    exact List.mem_append_left _ among
  obtain ⟨_, _, _, _, _, _, filled, _⟩ := (spansIn_of_mem member).1
  rw [split] at ordered
  have next := (List.pairwise_append.mp ordered).2.2 earlier among token List.mem_cons_self
  omega

/-- A fault of a text's tokens, but for one of depth, stands at the first wrong token: the tokens
before it are the beginning of a filter, and with it they are not. Where no token is wrong, all of
them are the beginning of a longer filter, and a place is that of the innermost parenthesis that is
still open. -/
theorem syntax_fault_at_first_wrong_token {text : String} {result : List Token}
    {fault : GrammarFault} {position : Option Nat} (tokenized : tokenize text = .ok result)
    (failed : ofTokens result = .error (.grammar fault position)) (shallow : ¬ fault.TooDeep) :
    (¬ fault.MetAtEnd position → ∃ before token after, result = before ++ token :: after ∧
      position = some token.start ∧ Completable (kinds before) ∧
      ¬ Completable (kinds (before ++ [token]))) ∧
    (fault.MetAtEnd position →
      (∃ rest f, rest ≠ [] ∧ Derives .disjunction (kinds result ++ rest) f) ∧
      ∀ start, position = some start →
        ∃ opening outer, openParentheses result = opening :: outer ∧ opening.start = start) := by
  cases ofTokens_blamed failed with
  | tooDeep deep => exact absurd deep shallow
  | @token _ before after token reached split leads wrong earlier =>
    subst split
    refine ⟨fun _ => ⟨before, token, after, rfl, rfl, completable_iff.mpr ⟨_, leads⟩, ?_⟩, ?_⟩
    · intro completable
      obtain ⟨stage, beyond⟩ := completable_iff.mp completable
      rw [kinds_append, advance_of_leads leads, kinds_cons, advance, wrong] at beyond
      cases beyond
    · -- An open parenthesis stands before the token, so its place is another one.
      rintro (none | ⟨start, unmatched, same⟩)
      · cases none
      · obtain ⟨opening, among, here⟩ := earlier start unmatched
        have place : token.start = start := Option.some.inj same
        have apart := start_lt_start (legal_ok tokenized).symm among
        omega
  | ended leads expected =>
    refine ⟨fun elsewhere => absurd (Or.inl rfl) elsewhere, fun _ => ⟨?_, by simp⟩⟩
    exact (completable_iff.mpr ⟨_, leads⟩).longer
  | unclosed leads innermost =>
    obtain ⟨outer, stack⟩ := innermost []
    refine ⟨fun elsewhere => absurd (Or.inr ⟨_, rfl, rfl⟩) elsewhere, fun _ => ⟨?_, ?_⟩⟩
    · exact (completable_iff.mpr ⟨_, leads⟩).longer
    · intro start same
      cases same
      exact ⟨_, outer, stack, rfl⟩

/-- A text with a number where an operator has to stand. -/
def misplacedText : String := "x*!(a==1|b 2"

/-- A text that ends in two open groups. -/
def openGroups : String := "(x(a==1,2"

theorem misplacedText_and_openGroups_faults :
    (∃ result before token after, tokenize misplacedText = .ok result ∧
      ofTokens result = .error (.grammar (.found .operator (.number "2")) (some 11)) ∧
      result = before ++ token :: after ∧ some 11 = some token.start ∧
      Completable (kinds before) ∧ ¬ Completable (kinds (before ++ [token]))) ∧
    ∃ result, tokenize openGroups = .ok result ∧
      ofTokens result = .error (.grammar (.unmatchedOpening 2) (some 2)) ∧
      (∃ rest f, rest ≠ [] ∧ Derives .disjunction (kinds result ++ rest) f) ∧
      ∃ opening outer, openParentheses result = opening :: outer ∧ opening.start = 2 := by
  constructor
  · have tokenized : tokenize misplacedText = .ok (tokens misplacedText) := by decide +kernel
    have failed : ofTokens (tokens misplacedText) =
        .error (.grammar (.found .operator (.number "2")) (some 11)) := by
      decide +kernel
    have elsewhere : ¬ (GrammarFault.found .operator (.number "2")).MetAtEnd (some 11) := by
      simp [GrammarFault.MetAtEnd]
    obtain ⟨before, token, after, split⟩ :=
      (syntax_fault_at_first_wrong_token tokenized failed id).1 elsewhere
    exact ⟨_, before, token, after, tokenized, failed, split⟩
  · have tokenized : tokenize openGroups = .ok (tokens openGroups) := by decide +kernel
    have failed : ofTokens (tokens openGroups) =
        .error (.grammar (.unmatchedOpening 2) (some 2)) := by
      decide +kernel
    have atEnd : (GrammarFault.unmatchedOpening 2).MetAtEnd (some 2) := Or.inr ⟨2, rfl, rfl⟩
    obtain ⟨longer, innermost⟩ :=
      (syntax_fault_at_first_wrong_token tokenized failed id).2 atEnd
    exact ⟨_, tokenized, failed, longer, innermost 2 rfl⟩

end Filter

end ListQuery
