import ListQuery.Proofs.Filter.Recognition

/-! What may come next. After the tokens of an unfinished filter it is known which kinds of tokens
can go on with it: that depends on the last tokens and on the number of open parentheses. Every
filter goes this way from its first token to its last, so a run of tokens that leaves the way is the
beginning of no filter. -/

namespace ListQuery.Filter

/-! ### The way of a filter -/

/-- What has just been said, as far as the next token depends on it. -/
inductive Mode where
  /-- Nothing yet of a term, but for exclamation marks. -/
  | term
  /-- A property. -/
  | property
  /-- A property and an asterisk. -/
  | asterisk
  /-- Exclamation marks after a property, which only a group can follow. -/
  | group
  | operator
  /-- The beginning of a clause that needs a value now. -/
  | value
  /-- A whole term, which further values can follow if it ends with values. -/
  | ended (listed : Bool)

/-- The mode and the number of open parentheses. -/
abbrev Stage := Mode × Nat

/-- The stage after a value, if the token is one. -/
def afterValue (opened : Nat) (k : TokenKind) : Option Stage :=
  (Grammar.literal? k).map fun _ => (.ended true, opened)

/-- The stage after a token, if the token can stand there. -/
def follow : Stage → TokenKind → Option Stage
  | (.term, opened), k =>
    match k with
    | .exclamation => some (.term, opened)
    | .opening => some (.term, opened + 1)
    | .identifier _ => some (.property, opened)
    | _ => none
  | (.property, opened), k =>
    match k with
    | .exclamation => some (.group, opened)
    | .opening => some (.term, opened + 1)
    | .asterisk => some (.asterisk, opened)
    | .operator _ => some (.operator, opened)
    | _ => none
  | (.asterisk, opened), k =>
    match k with
    | .exclamation => some (.group, opened)
    | .opening => some (.term, opened + 1)
    | .operator _ => some (.operator, opened)
    | _ => none
  | (.group, opened), k =>
    match k with
    | .exclamation => some (.group, opened)
    | .opening => some (.term, opened + 1)
    | _ => none
  | (.operator, opened), k => if k = .asterisk then some (.value, opened) else afterValue opened k
  | (.value, opened), k => afterValue opened k
  | (.ended listed, opened), k =>
    match k, opened with
    | .comma, _ => if listed then some (.value, opened) else none
    | .and, _ | .or, _ => some (.term, opened)
    | .closing, opened + 1 => some (.ended false, opened)
    | _, _ => none

/-- The stage after many tokens. -/
def advance (stage : Stage) : List TokenKind → Option Stage
  | [] => some stage
  | k :: s => (follow stage k).bind fun next => advance next s

theorem advance_cons {stage next : Stage} {k : TokenKind} (goes : follow stage k = some next)
    (s : List TokenKind) : advance stage (k :: s) = advance next s := by
  rw [advance, goes]
  rfl

theorem advance_append (stage : Stage) (s t : List TokenKind) :
    advance stage (s ++ t) = (advance stage s).bind fun next => advance next t := by
  induction s generalizing stage with
  | nil => rfl
  | cons k s ih =>
    rw [List.cons_append, advance, advance]
    cases follow stage k with
    | none => rfl
    | some next => exact ih next

/-- Where tokens lead to a stage, those after them go on from it. -/
theorem advance_of_leads {stage next : Stage} {s : List TokenKind}
    (leads : advance stage s = some next) (t : List TokenKind) :
    advance stage (s ++ t) = advance next t := by
  rw [advance_append, leads]
  rfl

/-! ### Tokens that cannot stand -/

section Refused
variable {opened : Nat} {k : TokenKind}

theorem follow_term_eq_none (noMark : k ≠ .exclamation) (noGroup : k ≠ .opening)
    (noName : ∀ name, k ≠ .identifier name) : follow (.term, opened) k = none := by
  cases k with
  | exclamation => exact absurd rfl noMark
  | opening => exact absurd rfl noGroup
  | identifier name => exact absurd rfl (noName name)
  | _ => rfl

theorem follow_property_eq_none (noMark : k ≠ .exclamation) (noGroup : k ≠ .opening)
    (noStar : k ≠ .asterisk) (noOperator : ∀ op, k ≠ .operator op) :
    follow (.property, opened) k = none := by
  cases k with
  | exclamation => exact absurd rfl noMark
  | opening => exact absurd rfl noGroup
  | asterisk => exact absurd rfl noStar
  | operator op => exact absurd rfl (noOperator op)
  | _ => rfl

theorem follow_asterisk_eq_none (noMark : k ≠ .exclamation) (noGroup : k ≠ .opening)
    (noOperator : ∀ op, k ≠ .operator op) : follow (.asterisk, opened) k = none := by
  cases k with
  | exclamation => exact absurd rfl noMark
  | opening => exact absurd rfl noGroup
  | operator op => exact absurd rfl (noOperator op)
  | _ => rfl

theorem follow_group_eq_none (noMark : k ≠ .exclamation) (noGroup : k ≠ .opening) :
    follow (.group, opened) k = none := by
  cases k with
  | exclamation => exact absurd rfl noMark
  | opening => exact absurd rfl noGroup
  | _ => rfl

end Refused

/-! ### Filters go the way -/

variable {opened : Nat} {s : List TokenKind} {f : Filter}

theorem follow_value_of_literal {k : TokenKind} {value : Option String} (literal : Literal k value)
    (opened : Nat) :
    follow (.value, opened) k = some (.ended true, opened) := by
  have found := Grammar.literal?_eq_some_iff.mpr literal
  simp [follow, afterValue, found]

/-- After an operator a value may come as well as an asterisk. -/
theorem follow_operator_of_other {k : TokenKind} (other : k ≠ .asterisk) :
    follow (.operator, opened) k = follow (.value, opened) k := by
  simp [follow, other]

theorem advance_of_values {listed : List (Option String)} (values : Values s listed)
    (opened : Nat) :
    advance (.value, opened) s = some (.ended true, opened) := by
  induction values with
  | last literal => exact advance_cons (follow_value_of_literal literal opened) []
  | more literal values ih =>
    have comma : follow (.ended true, opened) .comma = some (.value, opened) := rfl
    rw [advance_cons (follow_value_of_literal literal opened), advance_cons comma, ih]

theorem advance_of_clause {property : String} (stage : Stage) (clause : Clause property s f)
    (goes : ∀ op, follow stage (.operator op) = some (.operator, opened)) :
    advance stage s = some (.ended true, opened) := by
  cases clause with
  | exact op values =>
    obtain ⟨k, t, rfl, other⟩ := Grammar.head_ne_asterisk values
    have listed := advance_of_values values opened
    rw [advance_cons (goes op)]
    rw [advance] at listed ⊢
    rwa [follow_operator_of_other other]
  | folded op values =>
    have star : follow (.operator, opened) .asterisk = some (.value, opened) := rfl
    rw [advance_cons (goes op), advance_cons star, advance_of_values values opened]

/-- The modes in which a part can begin. -/
def Part.Begins : Part → Mode → Prop
  | .group, mode => mode = .term ∨ mode = .property ∨ mode = .asterisk ∨ mode = .group
  | _, mode => mode = .term

/-- A part leads from where it can begin to the end of a term, and closes what it opens. -/
theorem advance_of_derives {part : Part} (derives : Derives part s f) :
    ∃ listed, ∀ mode opened, part.Begins mode →
      advance (mode, opened) s = some (.ended listed, opened) := by
  induction derives with
  | conjunction _ ih | term _ ih | property _ ih => exact ih
  | group _ ih =>
    obtain ⟨listed, leads⟩ := ih
    exact ⟨listed, fun mode opened begins => leads mode opened (Or.inl begins)⟩
  | or _ _ first second | and _ _ first second =>
    obtain ⟨one, before⟩ := first
    obtain ⟨other, after⟩ := second
    refine ⟨other, fun mode opened begins => ?_⟩
    rw [advance_of_leads (before mode opened begins)]
    exact after .term opened rfl
  | not _ ih =>
    obtain ⟨listed, leads⟩ := ih
    refine ⟨listed, fun mode opened begins => ?_⟩
    subst begins
    exact leads .term opened rfl
  | notGroup _ ih =>
    obtain ⟨listed, leads⟩ := ih
    refine ⟨listed, fun mode opened begins => ?_⟩
    rcases begins with rfl | rfl | rfl | rfl
    · exact leads .term opened (Or.inl rfl)
    · exact leads .group opened (Or.inr (Or.inr (Or.inr rfl)))
    · exact leads .group opened (Or.inr (Or.inr (Or.inr rfl)))
    · exact leads .group opened (Or.inr (Or.inr (Or.inr rfl)))
  | parentheses _ ih =>
    obtain ⟨listed, leads⟩ := ih
    refine ⟨false, fun mode opened begins => ?_⟩
    have opening : follow (mode, opened) .opening = some (.term, opened + 1) := by
      rcases begins with rfl | rfl | rfl | rfl <;> rfl
    rw [advance_cons opening, advance_of_leads (leads .term (opened + 1) rfl)]
    rfl
  | allElements inner =>
    refine ⟨true, fun mode opened begins => ?_⟩
    subst begins
    exact advance_of_clause (.asterisk, opened) inner fun _ => rfl
  | all _ ih =>
    obtain ⟨listed, leads⟩ := ih
    refine ⟨listed, fun mode opened begins => ?_⟩
    subst begins
    exact leads .asterisk opened (Or.inr (Or.inr (Or.inl rfl)))
  | any _ ih =>
    obtain ⟨listed, leads⟩ := ih
    refine ⟨listed, fun mode opened begins => ?_⟩
    subst begins
    exact leads .property opened (Or.inr (Or.inl rfl))
  | clause only =>
    refine ⟨true, fun mode opened begins => ?_⟩
    subst begins
    exact advance_of_clause (.property, opened) only fun _ => rfl

/-! ### From every stage there is a way to the end -/

/-- Tokens in front of a term that make a conjunction of it make one of every conjunction. -/
private theorem lead_conjunction {part : Part} (lead : List TokenKind)
    (terms : ∀ {s f}, Derives .term s f → ∃ g, Derives .conjunction (lead ++ s) g)
    (derives : Derives part s f) (same : part = .conjunction) :
    ∃ g, Derives .conjunction (lead ++ s) g := by
  induction derives with
  | term only => exact terms only
  | and _ right first =>
    obtain ⟨g, before⟩ := first same
    rw [← List.append_assoc]
    exact ⟨_, .and before right⟩
  | _ => cases same

/-- Tokens in front of a conjunction that make a disjunction of it make one of every
disjunction. -/
private theorem lead_disjunction {part : Part} (lead : List TokenKind)
    (conjunctions : ∀ {s f}, Derives .conjunction s f → ∃ g, Derives .disjunction (lead ++ s) g)
    (derives : Derives part s f) (same : part = .disjunction) :
    ∃ g, Derives .disjunction (lead ++ s) g := by
  induction derives with
  | conjunction only => exact conjunctions only
  | or _ right first =>
    obtain ⟨g, before⟩ := first same
    rw [← List.append_assoc]
    exact ⟨_, .or before right⟩
  | _ => cases same

/-- What can stand after a term: nothing, or a join and a filter. -/
inductive Rest : List TokenKind → Prop where
  | nothing : Rest []
  | and {s : List TokenKind} {f : Filter} (whole : Derives .disjunction s f) : Rest (.and :: s)
  | or {s : List TokenKind} {f : Filter} (whole : Derives .disjunction s f) : Rest (.or :: s)

theorem Rest.after_term {t : List TokenKind} (rest : Rest t) (term : Derives .term s f) :
    ∃ g, Derives .disjunction (s ++ t) g := by
  cases rest with
  | nothing =>
    rw [List.append_nil]
    exact ⟨f, .conjunction (.term term)⟩
  | @and t g whole =>
    have split : s ++ .and :: t = (s ++ [.and]) ++ t := by simp
    rw [split]
    refine lead_disjunction _ (fun conjunction => ?_) whole rfl
    obtain ⟨h, joined⟩ := lead_conjunction (s ++ [.and])
      (fun {u _} right => ⟨_, by simpa using Derives.and (.term term) right⟩) conjunction rfl
    exact ⟨h, .conjunction joined⟩
  | @or t g whole =>
    have split : s ++ .or :: t = (s ++ [.or]) ++ t := by simp
    rw [split]
    refine lead_disjunction _ (fun right => ?_) whole rfl
    exact ⟨_, by simpa using Derives.or (.conjunction (.term term)) right⟩

/-- The tokens with which the term of a mode can end. -/
def Mode.Ends : Mode → List TokenKind → Prop
  | .term, s => ∃ f, Derives .term s f
  | .property, s => ∀ name, ∃ f, Derives .property (.identifier name :: s) f
  | .asterisk, s => ∀ name, ∃ f, Derives .property (.identifier name :: .asterisk :: s) f
  | .group, s => ∃ f, Derives .group s f
  | .operator, s => ∀ property op, ∃ f, Clause property (.operator op :: s) f
  | .value, s => ∃ listed, Values s listed
  | .ended listed, s => s = [] ∨ listed = true ∧ ∃ t values, s = .comma :: t ∧ Values t values

/-- The tokens with which the innermost open group of a mode can end, but for its closing
parenthesis; outside of groups, the tokens with which the filter can. -/
def Mode.Closes (mode : Mode) (s : List TokenKind) : Prop :=
  ∃ front back, s = front ++ back ∧ mode.Ends front ∧ Rest back

/-- The tokens with which a filter can end after a stage. -/
def Completes (mode : Mode) : Nat → List TokenKind → Prop
  | 0, s => mode.Closes s
  | opened + 1, s =>
    ∃ inner outer, s = inner ++ .closing :: outer ∧ mode.Closes inner ∧
      Completes (.ended false) opened outer

section Completes
variable {mode next : Mode} {t : List TokenKind}

/-- What leads from one mode to another in a term does so whatever stands after the term. -/
theorem Mode.Closes.prepend (lead : List TokenKind) (closes : next.Closes t)
    (ends : ∀ s, next.Ends s → mode.Ends (lead ++ s)) : mode.Closes (lead ++ t) := by
  obtain ⟨front, back, rfl, ending, rest⟩ := closes
  exact ⟨lead ++ front, back, by rw [List.append_assoc], ends front ending, rest⟩

/-- What leads from one mode to another in a group does so whatever stands around the group. -/
theorem Completes.prepend (lead : List TokenKind) (completes : Completes next opened t)
    (closes : ∀ s, next.Closes s → mode.Closes (lead ++ s)) :
    Completes mode opened (lead ++ t) := by
  cases opened with
  | zero => exact closes t completes
  | succ n =>
    obtain ⟨inner, outer, rfl, closing, around⟩ := completes
    exact ⟨lead ++ inner, outer, by rw [List.append_assoc], closes inner closing, around⟩

theorem closes_ended (listed : Bool) : (Mode.ended listed).Closes [] :=
  ⟨[], [], rfl, Or.inl rfl, .nothing⟩

theorem closes_joined (listed : Bool) {k : TokenKind} (joins : k = .and ∨ k = .or)
    (whole : Derives .disjunction t f) : (Mode.ended listed).Closes (k :: t) := by
  rcases joins with rfl | rfl
  · exact ⟨[], _, rfl, Or.inl rfl, .and whole⟩
  · exact ⟨[], _, rfl, Or.inl rfl, .or whole⟩

theorem derives_of_closes (closes : Mode.term.Closes t) : ∃ f, Derives .disjunction t f := by
  obtain ⟨front, back, rfl, ⟨f, term⟩, rest⟩ := closes
  exact rest.after_term term

/-- Where a group can begin, its tokens end the term. -/
theorem ends_of_group (begins : Part.group.Begins mode) (group : Derives .group s f) :
    mode.Ends s := by
  rcases begins with rfl | rfl | rfl | rfl
  · exact ⟨f, .group group⟩
  · exact fun name => ⟨_, .any group⟩
  · exact fun name => ⟨_, .all group⟩
  · exact ⟨f, group⟩

/-- An open parenthesis is closed by the first parenthesis that closes more than is opened after
it, and the tokens up to there are a group. -/
theorem completes_opening (begins : Part.group.Begins mode)
    (completes : Completes .term (opened + 1) t) : Completes mode opened (.opening :: t) := by
  obtain ⟨inner, outer, rfl, closing, around⟩ := completes
  obtain ⟨f, whole⟩ := derives_of_closes closing
  have group := ends_of_group begins (.parentheses whole)
  have parted : TokenKind.opening :: (inner ++ .closing :: outer) =
      (.opening :: (inner ++ [.closing])) ++ outer := by simp
  rw [parted]
  refine around.prepend _ fun s closes => closes.prepend _ fun s ending => ?_
  rcases ending with rfl | ⟨impossible, -⟩
  · rwa [List.append_nil]
  · cases impossible

/-- A token within a term leads from what can come after it to what can come before it. -/
theorem Completes.within {k : TokenKind} (completes : Completes next opened t)
    (ends : ∀ s, next.Ends s → mode.Ends (k :: s)) : Completes mode opened (k :: t) :=
  completes.prepend [k] fun _ closes => closes.prepend [k] ends

theorem ends_value {k : TokenKind} {value : Option String} (literal : Literal k value)
    (ends : (Mode.ended true).Ends s) : Mode.value.Ends (k :: s) := by
  rcases ends with rfl | ⟨-, t, values, rfl, more⟩
  · exact ⟨_, .last literal⟩
  · exact ⟨_, .more literal more⟩

theorem ends_operator_value (ends : Mode.value.Ends s) : Mode.operator.Ends s := by
  obtain ⟨listed, values⟩ := ends
  exact fun property op => ⟨_, .exact op values⟩

theorem completes_afterValue {k : TokenKind} {after : Nat}
    (goes : afterValue opened k = some (next, after)) (completes : Completes next after t) :
    Completes .value opened (k :: t) := by
  obtain ⟨value, found, same⟩ := Option.map_eq_some_iff.mp goes
  cases same
  exact completes.within fun s ends => ends_value (Grammar.literal?_eq_some_iff.mp found) ends

/-- A token that can stand at a stage stands before whatever can come after it. -/
theorem completes_of_follow {k : TokenKind} {after : Nat}
    (goes : follow (mode, opened) k = some (next, after)) (completes : Completes next after t) :
    Completes mode opened (k :: t) := by
  have group (begins : Part.group.Begins mode) (same : (Mode.term, opened + 1) = (next, after)) :
      Completes mode opened (.opening :: t) := by
    cases same
    exact completes_opening begins completes
  cases mode with
  | term =>
    simp only [follow] at goes
    split at goes
    · cases goes
      exact completes.within fun s ⟨f, term⟩ => ⟨_, .not term⟩
    · exact group (Or.inl rfl) (Option.some.inj goes)
    · cases goes
      exact completes.within fun s ends => (ends _).imp fun f property => .property property
    · cases goes
  | property =>
    simp only [follow] at goes
    split at goes
    · cases goes
      exact completes.within fun s ⟨f, inner⟩ name => ⟨_, .any (.notGroup inner)⟩
    · exact group (Or.inr (Or.inl rfl)) (Option.some.inj goes)
    · cases goes
      exact completes.within fun s ends => ends
    · cases goes
      exact completes.within fun s ends name => (ends name _).imp fun f clause => .clause clause
    · cases goes
  | asterisk =>
    simp only [follow] at goes
    split at goes
    · cases goes
      exact completes.within fun s ⟨f, inner⟩ name => ⟨_, .all (.notGroup inner)⟩
    · exact group (Or.inr (Or.inr (Or.inl rfl))) (Option.some.inj goes)
    · cases goes
      exact completes.within fun s ends name =>
        (ends "" _).elim fun f clause => ⟨_, .allElements clause⟩
    · cases goes
  | group =>
    simp only [follow] at goes
    split at goes
    · cases goes
      exact completes.within fun s ⟨f, inner⟩ => ⟨_, .notGroup inner⟩
    · exact group (Or.inr (Or.inr (Or.inr rfl))) (Option.some.inj goes)
    · cases goes
  | operator =>
    simp only [follow] at goes
    split at goes
    · rename_i star
      cases goes
      subst star
      exact completes.within fun s ⟨listed, values⟩ property op => ⟨_, .folded op values⟩
    · have value := completes_afterValue goes completes
      exact value.prepend [] fun s closes =>
        closes.prepend [] fun s ends => ends_operator_value ends
  | value => exact completes_afterValue goes completes
  | ended listed =>
    simp only [follow] at goes
    split at goes
    · split at goes
      · rename_i more
        cases goes
        exact completes.within fun s ⟨values, found⟩ => Or.inr ⟨more, s, values, rfl, found⟩
      · cases goes
    · cases goes
      exact completes.prepend [.and] fun s closes =>
        (derives_of_closes closes).elim fun f whole => closes_joined listed (Or.inl rfl) whole
    · cases goes
      exact completes.prepend [.or] fun s closes =>
        (derives_of_closes closes).elim fun f whole => closes_joined listed (Or.inr rfl) whole
    · cases goes
      exact ⟨[], t, rfl, closes_ended listed, completes⟩
    · cases goes

theorem completes_of_advance {s : List TokenKind} {after : Nat}
    (leads : advance (mode, opened) s = some (next, after)) (completes : Completes next after t) :
    Completes mode opened (s ++ t) := by
  induction s generalizing mode opened with
  | nil =>
    cases leads
    exact completes
  | cons k s ih =>
    obtain ⟨⟨between, open_⟩, goes, leads⟩ := Option.bind_eq_some_iff.mp leads
    exact completes_of_follow goes (ih leads)

end Completes

/-- Every term can be ended. -/
theorem exists_ends (mode : Mode) : ∃ s, mode.Ends s := by
  have values : Values [.number "0"] [some "0"] := .last (.number "0")
  have clause (property : String) : Clause property [.operator .equal, .number "0"]
      (.clause property .equal [some "0"] false false) := .exact .equal values
  have property (name : String) := Derives.clause (clause name)
  have group := Derives.parentheses (.conjunction (.term (.property (property "x"))))
  cases mode with
  | term => exact ⟨_, _, .property (property "x")⟩
  | property => exact ⟨_, fun name => ⟨_, property name⟩⟩
  | asterisk => exact ⟨_, fun name => ⟨_, .allElements (clause "")⟩⟩
  | group => exact ⟨_, _, group⟩
  | operator => exact ⟨_, fun name op => ⟨_, .exact op values⟩⟩
  | value => exact ⟨_, _, values⟩
  | ended listed => exact ⟨[], Or.inl rfl⟩

/-- From every stage there is a way to the end: to end the term and to close every group. -/
theorem exists_completes (mode : Mode) (opened : Nat) : ∃ s, Completes mode opened s := by
  obtain ⟨front, ends⟩ := exists_ends mode
  have closes : mode.Closes front := ⟨front, [], by rw [List.append_nil], ends, .nothing⟩
  induction opened generalizing mode front with
  | zero => exact ⟨front, closes⟩
  | succ n ih =>
    obtain ⟨outer, around⟩ := ih (.ended false) [] (Or.inl rfl) (closes_ended false)
    exact ⟨front ++ .closing :: outer, front, outer, rfl, closes, around⟩

/-- A run of tokens is the beginning of a filter, perhaps all of it. -/
def Completable (s : List TokenKind) : Prop :=
  ∃ rest f, Derives .disjunction (s ++ rest) f

/-- The beginnings of filters are the runs of tokens that never leave the way. -/
theorem completable_iff : Completable s ↔ ∃ stage, advance (.term, 0) s = some stage := by
  constructor
  · rintro ⟨rest, f, derives⟩
    obtain ⟨listed, leads⟩ := advance_of_derives derives
    have whole := leads .term 0 rfl
    rw [advance_append] at whole
    obtain ⟨stage, before, -⟩ := Option.bind_eq_some_iff.mp whole
    exact ⟨stage, before⟩
  · rintro ⟨⟨mode, opened⟩, leads⟩
    obtain ⟨rest, completes⟩ := exists_completes mode opened
    obtain ⟨f, whole⟩ := derives_of_closes (completes_of_advance leads completes)
    exact ⟨rest, f, whole⟩

/-- The beginning of a filter is the beginning of a longer one too. -/
theorem Completable.longer (completable : Completable s) :
    ∃ rest f, rest ≠ [] ∧ Derives .disjunction (s ++ rest) f := by
  obtain ⟨rest, f, derives⟩ := completable
  have clause : Clause "x" [.operator .equal, .number "0"] _ := .exact .equal (.last (.number "0"))
  have longer := Derives.or derives (.term (.property (.clause clause)))
  rw [List.append_assoc] at longer
  exact ⟨_, _, by simp, longer⟩

end ListQuery.Filter
