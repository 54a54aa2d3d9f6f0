import ListQuery.Proofs.Filter.Respelling

/-! The filters that texts can say, and a text for each of them. What a filter needs is that its
properties are names and that its clauses have values; its shape, its operators, its negations and
its values are free, and only its height is limited. The text that is written for a filter opens no
more parentheses at a time than the filter has levels. -/

namespace ListQuery

namespace Filter

/-! ### Filters that can be said -/

/-- A clause on the elements of a collection themselves, which has no property and no negation. -/
def OnElements : Filter → Prop
  | clause property _ values negated _ => property = "" ∧ values ≠ [] ∧ negated = false
  | _ => False

/-- Properties are names and clauses have values. Only right below a quantifier over all elements a
clause may stand for the elements themselves. -/
def Sayable : Filter → Prop
  | clause property _ values _ _ => IsName property ∧ values ≠ []
  | collection property inner quantifier _ =>
    IsName property ∧ (inner.Sayable ∨ quantifier = .all ∧ inner.OnElements)
  | and left right _ | or left right _ => left.Sayable ∧ right.Sayable

theorem sayable_toggled {f : Filter} (change : Bool) : (f.toggled change).Sayable ↔ f.Sayable := by
  cases f <;> rfl

/-! ### What texts say can be said -/

theorem values_ne_nil {s : List TokenKind} {listed : List (Option String)}
    (values : Values s listed) : listed ≠ [] := by
  cases values <;> simp

theorem onElements_of_clause {s : List TokenKind} {f : Filter} (clause : Clause "" s f) :
    f.OnElements := by
  cases clause with
  | exact op values => exact ⟨rfl, values_ne_nil values, rfl⟩
  | folded op values => exact ⟨rfl, values_ne_nil values, rfl⟩

theorem sayable_of_clause {property : String} {s : List TokenKind} {f : Filter}
    (name : IsName property) (clause : Clause property s f) : f.Sayable := by
  cases clause with
  | exact op values => exact ⟨name, values_ne_nil values⟩
  | folded op values => exact ⟨name, values_ne_nil values⟩

/-- What tokens of some form derive can be said. -/
theorem sayable_of_derives {part : Part} {s : List TokenKind} {f : Filter}
    (derives : Derives part s f) (forms : ∀ k ∈ s, k.WellFormed) : f.Sayable := by
  induction derives with
  | conjunction _ ih | term _ ih | group _ ih | property _ ih => exact ih forms
  | or _ _ first second | and _ _ first second =>
    obtain ⟨before, after⟩ := List.forall_mem_append.mp forms
    exact ⟨first before, second (List.forall_mem_cons.mp after).2⟩
  | not _ ih | notGroup _ ih =>
    exact (sayable_toggled true).mpr (ih (List.forall_mem_cons.mp forms).2)
  | parentheses _ ih =>
    exact ih (List.forall_mem_append.mp (List.forall_mem_cons.mp forms).2).1
  | allElements inner =>
    have name : IsName _ := (List.forall_mem_cons.mp forms).1
    exact ⟨name, Or.inr ⟨rfl, onElements_of_clause inner⟩⟩
  | all _ ih =>
    obtain ⟨name, rest⟩ := List.forall_mem_cons.mp forms
    exact ⟨name, Or.inl (ih (List.forall_mem_cons.mp rest).2)⟩
  | any _ ih =>
    obtain ⟨name, rest⟩ := List.forall_mem_cons.mp forms
    exact ⟨name, Or.inl (ih rest)⟩
  | clause only => exact sayable_of_clause (List.forall_mem_cons.mp forms).1 only

/-! ### Filters as tokens -/

/-- A value as a token. -/
def literalKind : Option String → TokenKind
  | some text => .string (String.ofList (Text.doubleQuotes text.toList))
  | none => .identifier "null"

/-- Values with commas between them. -/
def valueKinds : List (Option String) → List TokenKind
  | [] => []
  | [value] => [literalKind value]
  | value :: later => literalKind value :: .comma :: valueKinds later

/-- An operator with its values. -/
def operation (op : Operator) (values : List (Option String)) (caseInsensitive : Bool) :
    List TokenKind :=
  .operator op :: ((if caseInsensitive then [.asterisk] else []) ++ valueKinds values)

/-- Tokens between parentheses, negated if asked for. -/
def enclosed (negated : Bool) (s : List TokenKind) : List TokenKind :=
  (if negated then [.exclamation] else []) ++ .opening :: (s ++ [.closing])

/-- An operand's tokens, between parentheses if asked for. -/
def operandKinds (wrapped negated : Bool) (s : List TokenKind) : List TokenKind :=
  if wrapped then enclosed negated s else s

/-- Whether the filter itself is negated. -/
def isNegated : Filter → Bool
  | clause _ _ _ negated _ | collection _ _ _ negated | and _ _ negated | or _ _ negated => negated

/-- Whether the filter is a disjunction. -/
def isOr : Filter → Bool
  | or .. => true
  | _ => false

/-- Whether the filter is a clause without a property. -/
def isBare : Filter → Bool
  | clause property .. => property.isEmpty
  | _ => false

/-- The tokens of a filter without its own negation. Parentheses stand around right operands,
negated left operands, disjunctions on the left of a conjunction, and what a quantifier is over. -/
def plainKinds : Filter → List TokenKind
  | clause property op values _ caseInsensitive =>
    (if property.isEmpty then [] else [.identifier property]) ++ operation op values caseInsensitive
  | collection property inner quantifier _ =>
    .identifier property :: ((if quantifier = .all then [.asterisk] else []) ++
      if inner.isBare then inner.plainKinds else enclosed inner.isNegated inner.plainKinds)
  | and left right _ =>
    operandKinds (left.isNegated || left.isOr) left.isNegated left.plainKinds ++
      .and :: enclosed right.isNegated right.plainKinds
  | or left right _ =>
    operandKinds left.isNegated left.isNegated left.plainKinds ++
      .or :: enclosed right.isNegated right.plainKinds

/-- The tokens of a filter. -/
def printedKinds (f : Filter) : List TokenKind :=
  operandKinds f.isNegated f.isNegated f.plainKinds

/-! ### A text for every filter that can be said -/

/-- Tokens that derive a filter as a part, open so many parentheses at a time, and have the forms of
their kinds. -/
structure Prints (part : Part) (groups : Nat) (s : List TokenKind) (f : Filter) : Prop where
  derives : Derives part s f
  few : OpenAtMost groups s
  forms : ∀ k ∈ s, k.WellFormed

section Prints
variable {groups : Nat} {s t : List TokenKind} {f g : Filter}

theorem forms_cons {k : TokenKind} (form : k.WellFormed) (forms : ∀ j ∈ s, j.WellFormed) :
    ∀ j ∈ k :: s, j.WellFormed :=
  List.forall_mem_cons.mpr ⟨form, forms⟩

theorem OpenAtMost.mono {limit more : Nat} (few : OpenAtMost limit s) (most : limit ≤ more) :
    OpenAtMost more s := by
  intro front leads
  have counted := few front leads
  omega

theorem isName_null : IsName "null" := by
  decide +kernel

theorem paired_doubleQuotes (text : List Char) : Paired (Text.doubleQuotes text) := by
  induction text with
  | nil => exact .nil
  | cons c rest ih =>
    by_cases quote : c = '\''
    · rw [Text.doubleQuotes, if_pos quote]
      exact .pair ih
    · rw [Text.doubleQuotes, if_neg quote]
      exact .char quote ih

theorem literal_literalKind (value : Option String) : Literal (literalKind value) value := by
  cases value with
  | none => exact .wordNull (by decide)
  | some text =>
    have literal := Literal.string (String.ofList (Text.doubleQuotes text.toList))
    rwa [String.toList_ofList, Text.undoubleQuotes_doubleQuotes, String.ofList_toList] at literal

theorem wellFormed_literalKind (value : Option String) : (literalKind value).WellFormed := by
  cases value with
  | none => exact isName_null
  | some text =>
    show Paired (String.ofList (Text.doubleQuotes text.toList)).toList
    rw [String.toList_ofList]
    exact paired_doubleQuotes text.toList

theorem values_valueKinds {values : List (Option String)} (some : values ≠ []) :
    Values (valueKinds values) values ∧ ∀ k ∈ valueKinds values, k.WellFormed := by
  fun_induction valueKinds values with
  | case1 => exact absurd rfl some
  | case2 value =>
    exact ⟨.last (literal_literalKind value),
      List.forall_mem_singleton.mpr (wellFormed_literalKind value)⟩
  | case3 value later more ih =>
    obtain ⟨derived, forms⟩ := ih more
    exact ⟨.more (literal_literalKind value) derived,
      forms_cons (wellFormed_literalKind value) (forms_cons trivial forms)⟩

theorem clause_operation (property : String) (op : Operator) {values : List (Option String)}
    (some : values ≠ []) (caseInsensitive : Bool) :
    Clause property (operation op values caseInsensitive)
        (.clause property op values false caseInsensitive) ∧
      ∀ k ∈ operation op values caseInsensitive, k.WellFormed := by
  obtain ⟨derived, forms⟩ := values_valueKinds some
  cases caseInsensitive with
  | false => exact ⟨.exact op derived, forms_cons trivial forms⟩
  | true => exact ⟨.folded op derived, forms_cons trivial (forms_cons trivial forms)⟩

theorem Prints.enclosed (prints : Prints .disjunction groups s (f.toggled f.isNegated)) :
    Prints .group (groups + 1) (enclosed f.isNegated s) f := by
  have forms : ∀ k ∈ TokenKind.opening :: (s ++ [.closing]), k.WellFormed := by
    refine forms_cons trivial (List.forall_mem_append.mpr ⟨prints.forms, ?_⟩)
    exact List.forall_mem_singleton.mpr trivial
  have group := Derives.parentheses prints.derives
  have few := (openAtMost_parentheses prints.derives.balanced).mpr prints.few
  cases negated : f.isNegated with
  | false =>
    rw [negated, toggled_false] at group
    exact ⟨group, few, forms⟩
  | true =>
    rw [negated] at group
    have whole := Derives.notGroup group
    rw [toggled_toggled, Bool.xor_self, toggled_false] at whole
    exact ⟨whole, few.cons (by simp [Plain]), forms_cons trivial forms⟩

theorem Prints.term (prints : Prints .group groups s f) : Prints .term groups s f where
  derives := .group prints.derives
  few := prints.few
  forms := prints.forms

theorem Prints.conjunction (prints : Prints .term groups s f) : Prints .conjunction groups s f where
  derives := .term prints.derives
  few := prints.few
  forms := prints.forms

theorem Prints.disjunction (prints : Prints .conjunction groups s f) :
    Prints .disjunction groups s f where
  derives := .conjunction prints.derives
  few := prints.few
  forms := prints.forms

theorem Prints.mono {part : Part} {more : Nat} (prints : Prints part groups s f)
    (most : groups ≤ more) : Prints part more s f where
  derives := prints.derives
  few := prints.few.mono most
  forms := prints.forms

/-- A property with what follows it. -/
theorem prints_property {property : String} (name : IsName property)
    (derives : Derives .property (.identifier property :: s) f) (few : OpenAtMost groups s)
    (forms : ∀ k ∈ s, k.WellFormed) : Prints .term groups (.identifier property :: s) f where
  derives := .property derives
  few := few.cons (by simp [Plain])
  forms := forms_cons name forms

/-- Two parts with a joining token between them. -/
theorem Prints.joined {joins : TokenKind} {join : Filter → Filter → Bool → Filter}
    {whole operand : Part} (shape : Grammar.Joins joins join whole operand)
    (left : Prints whole groups s f) (right : Prints operand groups t g)
    (form : joins.WellFormed) : Prints whole groups (s ++ joins :: t) (join f g false) where
  derives := shape.pair left.derives right.derives
  few := (openAtMost_joined shape.plain left.derives.balanced).mpr ⟨left.few, right.few⟩
  forms := List.forall_mem_append.mpr ⟨left.forms, forms_cons form right.forms⟩

/-- An operand without a negation of its own needs no parentheses. -/
theorem prints_operand {part : Part} {wrapped : Bool}
    (lift : ∀ {t : List TokenKind}, Prints .group (groups + 1) t f → Prints part (groups + 1) t f)
    (whole : Prints .disjunction groups s (f.toggled f.isNegated))
    (bare : wrapped = false → Prints part groups s f) :
    Prints part (groups + 1) (operandKinds wrapped f.isNegated s) f := by
  cases wrapped with
  | true => exact lift whole.enclosed
  | false => exact (bare rfl).mono (Nat.le_succ groups)

end Prints

theorem one_le_height (f : Filter) : 1 ≤ f.height := by
  cases f <;> simp [height]

/-- There is room for parentheses around a filter that keeps to a limit. -/
theorem exists_succ_of_height_le {f : Filter} {groups : Nat} (low : f.height ≤ groups) :
    ∃ n, groups = n + 1 := by
  have filled := one_le_height f
  exact Nat.exists_eq_succ_of_ne_zero (by omega)

theorem isBare_of_onElements {f : Filter} (elements : f.OnElements) : f.isBare = true := by
  cases f with
  | clause property op values negated caseInsensitive =>
    obtain ⟨rfl, -⟩ := elements
    rfl
  | _ => exact elements.elim

theorem isBare_of_sayable {f : Filter} (sayable : f.Sayable) : f.isBare = false := by
  cases f with
  | clause property op values negated caseInsensitive =>
    obtain ⟨⟨⟨c, rest, spelled, -⟩, -⟩, -⟩ := sayable
    cases empty : property.isEmpty with
    | false => exact empty
    | true =>
      rw [String.isEmpty_iff.mp empty] at spelled
      cases spelled
  | _ => rfl

/-- A collection is written as its property, an asterisk for all elements, and what it is over. -/
theorem prints_collection {property : String} {inner : Filter} {quantifier : Quantifier}
    {groups : Nat} (name : IsName property)
    (inside : quantifier = .all ∧ inner.OnElements ∨
      inner.isBare = false ∧ Prints .group groups (enclosed inner.isNegated inner.plainKinds) inner)
    (negated : Bool) :
    Prints .term groups (Filter.collection property inner quantifier negated).plainKinds
      (.collection property inner quantifier false) := by
  rcases inside with ⟨rfl, elements⟩ | ⟨other, group⟩
  · have bare : inner.isBare = true := isBare_of_onElements elements
    cases inner with
    | clause own op values ownNegated caseInsensitive =>
      obtain ⟨rfl, some, rfl⟩ := elements
      obtain ⟨derived, forms⟩ := clause_operation "" op some caseInsensitive
      have few : OpenAtMost groups (operation op values caseInsensitive) :=
        openAtMost_of_plain derived.plain
      exact prints_property name (.allElements derived) (few.cons (by simp [Plain]))
        (forms_cons trivial forms)
    | _ => cases bare
  · cases quantifier with
    | any =>
      have prints := prints_property name (.any group.derives) group.few group.forms
      simpa [plainKinds, other] using prints
    | all =>
      have few : OpenAtMost groups (.asterisk :: enclosed inner.isNegated inner.plainKinds) :=
        group.few.cons (by simp [Plain])
      have prints := prints_property name (.all group.derives) few
        (forms_cons trivial group.forms)
      simpa [plainKinds, other] using prints

/-- A filter that can be said is derived from its tokens, up to its own negation. -/
theorem prints_plainKinds {f : Filter} (sayable : f.Sayable) {groups : Nat}
    (low : f.height ≤ groups + 1) :
    (f.isOr = false → Prints .conjunction groups f.plainKinds (f.toggled f.isNegated)) ∧
      Prints .disjunction groups f.plainKinds (f.toggled f.isNegated) := by
  induction f generalizing groups with
  | clause property op values negated caseInsensitive =>
    have named : property.isEmpty = false := isBare_of_sayable sayable
    obtain ⟨name, some⟩ := sayable
    obtain ⟨derived, forms⟩ := clause_operation property op some caseInsensitive
    have few : OpenAtMost groups (operation op values caseInsensitive) :=
      openAtMost_of_plain derived.plain
    have prints := (prints_property name (.clause derived) few forms).conjunction
    simp only [plainKinds, named, toggled, isNegated, Bool.xor_self]
    exact ⟨fun _ => prints, prints.disjunction⟩
  | collection property inner quantifier negated ih =>
    obtain ⟨name, inside⟩ := sayable
    have inner_low : inner.height ≤ groups := Nat.le_of_succ_le_succ low
    obtain ⟨n, rfl⟩ := exists_succ_of_height_le inner_low
    have quantified := inside.symm.imp_right fun said =>
      And.intro (isBare_of_sayable said) (ih said inner_low).2.enclosed
    have prints := (prints_collection name quantified negated).conjunction
    simp only [toggled, isNegated, Bool.xor_self]
    exact ⟨fun _ => prints, prints.disjunction⟩
  | and left right negated ihLeft ihRight =>
    obtain ⟨left_low, right_low⟩ := Nat.max_le.mp (Nat.le_of_succ_le_succ low)
    obtain ⟨n, rfl⟩ := exists_succ_of_height_le left_low
    obtain ⟨alone, whole⟩ := ihLeft sayable.1 left_low
    have first : Prints .conjunction (n + 1)
        (operandKinds (left.isNegated || left.isOr) left.isNegated left.plainKinds) left := by
      refine prints_operand (fun group => group.term.conjunction) whole fun plain => ?_
      obtain ⟨positive, other⟩ := Bool.or_eq_false_iff.mp plain
      have prints := alone other
      rwa [positive, toggled_false] at prints
    have second := (ihRight sayable.2 right_low).2.enclosed
    have prints := first.joined Grammar.joins_and second.term trivial
    simp only [plainKinds, toggled, isNegated, Bool.xor_self]
    exact ⟨fun _ => prints, prints.disjunction⟩
  | or left right negated ihLeft ihRight =>
    obtain ⟨left_low, right_low⟩ := Nat.max_le.mp (Nat.le_of_succ_le_succ low)
    obtain ⟨n, rfl⟩ := exists_succ_of_height_le left_low
    obtain ⟨-, whole⟩ := ihLeft sayable.1 left_low
    have first : Prints .disjunction (n + 1)
        (operandKinds left.isNegated left.isNegated left.plainKinds) left := by
      refine prints_operand (fun group => group.term.conjunction.disjunction) whole ?_
      intro positive
      rwa [positive, toggled_false] at whole
    have second := (ihRight sayable.2 right_low).2.enclosed
    have prints := first.joined Grammar.joins_or second.term.conjunction trivial
    simp only [plainKinds, toggled, isNegated, Bool.xor_self]
    exact ⟨by simp [isOr], prints⟩

theorem prints_printedKinds {f : Filter} (sayable : f.Sayable) {groups : Nat}
    (low : f.height ≤ groups + 1) : Prints .disjunction (groups + 1) f.printedKinds f := by
  obtain ⟨-, whole⟩ := prints_plainKinds sayable low
  refine prints_operand (fun group => group.term.conjunction.disjunction) whole fun positive => ?_
  rwa [positive, toggled_false] at whole

/-! ### Tokens as texts -/

/-- One way to write a token. -/
def TokenKind.spelled : TokenKind → List Char
  | identifier name => name.toList
  | string inner => '\'' :: (inner.toList ++ ['\''])
  | number numeral => numeral.toList
  | operator op => op.symbol.toList
  | equalsSign => ['=']
  | comma => [',']
  | opening => ['(']
  | closing => [')']
  | exclamation => ['!']
  | asterisk => ['*']
  | and => ['&']
  | or => ['|']
  | illegal c => [c]
  | unterminated => ['\'']

theorem spells_spelled (k : TokenKind) : Spells k k.spelled := by
  cases k <;> constructor

/-- Tokens with a blank before each. -/
def spacedText (s : List TokenKind) : List Char :=
  s.flatMap fun k => ' ' :: k.spelled

theorem spaced_spacedText (s : List TokenKind) : Spaced s (spacedText s) := by
  induction s with
  | nil => exact .nil rfl
  | cons k s ih =>
    refine .cons [' '] (by decide) (spells_spelled k) ?_ ih
    cases s with
    | nil => exact nofun
    | cons next s => simp [Text.isBlank]

/-- A text for a filter. -/
def printed (f : Filter) : String :=
  String.ofList (spacedText f.printedKinds)

theorem textKinds_printed {f : Filter} (forms : ∀ k ∈ f.printedKinds, k.WellFormed) :
    textKinds f.printed = f.printedKinds := by
  have spaced : Spaced f.printedKinds f.printed.toList := by
    rw [printed, String.toList_ofList]
    exact spaced_spacedText f.printedKinds
  exact (tokenize_of_spaced spaced forms).2

/-- Texts say exactly the filters that can be said and keep to the limit on height; and the text
that is written for such a filter, with parentheses around right operands, negated parts and what
quantifiers are over, keeps to the limit on open parentheses and says the filter. -/
theorem texts_say_exactly_sayable (node : Filter) :
    ((∃ text, parse text = .ok (some node)) ↔ node.height ≤ maxDepth ∧ node.Sayable) ∧
      (node.height ≤ maxDepth → node.Sayable →
        OpenAtMost maxDepth (textKinds node.printed) ∧ parse node.printed = .ok (some node)) := by
  have writes : node.height ≤ maxDepth → node.Sayable →
      OpenAtMost maxDepth (textKinds node.printed) ∧ parse node.printed = .ok (some node) := by
    intro low sayable
    have prints : Prints .disjunction maxDepth node.printedKinds node :=
      prints_printedKinds sayable low
    have read := textKinds_printed prints.forms
    have few : OpenAtMost maxDepth (textKinds node.printed) := read ▸ prints.few
    exact ⟨few, parse_of_derives read prints.derives low prints.few⟩
  refine ⟨⟨?_, ?_⟩, writes⟩
  · rintro ⟨text, parsed⟩
    obtain ⟨derives, low, -⟩ := parse_eq_some_iff.mp parsed
    refine ⟨low, sayable_of_derives derives fun k among => ?_⟩
    obtain ⟨token, listed, rfl⟩ := List.mem_map.mp among
    exact wellFormed_of_mem_tokensFrom listed (derives.legal _ among)
  · rintro ⟨low, sayable⟩
    exact ⟨node.printed, (writes low sayable).2⟩

/-- A negated disjunction on the left of a conjunction, with a negated clause, values with quotes
and without characters, a null, and collections with and without a property inside. -/
def branchyFilter : Filter :=
  .and
    (.or (.clause "a.b" .equal [some "it's", none] true true)
      (.collection "tags" (.clause "" .contains [some ""] false false) .all true) true)
    (.collection "null" (.collection "true" (.clause "x" .oneOf [none] true false) .any true) .all
      false) false

theorem branchyFilter_is_said :
    branchyFilter.height ≤ maxDepth ∧ branchyFilter.Sayable ∧
      OpenAtMost maxDepth (textKinds branchyFilter.printed) ∧
      parse branchyFilter.printed = .ok (some branchyFilter) := by
  have low : branchyFilter.height ≤ maxDepth := by decide
  have names : IsName "a.b" ∧ IsName "tags" ∧ IsName "true" ∧ IsName "x" := by
    decide +kernel
  have sayable : branchyFilter.Sayable := by
    obtain ⟨dotted, tags, word, letter⟩ := names
    refine ⟨⟨⟨dotted, by simp⟩, ⟨tags, Or.inr ⟨rfl, rfl, by simp, rfl⟩⟩⟩, isName_null, Or.inl ?_⟩
    exact ⟨word, Or.inl ⟨letter, by simp⟩⟩
  exact ⟨low, sayable, (texts_say_exactly_sayable branchyFilter).2 low sayable⟩

end Filter

end ListQuery
