import ListQuery.Filter.Grammar

/-! The grammar of filters as derivations. A derivation ties a run of token kinds to the filter
that it stands for; where the tokens stand plays no part. Derivations know no limits. How many
parentheses are open at a time is said of the kinds alone, and the height of the filter alone. -/

namespace ListQuery.Filter

/-- The kinds of tokens. -/
def kinds (tokens : List Token) : List TokenKind :=
  tokens.map Token.kind

theorem kinds_cons (token : Token) (tokens : List Token) :
    kinds (token :: tokens) = token.kind :: kinds tokens :=
  rfl

theorem kinds_append (front back : List Token) :
    kinds (front ++ back) = kinds front ++ kinds back :=
  List.map_append

theorem kinds_eq_cons {tokens : List Token} {k : TokenKind} {s : List TokenKind}
    (same : kinds tokens = k :: s) :
    ∃ token more, tokens = token :: more ∧ token.kind = k ∧ kinds more = s :=
  List.map_eq_cons_iff.mp same

theorem kinds_eq_append {tokens : List Token} {s t : List TokenKind}
    (same : kinds tokens = s ++ t) :
    ∃ front back, tokens = front ++ back ∧ kinds front = s ∧ kinds back = t :=
  List.map_eq_append_iff.mp same

theorem kinds_eq_joined {tokens : List Token} {s t : List TokenKind} {k : TokenKind}
    (same : kinds tokens = s ++ k :: t) :
    ∃ front token more, tokens = front ++ token :: more ∧
      kinds front = s ∧ token.kind = k ∧ kinds more = t := by
  obtain ⟨front, back, rfl, before, after⟩ := kinds_eq_append same
  obtain ⟨token, more, rfl, head, after⟩ := kinds_eq_cons after
  exact ⟨front, token, more, rfl, before, head, after⟩

/-- A literal and its value, of which `none` is null. -/
inductive Literal : TokenKind → Option String → Prop where
  | string (inner : String) :
    Literal (.string inner) (some (String.ofList (Text.undoubleQuotes inner.toList)))
  | number (numeral : String) : Literal (.number numeral) (some numeral)
  | wordTrue {name : String} (word : Text.sameIgnoringCase name "true" = true) :
    Literal (.identifier name) (some "true")
  | wordFalse {name : String} (word : Text.sameIgnoringCase name "false" = true) :
    Literal (.identifier name) (some "false")
  | wordNull {name : String} (word : Text.sameIgnoringCase name "null" = true) :
    Literal (.identifier name) none

/-- One or more literals between commas. -/
inductive Values : List TokenKind → List (Option String) → Prop where
  | last {k : TokenKind} {value : Option String} (literal : Literal k value) : Values [k] [value]
  | more {k : TokenKind} {value : Option String} {s : List TokenKind} {later : List (Option String)}
      (literal : Literal k value) (values : Values s later) :
    Values (k :: .comma :: s) (value :: later)

/-- An operator with its values, for a property. An asterisk makes it ignore case. -/
inductive Clause (property : String) : List TokenKind → Filter → Prop where
  | exact {s : List TokenKind} {listed : List (Option String)} (op : Operator)
      (values : Values s listed) :
    Clause property (.operator op :: s) (.clause property op listed false false)
  | folded {s : List TokenKind} {listed : List (Option String)} (op : Operator)
      (values : Values s listed) :
    Clause property (.operator op :: .asterisk :: s) (.clause property op listed false true)

/-- The parts that a filter is made of. -/
inductive Part where
  | disjunction
  | conjunction
  | term
  | group
  | property

/-- What a run of token kinds stands for as a part of a filter. -/
inductive Derives : Part → List TokenKind → Filter → Prop where
  | conjunction {s : List TokenKind} {f : Filter} (only : Derives .conjunction s f) :
    Derives .disjunction s f
  | or {s t : List TokenKind} {f g : Filter} (left : Derives .disjunction s f)
      (right : Derives .conjunction t g) : Derives .disjunction (s ++ .or :: t) (.or f g false)
  | term {s : List TokenKind} {f : Filter} (only : Derives .term s f) : Derives .conjunction s f
  | and {s t : List TokenKind} {f g : Filter} (left : Derives .conjunction s f)
      (right : Derives .term t g) : Derives .conjunction (s ++ .and :: t) (.and f g false)
  | not {s : List TokenKind} {f : Filter} (inner : Derives .term s f) :
    Derives .term (.exclamation :: s) (f.toggled true)
  | group {s : List TokenKind} {f : Filter} (only : Derives .group s f) : Derives .term s f
  | property {s : List TokenKind} {f : Filter} (only : Derives .property s f) : Derives .term s f
  | notGroup {s : List TokenKind} {f : Filter} (inner : Derives .group s f) :
    Derives .group (.exclamation :: s) (f.toggled true)
  | parentheses {s : List TokenKind} {f : Filter} (inner : Derives .disjunction s f) :
    Derives .group (.opening :: (s ++ [.closing])) f
  | allElements {name : String} {s : List TokenKind} {f : Filter} (inner : Clause "" s f) :
    Derives .property (.identifier name :: .asterisk :: s) (.collection name f .all false)
  | all {name : String} {s : List TokenKind} {f : Filter} (inner : Derives .group s f) :
    Derives .property (.identifier name :: .asterisk :: s) (.collection name f .all false)
  | any {name : String} {s : List TokenKind} {f : Filter} (inner : Derives .group s f) :
    Derives .property (.identifier name :: s) (.collection name f .any false)
  | clause {name : String} {s : List TokenKind} {f : Filter} (only : Clause name s f) :
    Derives .property (.identifier name :: s) f

/-! ### Open parentheses -/

/-- At no point more than `limit` parentheses are open. -/
def OpenAtMost (limit : Nat) (s : List TokenKind) : Prop :=
  ∀ front, front <+: s → front.count .opening ≤ front.count .closing + limit

/-- The parentheses of a run are closed again. -/
def Balanced (s : List TokenKind) : Prop :=
  s.count .opening = s.count .closing

/-- The kinds that open and close nothing. -/
def Plain (k : TokenKind) : Prop :=
  k ≠ .opening ∧ k ≠ .closing

theorem Literal.plain {k : TokenKind} {value : Option String} (literal : Literal k value) :
    Plain k := by
  cases literal <;> simp [Plain]

/-- A part of a joined run ends in the first run or in the second. -/
private theorem prefix_cases {front s t : List TokenKind} (leads : front <+: s ++ t) :
    front <+: s ∨ ∃ rest, rest <+: t ∧ front = s ++ rest := by
  rcases List.prefix_or_prefix_of_prefix leads (List.prefix_append s t) with within | ⟨rest, rfl⟩
  · exact Or.inl within
  · exact Or.inr ⟨rest, (List.prefix_append_right_inj s).mp leads, rfl⟩

section Open
variable {limit : Nat} {k : TokenKind} {s t : List TokenKind}

/-- No more parentheses are open than there are tokens. -/
theorem openAtMost_of_length (short : s.length ≤ limit) : OpenAtMost limit s := by
  intro front leads
  have counted : front.count .opening ≤ front.length := List.count_le_length
  have shorter := leads.length_le
  omega

theorem openAtMost_cons_plain (plain : Plain k) :
    OpenAtMost limit (k :: s) ↔ OpenAtMost limit s := by
  constructor
  · intro kept front leads
    have counted := kept (k :: front) ((List.prefix_cons_inj k).mpr leads)
    rwa [List.count_cons_of_ne plain.1, List.count_cons_of_ne plain.2] at counted
  · intro kept front leads
    rcases List.prefix_cons_iff.mp leads with rfl | ⟨rest, rfl, follows⟩
    · simp
    · rw [List.count_cons_of_ne plain.1, List.count_cons_of_ne plain.2]
      exact kept rest follows

private theorem opening_ne_closing : TokenKind.opening ≠ .closing := nofun

theorem OpenAtMost.cons (few : OpenAtMost limit s) (plain : Plain k) : OpenAtMost limit (k :: s) :=
  (openAtMost_cons_plain plain).mpr few

theorem OpenAtMost.of_cons (few : OpenAtMost limit (k :: s)) (plain : Plain k) :
    OpenAtMost limit s :=
  (openAtMost_cons_plain plain).mp few

theorem not_openAtMost_zero_opening : ¬ OpenAtMost 0 (.opening :: s) := by
  intro kept
  have counted := kept [.opening] (List.prefix_append [TokenKind.opening] s)
  simp at counted

theorem openAtMost_succ_opening :
    OpenAtMost (limit + 1) (.opening :: s) ↔ OpenAtMost limit s := by
  constructor
  · intro kept front leads
    have counted := kept (.opening :: front) ((List.prefix_cons_inj TokenKind.opening).mpr leads)
    rw [List.count_cons_self, List.count_cons_of_ne opening_ne_closing] at counted
    omega
  · intro kept front leads
    rcases List.prefix_cons_iff.mp leads with rfl | ⟨rest, rfl, follows⟩
    · simp
    · have counted := kept rest follows
      rw [List.count_cons_self, List.count_cons_of_ne opening_ne_closing]
      omega

/-- After parentheses that are closed, counting begins anew. -/
theorem openAtMost_append (balanced : Balanced s) :
    OpenAtMost limit (s ++ t) ↔ OpenAtMost limit s ∧ OpenAtMost limit t := by
  constructor
  · intro kept
    refine ⟨fun front leads => kept front (leads.trans (List.prefix_append s t)), ?_⟩
    intro front leads
    have counted := kept (s ++ front) ((List.prefix_append_right_inj s).mpr leads)
    rw [List.count_append, List.count_append, balanced] at counted
    omega
  · rintro ⟨first, second⟩ front leads
    rcases prefix_cases leads with within | ⟨rest, follows, rfl⟩
    · exact first front within
    · have counted := second rest follows
      rw [List.count_append, List.count_append, balanced]
      omega

theorem openAtMost_closing : OpenAtMost limit [.closing] := by
  intro front leads
  rcases List.prefix_cons_iff.mp leads with rfl | ⟨rest, rfl, follows⟩
  · simp
  · rw [List.prefix_nil.mp follows]
    simp

/-- What opens and closes nothing makes no difference, wherever it stands. -/
theorem openAtMost_insert (plain : Plain k) :
    OpenAtMost limit (s ++ k :: t) ↔ OpenAtMost limit (s ++ t) := by
  constructor
  · intro kept front leads
    rcases prefix_cases leads with within | ⟨rest, follows, rfl⟩
    · exact kept front (within.trans (List.prefix_append s _))
    · have counted := kept (s ++ k :: rest)
        ((List.prefix_append_right_inj s).mpr ((List.prefix_cons_inj k).mpr follows))
      rw [List.count_append, List.count_append, List.count_cons_of_ne plain.1,
        List.count_cons_of_ne plain.2] at counted
      rwa [List.count_append, List.count_append]
  · intro kept front leads
    rcases prefix_cases leads with within | ⟨later, follows, rfl⟩
    · exact kept front (within.trans (List.prefix_append s _))
    · rcases List.prefix_cons_iff.mp follows with rfl | ⟨rest, rfl, after⟩
      · exact kept _ (by rw [List.append_nil]; exact List.prefix_append s t)
      · have counted := kept (s ++ rest) ((List.prefix_append_right_inj s).mpr after)
        rw [List.count_append, List.count_append] at counted
        rwa [List.count_append, List.count_append, List.count_cons_of_ne plain.1,
          List.count_cons_of_ne plain.2]

theorem openAtMost_of_plain (plain : ∀ k ∈ s, Plain k) : OpenAtMost limit s := by
  intro front leads
  have none : front.count .opening = 0 :=
    List.count_eq_zero.mpr fun among => (plain _ (leads.subset among)).1 rfl
  omega

theorem balanced_of_plain (plain : ∀ k ∈ s, Plain k) : Balanced s := by
  have opening : s.count .opening = 0 :=
    List.count_eq_zero.mpr fun among => (plain _ among).1 rfl
  have closing : s.count .closing = 0 :=
    List.count_eq_zero.mpr fun among => (plain _ among).2 rfl
  exact opening.trans closing.symm

theorem Balanced.cons (balanced : Balanced s) (plain : Plain k) : Balanced (k :: s) := by
  rw [Balanced, List.count_cons_of_ne plain.1, List.count_cons_of_ne plain.2]
  exact balanced

theorem Balanced.append (first : Balanced s) (second : Balanced t) : Balanced (s ++ t) := by
  rw [Balanced, List.count_append, List.count_append, first, second]

end Open

/-! ### The parentheses of derivations -/

/-- What holds of literals and commas holds of every token between values. -/
theorem Values.forall_mem {test : TokenKind → Prop} {s : List TokenKind}
    {listed : List (Option String)} (values : Values s listed)
    (literals : ∀ {k value}, Literal k value → test k) (comma : test .comma) : ∀ k ∈ s, test k := by
  induction values with
  | last literal => exact List.forall_mem_singleton.mpr (literals literal)
  | more literal values ih =>
    exact List.forall_mem_cons.mpr ⟨literals literal, List.forall_mem_cons.mpr ⟨comma, ih⟩⟩

/-- What holds of literals, commas, operators and asterisks holds of every token of a clause. -/
theorem Clause.forall_mem {test : TokenKind → Prop} {property : String} {s : List TokenKind}
    {f : Filter} (clause : Clause property s f) (literals : ∀ {k value}, Literal k value → test k)
    (comma : test .comma) (operator : ∀ op, test (.operator op)) (asterisk : test .asterisk) :
    ∀ k ∈ s, test k := by
  cases clause with
  | exact op values =>
    have listed := values.forall_mem literals comma
    exact List.forall_mem_cons.mpr ⟨operator op, listed⟩
  | folded op values =>
    have listed := values.forall_mem literals comma
    exact List.forall_mem_cons.mpr ⟨operator op, List.forall_mem_cons.mpr ⟨asterisk, listed⟩⟩

theorem Clause.plain {property : String} {s : List TokenKind} {f : Filter}
    (clause : Clause property s f) : ∀ k ∈ s, Plain k :=
  clause.forall_mem Literal.plain (by simp [Plain]) (by simp [Plain]) (by simp [Plain])

/-- Every part of a filter closes the parentheses that it opens. -/
theorem Derives.balanced {part : Part} {s : List TokenKind} {f : Filter}
    (derives : Derives part s f) : Balanced s := by
  induction derives with
  | conjunction _ ih | term _ ih | group _ ih | property _ ih => exact ih
  | or _ _ first second | and _ _ first second =>
    exact first.append (second.cons (by simp [Plain]))
  | not _ ih | notGroup _ ih | any _ ih => exact ih.cons (by simp [Plain])
  | parentheses _ ih =>
    rw [Balanced, List.count_cons_self, List.count_cons_of_ne opening_ne_closing,
      List.count_append, List.count_append, ih]
    rfl
  | all _ ih =>
    exact (ih.cons (k := .asterisk) (by simp [Plain])).cons (by simp [Plain])
  | allElements inner =>
    have elements := (balanced_of_plain inner.plain).cons (k := .asterisk) (by simp [Plain])
    exact elements.cons (by simp [Plain])
  | clause only =>
    exact (balanced_of_plain only.plain).cons (by simp [Plain])

/-- A group opens one parenthesis more than what stands in it. -/
theorem openAtMost_parentheses {limit : Nat} {s : List TokenKind} (balanced : Balanced s) :
    OpenAtMost (limit + 1) (.opening :: (s ++ [.closing])) ↔ OpenAtMost limit s := by
  rw [openAtMost_succ_opening, openAtMost_append balanced]
  exact ⟨And.left, fun kept => ⟨kept, openAtMost_closing⟩⟩

/-- Both sides of a joined pair keep to the limit that the pair keeps to. -/
theorem openAtMost_joined {limit : Nat} {joins : TokenKind} {s t : List TokenKind}
    (plain : Plain joins) (balanced : Balanced s) :
    OpenAtMost limit (s ++ joins :: t) ↔ OpenAtMost limit s ∧ OpenAtMost limit t := by
  rw [openAtMost_append balanced, openAtMost_cons_plain plain]

end ListQuery.Filter
