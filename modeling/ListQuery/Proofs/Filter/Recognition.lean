import ListQuery.Proofs.Filter.Derivation

/-! The parser and the grammar agree. What the parser returns is derived from the tokens that it
took, and whatever is derived within the limits is returned, as long as the next token cannot go
on with it. The limits are parameters of the parser; for any derivation there are limits that
admit it, so two derivations of one run of kinds give one filter. -/

namespace ListQuery.Filter

namespace Grammar

/-! ### Literals and clauses -/

theorem literal?_eq_some_iff {k : TokenKind} {value : Option String} :
    literal? k = some value ↔ Literal k value := by
  constructor
  · intro found
    unfold literal? at found
    split at found
    · cases found
      exact .string _
    · cases found
      exact .number _
    · split at found
      · rename_i word
        cases found
        exact .wordTrue word
      · split at found
        · rename_i word
          cases found
          exact .wordFalse word
        · split at found
          · rename_i word
            cases found
            exact .wordNull word
          · cases found
    · cases found
  · intro literal
    cases literal with
    | string inner => rfl
    | number numeral => rfl
    | wordTrue word => rw [literal?, if_pos word]
    | wordFalse word =>
      have other := Text.sameIgnoringCase_congr word "true"
      rw [literal?, if_pos word, other]
      rfl
    | wordNull word =>
      have first := Text.sameIgnoringCase_congr word "true"
      have second := Text.sameIgnoringCase_congr word "false"
      rw [literal?, if_pos word, first, second]
      rfl

/-- From tokens a run is taken whose kinds have a property, and the rest is left. -/
def Takes (holds : List TokenKind → Prop) (tokens rest : List Token) : Prop :=
  ∃ front, tokens = front ++ rest ∧ holds (kinds front)

section Takes
variable {holds also : List TokenKind → Prop} {tokens rest : List Token}

theorem takes_nil (none : holds []) (rest : List Token) : Takes holds rest rest :=
  ⟨[], rfl, none⟩

theorem takes_singleton {token : Token} (single : holds [token.kind]) (rest : List Token) :
    Takes holds (token :: rest) rest :=
  ⟨[token], rfl, single⟩

theorem Takes.cons {token : Token} {k : TokenKind} (takes : Takes holds tokens rest)
    (same : token.kind = k) (more : ∀ s, holds s → also (k :: s)) :
    Takes also (token :: tokens) rest := by
  obtain ⟨front, rfl, held⟩ := takes
  refine ⟨token :: front, rfl, ?_⟩
  rw [kinds_cons, same]
  exact more _ held

theorem Takes.cons_cons {first second : Token} {j k : TokenKind} (takes : Takes holds tokens rest)
    (same : first.kind = j) (next : second.kind = k) (more : ∀ s, holds s → also (j :: k :: s)) :
    Takes also (first :: second :: tokens) rest := by
  obtain ⟨front, rfl, held⟩ := takes
  refine ⟨first :: second :: front, rfl, ?_⟩
  rw [kinds_cons, kinds_cons, same, next]
  exact more _ held

theorem Takes.mono (takes : Takes holds tokens rest) (more : ∀ s, holds s → also s) :
    Takes also tokens rest := by
  obtain ⟨front, same, held⟩ := takes
  exact ⟨front, same, more _ held⟩

end Takes

theorem values_sound {tokens rest : List Token} {listed : List (Option String)}
    (parsed : values tokens = .ok (listed, rest)) :
    Takes (fun s => Values s listed) tokens rest := by
  fun_induction values tokens generalizing listed with
  | case1 => exact absurd parsed refuse_ne_ok
  | case2 => exact absurd parsed refuse_ne_ok
  | case3 token value found =>
    cases parsed
    exact takes_singleton (.last (literal?_eq_some_iff.mp found)) []
  | case4 token value found comma more separates later after listing ih =>
    cases parsed
    exact (ih listing).cons_cons rfl separates fun s values =>
      .more (literal?_eq_some_iff.mp found) values
  | case5 => cases parsed
  | case6 token value found =>
    cases parsed
    exact takes_singleton (.last (literal?_eq_some_iff.mp found)) _

/-- The next token is not of a kind. -/
def NotNext (k : TokenKind) (rest : List Token) : Prop :=
  ∀ token ∈ rest.head?, token.kind ≠ k

theorem values_complete {s : List TokenKind} {listed : List (Option String)}
    (derived : Values s listed) {tokens rest : List Token} (same : kinds tokens = s)
    (ends : NotNext .comma rest) : values (tokens ++ rest) = .ok (listed, rest) := by
  induction derived generalizing tokens with
  | last literal =>
    obtain ⟨token, more, rfl, rfl, none⟩ := kinds_eq_cons same
    rw [List.map_eq_nil_iff.mp none]
    have found := literal?_eq_some_iff.mpr literal
    cases rest with
    | nil => simp [values, found]
    | cons next later => simp [values, found, ends next rfl]
  | more literal derived ih =>
    obtain ⟨token, more, rfl, rfl, later⟩ := kinds_eq_cons same
    obtain ⟨comma, after, rfl, separates, later⟩ := kinds_eq_cons later
    have found := literal?_eq_some_iff.mpr literal
    simp [values, found, separates, ih later]

/-- The asterisk that an operator may have, with what follows it. -/
theorem star_eq (tokens : List Token) :
    (∃ token more, tokens = token :: more ∧ token.kind = .asterisk ∧ star tokens = (true, more)) ∨
      star tokens = (false, tokens) := by
  cases tokens with
  | nil => exact Or.inr rfl
  | cons token more =>
    by_cases asterisk : token.kind = .asterisk
    · exact Or.inl ⟨token, more, rfl, asterisk, if_pos asterisk⟩
    · exact Or.inr (if_neg asterisk)

theorem clause_sound {property : String} {tokens rest : List Token} {f : Filter}
    (parsed : clause property tokens = .ok (f, rest)) :
    Takes (fun s => Clause property s f ∧ f.height = 1) tokens rest := by
  unfold clause at parsed
  split at parsed
  · exact absurd parsed refuse_ne_ok
  · rename_i token more
    split at parsed
    · rename_i op operator
      split at parsed
      · rename_i listed after listing
        cases parsed
        have taken := values_sound listing
        rcases star_eq more with ⟨asterisk, later, rfl, star, found⟩ | found
        · rw [found] at taken ⊢
          exact taken.cons_cons operator star fun s values => ⟨.folded op values, rfl⟩
        · rw [found] at taken ⊢
          exact taken.cons operator fun s values => ⟨.exact op values, rfl⟩
      · cases parsed
    · cases parsed
    · exact absurd parsed refuse_ne_ok

theorem head_ne_asterisk {s : List TokenKind} {listed : List (Option String)}
    (derived : Values s listed) : ∃ k t, s = k :: t ∧ k ≠ .asterisk := by
  cases derived with
  | last literal | more literal _ => cases literal <;> exact ⟨_, _, rfl, nofun⟩

theorem clause_complete {property : String} {s : List TokenKind} {f : Filter}
    (derived : Clause property s f) {tokens rest : List Token} (same : kinds tokens = s)
    (ends : NotNext .comma rest) : clause property (tokens ++ rest) = .ok (f, rest) := by
  cases derived with
  | exact op derived =>
    obtain ⟨token, more, rfl, operator, later⟩ := kinds_eq_cons same
    obtain ⟨k, t, rfl, other⟩ := head_ne_asterisk derived
    obtain ⟨next, after, rfl, rfl, -⟩ := kinds_eq_cons later
    have plain : star ((next :: after) ++ rest) = (false, (next :: after) ++ rest) := if_neg other
    have listed := values_complete derived later ends
    rw [List.cons_append, clause, operator]
    simp only [plain, listed]
  | folded op derived =>
    obtain ⟨token, more, rfl, operator, later⟩ := kinds_eq_cons same
    obtain ⟨asterisk, after, rfl, star, later⟩ := kinds_eq_cons later
    have found : Grammar.star ((asterisk :: after) ++ rest) = (true, after ++ rest) := if_pos star
    have listed := values_complete derived later ends
    rw [List.cons_append, clause, operator]
    simp only [found, listed]

/-! ### Negations and groups -/

theorem negations_exclamation {token : Token} {tokens : List Token}
    (mark : token.kind = .exclamation) :
    negations (token :: tokens) = ((negations tokens).1 ^^ true, (negations tokens).2) :=
  if_pos mark

theorem negations_other {token : Token} {tokens : List Token} (other : token.kind ≠ .exclamation) :
    negations (token :: tokens) = (false, token :: tokens) :=
  if_neg other

section Steps
variable {levels groups : Nat} {inner : Option (Parser Filter)} {token : Token}
  {tokens rest : List Token} {f : Filter}

/-- A group after its exclamation marks: what stands between a parenthesis and the next one. -/
theorem group_eq_ok :
    group inner tokens = .ok (f, rest) ↔
      ∃ opening more parser g closing, (negations tokens).2 = opening :: more ∧
        opening.kind = .opening ∧ inner = some parser ∧ parser.run more = .ok (g, closing :: rest) ∧
        closing.kind = .closing ∧ f = g.toggled (negations tokens).1 := by
  constructor
  · intro parsed
    unfold group at parsed
    split at parsed
    · exact absurd parsed refuse_ne_ok
    · rename_i opening more after
      split at parsed
      · rename_i opens
        split at parsed
        · cases parsed
        · rename_i parser
          split at parsed
          · cases parsed
          · cases parsed
          · rename_i g closing later found
            split at parsed
            · rename_i closes
              cases parsed
              exact ⟨opening, more, parser, g, closing, after, opens, rfl, found, closes, rfl⟩
            · cases parsed
      · exact absurd parsed refuse_ne_ok
  · rintro ⟨opening, more, parser, g, closing, after, opens, rfl, found, closes, rfl⟩
    simp only [group, after, opens, found, closes, if_true]

/-- A term after its exclamation marks. -/
theorem term_eq_ok :
    (term levels inner).run tokens = .ok (f, rest) ↔
      ∃ g, positive levels inner (negations tokens).2 = .ok (g, rest) ∧
        f = g.toggled (negations tokens).1 := by
  simp only [term]
  constructor
  · intro parsed
    split at parsed
    · rename_i g after found
      cases parsed
      exact ⟨g, found, rfl⟩
    · cases parsed
  · rintro ⟨g, found, rfl⟩
    rw [found]

/-- An exclamation mark before a group negates it. -/
theorem group_exclamation (mark : token.kind = .exclamation) :
    group inner (token :: tokens) = .ok (f, rest) ↔
      ∃ g, group inner tokens = .ok (g, rest) ∧ f = g.toggled true := by
  simp only [group_eq_ok, negations_exclamation mark]
  constructor
  · rintro ⟨opening, more, parser, g, closing, after, opens, some, found, closes, rfl⟩
    exact ⟨_, ⟨opening, more, parser, g, closing, after, opens, some, found, closes, rfl⟩,
      (toggled_toggled _ _ g).symm⟩
  · rintro ⟨_, ⟨opening, more, parser, g, closing, after, opens, some, found, closes, rfl⟩, rfl⟩
    exact ⟨opening, more, parser, g, closing, after, opens, some, found, closes,
      toggled_toggled _ _ g⟩

/-- An exclamation mark before a term negates it. -/
theorem term_exclamation (mark : token.kind = .exclamation) :
    (term levels inner).run (token :: tokens) = .ok (f, rest) ↔
      ∃ g, (term levels inner).run tokens = .ok (g, rest) ∧ f = g.toggled true := by
  simp only [term_eq_ok, negations_exclamation mark]
  constructor
  · rintro ⟨g, found, rfl⟩
    exact ⟨_, ⟨g, found, rfl⟩, (toggled_toggled _ _ g).symm⟩
  · rintro ⟨_, ⟨g, found, rfl⟩, rfl⟩
    exact ⟨g, found, toggled_toggled _ _ g⟩

theorem term_other (other : token.kind ≠ .exclamation) :
    (term levels inner).run (token :: tokens) = .ok (f, rest) ↔
      positive levels inner (token :: tokens) = .ok (f, rest) := by
  simp only [term_eq_ok, negations_other other, toggled_false]
  constructor
  · rintro ⟨_, found, rfl⟩
    exact found
  · intro found
    exact ⟨f, found, rfl⟩

/-- What can be read as a group can be read as a term, and it comes to the same. -/
theorem term_of_group (parsed : group inner tokens = .ok (f, rest)) :
    (term levels inner).run tokens = .ok (f, rest) := by
  induction tokens generalizing f with
  | nil => cases parsed
  | cons token more ih =>
    by_cases mark : token.kind = .exclamation
    · obtain ⟨g, found, rfl⟩ := (group_exclamation mark).mp parsed
      exact (term_exclamation mark).mpr ⟨g, ih found, rfl⟩
    · rw [term_other mark]
      obtain ⟨opening, _, _, _, _, after, opens, -⟩ := group_eq_ok.mp parsed
      rw [negations_other mark] at after
      cases after
      rw [positive, opens]
      exact parsed

end Steps

/-! ### What is returned is derived -/

/-- The parser for what stands in a group, where so many more groups may be opened. -/
def inside (levels : Nat) : Nat → Option (Parser Filter)
  | 0 => none
  | groups + 1 => some (disjunction levels groups)

/-- The parser for a conjunction. -/
def conjunction (levels groups : Nat) : Parser Filter :=
  joined levels .and .and (term levels (inside levels groups))

theorem disjunction_eq (levels groups : Nat) :
    disjunction levels groups = joined levels .or .or (conjunction levels groups) := by
  cases groups <;> rfl

/-- A filter that is derived within the limits. -/
structure Limited (part : Part) (levels groups : Nat) (s : List TokenKind) (f : Filter) : Prop where
  derives : Derives part s f
  low : f.height ≤ levels
  few : OpenAtMost groups s

/-- What a step returns is derived from the tokens that it takes, within the limits. -/
def Sound (part : Part) (levels groups : Nat)
    (run : List Token → Except QueryError (Filter × List Token)) : Prop :=
  ∀ tokens f rest, run tokens = .ok (f, rest) →
    Takes (fun s => Limited part levels groups s f) tokens rest

section Sound
variable {levels groups : Nat}

theorem Limited.not {s : List TokenKind} {f : Filter} (limited : Limited .term levels groups s f) :
    Limited .term levels groups (.exclamation :: s) (f.toggled true) where
  derives := .not limited.derives
  low := Nat.le_trans (Nat.le_of_eq (height_toggled true f)) limited.low
  few := limited.few.cons (by simp [Plain])

theorem Limited.notGroup {s : List TokenKind} {f : Filter}
    (limited : Limited .group levels groups s f) :
    Limited .group levels groups (.exclamation :: s) (f.toggled true) where
  derives := .notGroup limited.derives
  low := Nat.le_trans (Nat.le_of_eq (height_toggled true f)) limited.low
  few := limited.few.cons (by simp [Plain])

theorem group_sound
    (within : ∀ n, groups = n + 1 → Sound .disjunction levels n (disjunction levels n).run) :
    Sound .group levels groups (group (inside levels groups)) := by
  intro tokens f rest parsed
  induction tokens generalizing f with
  | nil => cases parsed
  | cons token more ih =>
    by_cases mark : token.kind = .exclamation
    · obtain ⟨g, found, rfl⟩ := (group_exclamation mark).mp parsed
      exact (ih g found).cons mark fun s limited => limited.notGroup
    · obtain ⟨opening, after, parser, g, closing, same, opens, inner, found, closes, rfl⟩ :=
        group_eq_ok.mp parsed
      rw [negations_other mark] at same ⊢
      cases same
      cases groups with
      | zero => cases inner
      | succ n =>
        cases inner
        obtain ⟨front, rfl, limited⟩ := within n rfl _ _ _ found
        have read : kinds (token :: (front ++ [closing])) =
            .opening :: (kinds front ++ [.closing]) := by
          rw [kinds_cons, kinds_append, kinds_cons, opens, closes]
          rfl
        refine ⟨token :: (front ++ [closing]), by simp, ?_⟩
        rw [read, toggled_false]
        exact ⟨.parentheses limited.derives, limited.low,
          (openAtMost_parentheses limited.derives.balanced).mpr limited.few⟩

/-- A quantified filter is one level higher than what it quantifies. -/
theorem quantified_eq_ok {property : String} {position : Nat} {quantifier : Quantifier}
    {inner : Except QueryError (Filter × List Token)} {f : Filter} {rest : List Token} :
    quantified levels property position quantifier inner = .ok (f, rest) ↔
      ∃ g, inner = .ok (g, rest) ∧ f = .collection property g quantifier false ∧
        f.height ≤ levels := by
  constructor
  · intro parsed
    unfold quantified at parsed
    split at parsed
    · cases parsed
    · rename_i g after
      split at parsed
      · rename_i low
        cases parsed
        exact ⟨g, rfl, rfl, low⟩
      · cases parsed
  · rintro ⟨g, rfl, rfl, low⟩
    rw [quantified, if_pos (show g.height < levels from low)]

theorem afterProperty_sound {property : String} {position : Nat} (room : 0 < levels)
    (grouped : Sound .group levels groups (group (inside levels groups)))
    {tokens rest : List Token} {f : Filter}
    (parsed : afterProperty levels (inside levels groups) property position tokens = .ok (f, rest)) :
    Takes (fun s => Limited .property levels groups (.identifier property :: s) f) tokens rest := by
  have plainly {tokens : List Token} (parsed : clause property tokens = .ok (f, rest)) :
      Takes (fun s => Limited .property levels groups (.identifier property :: s) f) tokens rest := by
    refine (clause_sound parsed).mono fun s found => ?_
    obtain ⟨derived, height⟩ := found
    exact ⟨.clause derived, Nat.le_trans (Nat.le_of_eq height) room,
      (openAtMost_of_plain derived.plain).cons (by simp [Plain])⟩
  have anyOf {tokens : List Token}
      (parsed : quantified levels property position .any (group (inside levels groups) tokens) =
        .ok (f, rest)) :
      Takes (fun s => Limited .property levels groups (.identifier property :: s) f) tokens rest := by
    obtain ⟨g, found, rfl, low⟩ := quantified_eq_ok.mp parsed
    exact (grouped _ _ _ found).mono fun s inner =>
      ⟨.any inner.derives, low, inner.few.cons (by simp [Plain])⟩
  unfold afterProperty at parsed
  split at parsed
  · exact plainly parsed
  · rename_i token more
    split at parsed
    · rename_i star
      split at parsed
      · obtain ⟨g, found, rfl, low⟩ := quantified_eq_ok.mp parsed
        refine (clause_sound found).cons star fun s inner => ⟨.allElements inner.1, low, ?_⟩
        have elements : OpenAtMost groups (.asterisk :: s) :=
          (openAtMost_of_plain inner.1.plain).cons (by simp [Plain])
        exact elements.cons (by simp [Plain])
      · obtain ⟨g, found, rfl, low⟩ := quantified_eq_ok.mp parsed
        refine (grouped _ _ _ found).cons star fun s inner => ⟨.all inner.derives, low, ?_⟩
        exact (inner.few.cons (k := .asterisk) (by simp [Plain])).cons (by simp [Plain])
    · exact anyOf parsed
    · exact anyOf parsed
    · exact plainly parsed

theorem positive_sound (room : 0 < levels)
    (grouped : Sound .group levels groups (group (inside levels groups))) :
    Sound .term levels groups (positive levels (inside levels groups)) := by
  intro tokens f rest parsed
  unfold positive at parsed
  split at parsed
  · exact absurd parsed refuse_ne_ok
  · rename_i token more
    split at parsed
    · exact (grouped _ _ _ parsed).mono fun s inner => ⟨.group inner.derives, inner.low, inner.few⟩
    · rename_i property name
      exact (afterProperty_sound room grouped parsed).cons name fun s inner =>
        ⟨.property inner.derives, inner.low, inner.few⟩
    · exact absurd parsed refuse_ne_ok

theorem term_sound (room : 0 < levels)
    (grouped : Sound .group levels groups (group (inside levels groups))) :
    Sound .term levels groups (term levels (inside levels groups)).run := by
  intro tokens f rest parsed
  induction tokens generalizing f with
  | nil =>
    obtain ⟨g, found, -⟩ := term_eq_ok.mp parsed
    cases found
  | cons token more ih =>
    by_cases mark : token.kind = .exclamation
    · obtain ⟨g, found, rfl⟩ := (term_exclamation mark).mp parsed
      exact (ih g found).cons mark fun s limited => limited.not
    · exact positive_sound room grouped _ _ _ ((term_other mark).mp parsed)

/-- How a part is joined from operands: one operand, or a part before and an operand after a
joining token. -/
structure Joins (joins : TokenKind) (join : Filter → Filter → Bool → Filter)
    (whole operand : Part) : Prop where
  single : ∀ {s f}, Derives operand s f → Derives whole s f
  pair : ∀ {s t f g}, Derives whole s f → Derives operand t g →
    Derives whole (s ++ joins :: t) (join f g false)
  height : ∀ f g, (join f g false).height = max f.height g.height + 1
  plain : Plain joins

theorem joins_or : Joins .or .or .disjunction .conjunction :=
  ⟨.conjunction, .or, fun _ _ => rfl, by simp [Plain]⟩

theorem joins_and : Joins .and .and .conjunction .term :=
  ⟨.term, .and, fun _ _ => rfl, by simp [Plain]⟩

theorem Joins.limited {joins : TokenKind} {join : Filter → Filter → Bool → Filter}
    {whole part : Part} {s t : List TokenKind} {f g : Filter} (shape : Joins joins join whole part)
    (left : Limited whole levels groups s f) (right : Limited part levels groups t g)
    (low : max f.height g.height < levels) :
    Limited whole levels groups (s ++ joins :: t) (join f g false) where
  derives := shape.pair left.derives right.derives
  low := Nat.le_trans (Nat.le_of_eq (shape.height f g)) low
  few := (openAtMost_joined shape.plain left.derives.balanced).mpr ⟨left.few, right.few⟩

/-- The operands that are joined to a first part make one part with it. -/
theorem joinFrom_sound {joins : TokenKind} {join : Filter → Filter → Bool → Filter}
    {whole part : Part} {operand : Parser Filter} {left f : Filter} {tokens rest : List Token}
    {s : List TokenKind} (shape : Joins joins join whole part)
    (each : Sound part levels groups operand.run)
    (parsed : joinFrom levels joins join operand left tokens = .ok (f, rest))
    (limited : Limited whole levels groups s left) :
    Takes (fun t => Limited whole levels groups (s ++ t) f) tokens rest := by
  fun_induction joinFrom levels joins join operand left tokens generalizing s with
  | case1 =>
    cases parsed
    exact takes_nil (by rw [List.append_nil]; exact limited) _
  | case2 => cases parsed
  | case3 left token more separates right after found lower ih =>
    obtain ⟨front, rfl, second⟩ := each _ _ _ found
    obtain ⟨back, rfl, whole⟩ := ih parsed (shape.limited limited second lower)
    refine ⟨token :: (front ++ back), by simp, ?_⟩
    rw [kinds_cons, kinds_append, separates]
    rw [List.append_assoc] at whole
    exact whole
  | case4 => cases parsed
  | case5 =>
    cases parsed
    exact takes_nil (by rw [List.append_nil]; exact limited) _

theorem joined_sound {joins : TokenKind} {join : Filter → Filter → Bool → Filter}
    {whole part : Part} {operand : Parser Filter} (shape : Joins joins join whole part)
    (each : Sound part levels groups operand.run) :
    Sound whole levels groups (joined levels joins join operand).run := by
  intro tokens f rest parsed
  simp only [joined] at parsed
  split at parsed
  · cases parsed
  · rename_i first more found
    obtain ⟨front, rfl, limited⟩ := each _ _ _ found
    obtain ⟨back, rfl, whole⟩ := joinFrom_sound shape each parsed
      ⟨shape.single limited.derives, limited.low, limited.few⟩
    refine ⟨front ++ back, by simp, ?_⟩
    rw [kinds_append]
    exact whole

/-- What the parser returns is derived from the tokens that it took. -/
theorem disjunction_sound (room : 0 < levels) (groups : Nat) :
    Sound .disjunction levels groups (disjunction levels groups).run := by
  induction groups with
  | zero =>
    have grouped : Sound .group levels 0 (group (inside levels 0)) := group_sound nofun
    exact joined_sound joins_or (joined_sound joins_and (term_sound room grouped))
  | succ groups ih =>
    have grouped : Sound .group levels (groups + 1) (group (inside levels (groups + 1))) := by
      refine group_sound fun n same => ?_
      cases same
      exact ih
    exact joined_sound joins_or (joined_sound joins_and (term_sound room grouped))

end Sound

/-! ### What is derived is returned -/

/-- What is read as a part. -/
def reads (levels groups : Nat) : Part → List Token → Except QueryError (Filter × List Token)
  | .disjunction => (disjunction levels groups).run
  | .conjunction => (conjunction levels groups).run
  | .term | .property => (term levels (inside levels groups)).run
  | .group => group (inside levels groups)

/-- What is read after a part: more operands, if it is one that operands are joined to. -/
def goesOn (levels groups : Nat) :
    Part → Filter → List Token → Except QueryError (Filter × List Token)
  | .disjunction, f, rest => joinFrom levels .or .or (conjunction levels groups) f rest
  | .conjunction, f, rest => joinFrom levels .and .and (term levels (inside levels groups)) f rest
  | _, f, rest => .ok (f, rest)

/-- The next token is none that the last operand of a part would take. -/
def Ends : Part → List Token → Prop
  | .disjunction, rest => NotNext .comma rest ∧ NotNext .and rest
  | .conjunction, rest | .term, rest | .property, rest => NotNext .comma rest
  | .group, _ => True

section Complete
variable {levels groups : Nat} {tokens rest : List Token} {s : List TokenKind} {f : Filter}

theorem joinFrom_end {joins : TokenKind} {join : Filter → Filter → Bool → Filter}
    {operand : Parser Filter} (ends : NotNext joins rest) :
    joinFrom levels joins join operand f rest = .ok (f, rest) := by
  cases rest with
  | nil => rw [joinFrom]
  | cons token more => rw [joinFrom, if_neg (ends token rfl)]

/-- A joining token and an operand after a part: the pair goes on. -/
theorem joinFrom_pair {joins : TokenKind} {join : Filter → Filter → Bool → Filter}
    {operand : Parser Filter} {left right : Filter} {token : Token} (separates : token.kind = joins)
    (found : operand.run tokens = .ok (right, rest))
    (low : max left.height right.height < levels) :
    joinFrom levels joins join operand left (token :: tokens) =
      joinFrom levels joins join operand (join left right false) rest := by
  rw [joinFrom, if_pos separates]
  split
  · rename_i error failed
    rw [found] at failed
    cases failed
  · rename_i g after same
    rw [found] at same
    cases same
    rw [if_pos low]

/-- A group begins with an exclamation mark or a parenthesis. -/
theorem group_head (derives : Derives .group s f) :
    ∃ k t, s = k :: t ∧ (k = .exclamation ∨ k = .opening) := by
  cases derives with
  | notGroup _ => exact ⟨_, _, rfl, Or.inl rfl⟩
  | parentheses _ => exact ⟨_, _, rfl, Or.inr rfl⟩

/-- A clause begins with an operator. -/
theorem clause_head {property : String} (derived : Clause property s f) :
    ∃ op t, s = .operator op :: t := by
  cases derived <;> exact ⟨_, _, rfl⟩

theorem notNext_cons {k : TokenKind} {token : Token} (other : token.kind ≠ k) :
    NotNext k (token :: rest) := by
  rintro _ ⟨⟩
  exact other

/-! What follows a property is told by one token or two. -/

theorem afterProperty_allElements {inner : Option (Parser Filter)} {property : String}
    {position : Nat} {asterisk token : Token} (star : asterisk.kind = .asterisk)
    (operator : token.kind.isOperator = true) :
    afterProperty levels inner property position (asterisk :: token :: tokens) =
      quantified levels property position .all (clause "" (token :: tokens)) := by
  rw [afterProperty, star]
  exact if_pos operator

theorem afterProperty_all {inner : Option (Parser Filter)} {property : String}
    {position : Nat} {asterisk token : Token} (star : asterisk.kind = .asterisk)
    (other : token.kind.isOperator = false) :
    afterProperty levels inner property position (asterisk :: token :: tokens) =
      quantified levels property position .all (group inner (token :: tokens)) := by
  rw [afterProperty, star]
  refine if_neg ?_
  rw [List.head?_cons, Option.map_some, Option.getD_some, other]
  exact Bool.false_ne_true

theorem afterProperty_any {inner : Option (Parser Filter)} {property : String}
    {position : Nat} {token : Token} (head : token.kind = .exclamation ∨ token.kind = .opening) :
    afterProperty levels inner property position (token :: tokens) =
      quantified levels property position .any (group inner (token :: tokens)) := by
  rcases head with mark | opens
  · rw [afterProperty, mark]
  · rw [afterProperty, opens]

theorem afterProperty_clause {inner : Option (Parser Filter)} {property : String}
    {position : Nat} {token : Token} {op : Operator} (symbol : token.kind = .operator op) :
    afterProperty levels inner property position (token :: tokens) =
      clause property (token :: tokens) := by
  rw [afterProperty, symbol]

/-- A name at the head of a term is a property. -/
theorem term_identifier {token : Token} {name : String} (named : token.kind = .identifier name) :
    (term levels (inside levels groups)).run (token :: tokens) = .ok (f, rest) ↔
      afterProperty levels (inside levels groups) name token.start tokens = .ok (f, rest) := by
  have other : token.kind ≠ .exclamation := by
    simp [named]
  rw [term_other other, positive, named]

/-- Between parentheses stands what the parser for one group less reads. -/
theorem group_parentheses {opening closing : Token} (opens : opening.kind = .opening)
    (closes : closing.kind = .closing)
    (found : (disjunction levels groups).run tokens = .ok (f, closing :: rest)) :
    group (inside levels (groups + 1)) (opening :: tokens) = .ok (f, rest) := by
  have other : opening.kind ≠ .exclamation := by
    simp [opens]
  refine group_eq_ok.mpr ?_
  rw [negations_other other]
  exact ⟨opening, tokens, _, f, closing, rfl, opens, rfl, found, closes, (toggled_false f).symm⟩

/-- Whatever is derived within the limits is read, up to where it goes on. -/
theorem reads_of_derives {part : Part} (derives : Derives part s f) (same : kinds tokens = s)
    (low : f.height ≤ levels) (few : OpenAtMost groups s) (ends : Ends part rest) :
    reads levels groups part (tokens ++ rest) = goesOn levels groups part f rest := by
  induction derives generalizing groups tokens rest with
  | conjunction only ih =>
    have found := ih same low few ends.1
    rw [goesOn, joinFrom_end ends.2] at found
    rw [reads, disjunction_eq]
    simp only [joined]
    rw [show (conjunction levels groups).run _ = _ from found]
    rfl
  | or left right first second =>
    obtain ⟨front, token, more, rfl, before, separates, after⟩ := kinds_eq_joined same
    obtain ⟨leftFew, rightFew⟩ := (openAtMost_joined joins_or.plain left.balanced).mp few
    have lower := Nat.max_lt.mp low
    have next : Ends .disjunction (token :: (more ++ rest)) :=
      ⟨notNext_cons (by simp [separates]), notNext_cons (by simp [separates])⟩
    have leads := first before (Nat.le_of_lt lower.1) leftFew next
    have follows := second after (Nat.le_of_lt lower.2) rightFew ends.1
    rw [goesOn, joinFrom_end ends.2] at follows
    rw [List.append_assoc, List.cons_append, leads]
    exact joinFrom_pair separates follows low
  | term only ih =>
    have found := ih same low few ends
    rw [reads]
    simp only [conjunction, joined]
    rw [show (term levels (inside levels groups)).run _ = _ from found]
    rfl
  | and left right first second =>
    obtain ⟨front, token, more, rfl, before, separates, after⟩ := kinds_eq_joined same
    obtain ⟨leftFew, rightFew⟩ := (openAtMost_joined joins_and.plain left.balanced).mp few
    have lower := Nat.max_lt.mp low
    have next : Ends .conjunction (token :: (more ++ rest)) :=
      notNext_cons (by simp [separates])
    have leads := first before (Nat.le_of_lt lower.1) leftFew next
    have follows := second after (Nat.le_of_lt lower.2) rightFew ends
    rw [List.append_assoc, List.cons_append, leads]
    exact joinFrom_pair separates follows low
  | not inner ih =>
    obtain ⟨token, more, rfl, mark, after⟩ := kinds_eq_cons same
    have fewer := few.of_cons (by simp [Plain])
    have lower := Nat.le_trans (Nat.le_of_eq (height_toggled true _).symm) low
    exact (term_exclamation mark).mpr ⟨_, ih after lower fewer ends, rfl⟩
  | group only ih => exact term_of_group (ih same low few trivial)
  | property only ih => exact ih same low few ends
  | notGroup inner ih =>
    obtain ⟨token, more, rfl, mark, after⟩ := kinds_eq_cons same
    have fewer := few.of_cons (by simp [Plain])
    have lower := Nat.le_trans (Nat.le_of_eq (height_toggled true _).symm) low
    exact (group_exclamation mark).mpr ⟨_, ih after lower fewer trivial, rfl⟩
  | parentheses inner ih =>
    obtain ⟨opening, more, rfl, opens, after⟩ := kinds_eq_cons same
    obtain ⟨front, closing, last, rfl, within, closes, after⟩ := kinds_eq_joined after
    rw [List.map_eq_nil_iff.mp after]
    cases groups with
    | zero => exact absurd few not_openAtMost_zero_opening
    | succ n =>
      have fewer := (openAtMost_parentheses inner.balanced).mp few
      have next : Ends .disjunction (closing :: rest) :=
        ⟨notNext_cons (by simp [closes]), notNext_cons (by simp [closes])⟩
      have found := ih within low fewer next
      rw [goesOn, joinFrom_end (notNext_cons (by simp [closes]))] at found
      rw [List.cons_append, List.append_assoc]
      exact group_parentheses opens closes found
  | allElements inner =>
    obtain ⟨token, more, rfl, named, after⟩ := kinds_eq_cons same
    obtain ⟨asterisk, more, rfl, star, after⟩ := kinds_eq_cons after
    obtain ⟨op, t, rfl⟩ := clause_head inner
    obtain ⟨token, later, rfl, symbol, -⟩ := kinds_eq_cons after
    have found := clause_complete inner after ends
    refine (term_identifier named).mpr ((afterProperty_allElements star ?_).trans ?_)
    · rw [symbol]
      rfl
    · exact quantified_eq_ok.mpr ⟨_, found, rfl, low⟩
  | all inner ih =>
    obtain ⟨token, more, rfl, named, after⟩ := kinds_eq_cons same
    obtain ⟨asterisk, more, rfl, star, after⟩ := kinds_eq_cons after
    obtain ⟨k, t, rfl, head⟩ := group_head inner
    have fewer := (few.of_cons (by simp [Plain])).of_cons (by simp [Plain])
    have found : group (inside levels groups) (more ++ rest) = _ :=
      ih after (Nat.le_of_succ_le low) fewer trivial
    obtain ⟨token, later, rfl, rfl, -⟩ := kinds_eq_cons after
    refine (term_identifier named).mpr ((afterProperty_all star ?_).trans ?_)
    · rcases head with mark | opens
      · rw [mark]
        rfl
      · rw [opens]
        rfl
    · exact quantified_eq_ok.mpr ⟨_, found, rfl, low⟩
  | any inner ih =>
    obtain ⟨token, more, rfl, named, after⟩ := kinds_eq_cons same
    obtain ⟨k, t, rfl, head⟩ := group_head inner
    have found : group (inside levels groups) (more ++ rest) = _ :=
      ih after (Nat.le_of_succ_le low) (few.of_cons (by simp [Plain])) trivial
    obtain ⟨token, later, rfl, rfl, -⟩ := kinds_eq_cons after
    refine (term_identifier named).mpr ((afterProperty_any head).trans ?_)
    exact quantified_eq_ok.mpr ⟨_, found, rfl, low⟩
  | clause only =>
    obtain ⟨token, more, rfl, named, after⟩ := kinds_eq_cons same
    obtain ⟨op, t, rfl⟩ := clause_head only
    have found := clause_complete only after ends
    obtain ⟨token, later, rfl, symbol, -⟩ := kinds_eq_cons after
    exact (term_identifier named).mpr ((afterProperty_clause symbol).trans found)

end Complete

/-- Within any limits, a run of tokens is read to its end exactly as it is derived. -/
theorem disjunction_eq_ok_iff {levels groups : Nat} {tokens : List Token} {f : Filter}
    (room : 0 < levels) :
    (disjunction levels groups).run tokens = .ok (f, []) ↔
      Derives .disjunction (kinds tokens) f ∧ f.height ≤ levels ∧
        OpenAtMost groups (kinds tokens) := by
  constructor
  · intro parsed
    obtain ⟨front, same, limited⟩ := disjunction_sound room groups _ _ _ parsed
    rw [List.append_nil] at same
    rw [same]
    exact ⟨limited.derives, limited.low, limited.few⟩
  · rintro ⟨derives, low, few⟩
    have ends (k : TokenKind) : NotNext k [] := nofun
    have found := reads_of_derives derives rfl low few ⟨ends .comma, ends .and⟩
    rw [List.append_nil, goesOn, joinFrom_end (ends .or)] at found
    exact found

end Grammar

open Grammar in
/-- No run of kinds stands for two filters. -/
theorem Derives.unique {s : List TokenKind} {f g : Filter} (first : Derives .disjunction s f)
    (second : Derives .disjunction s g) : f = g := by
  -- Limits that admit both filters make the parser return both.
  let tokens : List Token := s.map fun k => ⟨k, 0, 0⟩
  have same : kinds tokens = s := by
    rw [kinds, List.map_map]
    exact List.map_id s
  let levels := max f.height g.height + 1
  have room : 0 < levels := Nat.succ_pos _
  have few : OpenAtMost s.length (kinds tokens) := by
    rw [same]
    exact openAtMost_of_length (Nat.le_refl _)
  have left := (disjunction_eq_ok_iff room).mpr
    ⟨same ▸ first, Nat.le_succ_of_le (Nat.le_max_left _ _), few⟩
  have right := (disjunction_eq_ok_iff room).mpr
    ⟨same ▸ second, Nat.le_succ_of_le (Nat.le_max_right _ _), few⟩
  rw [left] at right
  cases right
  rfl

/-- A list of tokens is a filter exactly as it is derived within the limits. -/
theorem ofTokens_eq_ok_iff {tokens : List Token} {f : Filter} :
    ofTokens tokens = .ok f ↔
      Derives .disjunction (kinds tokens) f ∧ f.height ≤ maxDepth ∧
        OpenAtMost maxDepth (kinds tokens) := by
  rw [← Grammar.disjunction_eq_ok_iff (show 0 < maxDepth from by decide)]
  unfold ofTokens
  constructor
  · intro parsed
    split at parsed
    · cases parsed
    · rename_i found
      cases parsed
      exact found
    · cases parsed
  · intro found
    rw [found]

/-- The parser returns exactly what the grammar derives within the limits on height and open
parentheses, and the grammar derives at most one filter from a list of tokens. -/
theorem parser_accepts_exactly_grammar :
    (∀ (tokens : List Token) (node : Filter), ofTokens tokens = .ok node ↔
      Derives .disjunction (kinds tokens) node ∧ node.height ≤ maxDepth ∧
        OpenAtMost maxDepth (kinds tokens)) ∧
      ∀ (s : List TokenKind) (first second : Filter), Derives .disjunction s first →
        Derives .disjunction s second → first = second := by
  refine ⟨fun tokens node => ofTokens_eq_ok_iff, ?_⟩
  intro s first second left right
  exact left.unique right

/-- The kinds of `!(a==1,2|b(c>3))`. -/
def negatedGroup : List TokenKind :=
  [.exclamation, .opening, .identifier "a", .operator .equal, .number "1", .comma, .number "2", .or,
    .identifier "b", .opening, .identifier "c", .operator .greater, .number "3", .closing, .closing]

/-- The negated group is a negated disjunction, and the parser returns it. -/
theorem parser_accepts_negated_group :
    ∃ node, Derives .disjunction negatedGroup node ∧
      ofTokens (negatedGroup.map fun k => ⟨k, 0, 0⟩) = .ok node ∧
      ∀ other, Derives .disjunction negatedGroup other → other = node := by
  have a : Derives .conjunction [.identifier "a", .operator .equal, .number "1", .comma, .number "2"]
      (.clause "a" .equal [some "1", some "2"] false false) :=
    .term (.property (.clause (.exact .equal (.more (.number "1") (.last (.number "2"))))))
  have c : Derives .conjunction [.identifier "c", .operator .greater, .number "3"]
      (.clause "c" .greater [some "3"] false false) :=
    .term (.property (.clause (.exact .greater (.last (.number "3")))))
  have b := Derives.term (.property (@Derives.any "b" _ _ (.parentheses (.conjunction c))))
  have whole := Derives.conjunction (.term (.not (.group (.parentheses (.or (.conjunction a) b)))))
  obtain ⟨accepts, unique⟩ := parser_accepts_exactly_grammar
  have parsed := (accepts (negatedGroup.map fun k => ⟨k, 0, 0⟩) _).mpr
    ⟨whole, by decide, openAtMost_of_length (by decide)⟩
  exact ⟨_, whole, parsed, fun other derives => unique negatedGroup _ _ derives whole⟩

end ListQuery.Filter
