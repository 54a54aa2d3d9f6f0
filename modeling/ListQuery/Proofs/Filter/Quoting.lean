import ListQuery.Proofs.Filter.Parsing

/-! A quoted value stays a value. Whatever stands between the quotes of a string token, once its own
quotes are doubled, the text around it keeps its tokens, and the filter keeps everything but the
one literal that the string stands for. -/

namespace ListQuery.Filter

/-! ### Literals and shapes -/

/-- The literals of a filter, from the left. -/
def literals : Filter → List (Option String)
  | .clause _ _ values _ _ => values
  | .collection _ inner _ _ => inner.literals
  | .and left right _ | .or left right _ => left.literals ++ right.literals

/-- A filter with each literal left blank: its properties, operators, quantifiers, negations and
joins, and the number of literals of each clause. -/
def shape : Filter → Filter
  | .clause property operator values negated caseInsensitive =>
    .clause property operator (values.map fun _ => none) negated caseInsensitive
  | .collection property inner quantifier negated =>
    .collection property inner.shape quantifier negated
  | .and left right negated => .and left.shape right.shape negated
  | .or left right negated => .or left.shape right.shape negated

theorem literals_toggled (change : Bool) (f : Filter) :
    (f.toggled change).literals = f.literals := by
  cases f <;> rfl

theorem shape_toggled (change : Bool) (f : Filter) :
    (f.toggled change).shape = f.shape.toggled change := by
  cases f <;> rfl

theorem shape_collection (property : String) (quantifier : Quantifier) {f g : Filter}
    (same : f.shape = g.shape) :
    (collection property f quantifier false).shape =
      (collection property g quantifier false).shape := by
  rw [shape, shape, same]

theorem height_shape (f : Filter) : f.shape.height = f.height := by
  induction f with
  | clause => rfl
  | collection property inner quantifier negated ih => exact congrArg (· + 1) ih
  | and left right negated first second | or left right negated first second =>
    rw [shape, height, height, first, second]

theorem length_literals_shape (f : Filter) : f.shape.literals.length = f.literals.length := by
  induction f with
  | clause => exact List.length_map _
  | collection property inner quantifier negated ih => exact ih
  | and left right negated first second | or left right negated first second =>
    rw [shape, literals, literals, List.length_append, List.length_append, first, second]

/-- A filter is its shape and its literals. -/
theorem eq_of_shape_of_literals {f g : Filter} (alike : f.shape = g.shape)
    (same : f.literals = g.literals) : f = g := by
  induction f generalizing g with
  | clause property operator values negated caseInsensitive =>
    cases g with
    | clause =>
      injection alike with property operator _ negated caseInsensitive
      subst property operator negated caseInsensitive
      exact congrArg (clause _ _ · _ _) same
    | collection | and | or => cases alike
  | collection property inner quantifier negated ih =>
    cases g with
    | collection =>
      injection alike with property inside quantifier negated
      subst property quantifier negated
      exact congrArg (collection _ · _ _) (ih inside same)
    | clause | and | or => cases alike
  | and left right negated first second =>
    cases g with
    | and left' right' negated' =>
      injection alike with before after negated
      subst negated
      have size : left.literals.length = left'.literals.length := by
        rw [← length_literals_shape, before, length_literals_shape]
      obtain ⟨leading, trailing⟩ := List.append_inj same size
      rw [first before leading, second after trailing]
    | clause | collection | or => cases alike
  | or left right negated first second =>
    cases g with
    | or left' right' negated' =>
      injection alike with before after negated
      subst negated
      have size : left.literals.length = left'.literals.length := by
        rw [← length_literals_shape, before, length_literals_shape]
      obtain ⟨leading, trailing⟩ := List.append_inj same size
      rw [first before leading, second after trailing]
    | clause | collection | and => cases alike

/-- The text that a string token stands for. -/
def unquoted (inner : String) : String :=
  String.ofList (Text.undoubleQuotes inner.toList)

/-! ### Exchanging a string -/

/-- Each string among the tokens decides one literal, and nothing else of what they stand for. -/
def Exchanges (stands : List TokenKind → Filter → Prop) (s : List TokenKind) (f : Filter) : Prop :=
  ∀ i inner, s[i]? = some (.string inner) →
    ∃ n, f.literals[n]? = some (some (unquoted inner)) ∧
      ∀ other, ∃ g, stands (s.set i (.string other)) g ∧ g.shape = f.shape ∧
        g.literals = f.literals.set n (some (unquoted other))

theorem values_exchange {s : List TokenKind} {listed : List (Option String)}
    (values : Values s listed) {i : Nat} {inner : String} (here : s[i]? = some (.string inner)) :
    ∃ n, listed[n]? = some (some (unquoted inner)) ∧
      ∀ other, Values (s.set i (.string other)) (listed.set n (some (unquoted other))) := by
  induction values generalizing i with
  | last literal =>
    cases i with
    | zero =>
      cases here
      cases literal
      exact ⟨0, rfl, fun other => .last (.string other)⟩
    | succ i => cases here
  | more literal values ih =>
    rcases i with _ | _ | i
    · cases here
      cases literal
      exact ⟨0, rfl, fun other => .more (.string other) values⟩
    · cases here
    · obtain ⟨n, found, exchanged⟩ := ih here
      exact ⟨n + 1, found, fun other => .more literal (exchanged other)⟩

theorem clause_exchange {property : String} {s : List TokenKind} {f : Filter}
    (clause : Clause property s f) : Exchanges (Clause property) s f := by
  have blanks (listed : List (Option String)) (n : Nat) (value : Option String) :
      (listed.set n value).map (fun _ => (none : Option String)) = listed.map fun _ => none := by
    rw [List.map_const', List.map_const', List.length_set]
  intro i inner here
  cases clause with
  | exact op values =>
    cases i with
    | zero => cases here
    | succ i =>
      obtain ⟨n, found, exchanged⟩ := values_exchange values here
      refine ⟨n, found, fun other => ⟨_, .exact op (exchanged other), ?_, rfl⟩⟩
      rw [shape, shape, blanks]
  | folded op values =>
    rcases i with _ | _ | i
    · cases here
    · cases here
    · obtain ⟨n, found, exchanged⟩ := values_exchange values here
      refine ⟨n, found, fun other => ⟨_, .folded op (exchanged other), ?_, rfl⟩⟩
      rw [shape, shape, blanks]

section Exchange
variable {stands whole : List TokenKind → Filter → Prop} {s t : List TokenKind} {f : Filter}

theorem Exchanges.mono (exchanges : Exchanges stands s f)
    (more : ∀ {s f}, stands s f → whole s f) : Exchanges whole s f := by
  intro i inner here
  obtain ⟨n, found, exchanged⟩ := exchanges i inner here
  refine ⟨n, found, fun other => ?_⟩
  obtain ⟨g, derives, same⟩ := exchanged other
  exact ⟨g, more derives, same⟩

/-- A token before, and a filter around that has the same literals. -/
theorem Exchanges.cons (k : TokenKind) (around : Filter → Filter)
    (exchanges : Exchanges stands s f) (plain : ∀ inner, k ≠ .string inner)
    (more : ∀ {s f}, stands s f → whole (k :: s) (around f))
    (same : ∀ f, (around f).literals = f.literals)
    (alike : ∀ {f g}, f.shape = g.shape → (around f).shape = (around g).shape) :
    Exchanges whole (k :: s) (around f) := by
  intro i inner here
  cases i with
  | zero => exact absurd (Option.some.inj here) (plain inner)
  | succ i =>
    obtain ⟨n, found, exchanged⟩ := exchanges i inner here
    refine ⟨n, by rw [same]; exact found, fun other => ?_⟩
    obtain ⟨g, derives, shape, literals⟩ := exchanged other
    exact ⟨around g, more derives, alike shape, by rw [same, same, literals]⟩

/-- A token after. -/
theorem Exchanges.concat (k : TokenKind) (exchanges : Exchanges stands s f)
    (plain : ∀ inner, k ≠ .string inner) (more : ∀ {s f}, stands s f → whole (s ++ [k]) f) :
    Exchanges whole (s ++ [k]) f := by
  intro i inner here
  rcases Nat.lt_or_ge i s.length with within | beyond
  · rw [List.getElem?_append_left within] at here
    obtain ⟨n, found, exchanged⟩ := exchanges i inner here
    refine ⟨n, found, fun other => ?_⟩
    obtain ⟨g, derives, same⟩ := exchanged other
    rw [List.set_append_left i _ within]
    exact ⟨g, more derives, same⟩
  · rw [List.getElem?_append_right beyond] at here
    exact absurd (List.mem_singleton.mp (List.mem_of_getElem? here)).symm (plain inner)

/-- Two runs with a token between them, and a filter that joins the two. -/
theorem Exchanges.join {right : List TokenKind → Filter → Prop} {g : Filter} (k : TokenKind)
    (join : Filter → Filter → Filter) (first : Exchanges stands s f) (second : Exchanges right t g)
    (derives : stands s f) (follows : right t g) (plain : ∀ inner, k ≠ .string inner)
    (more : ∀ {s t f g}, stands s f → right t g → whole (s ++ k :: t) (join f g))
    (same : ∀ f g, (join f g).literals = f.literals ++ g.literals)
    (alike : ∀ {f g f' g'}, f.shape = f'.shape → g.shape = g'.shape →
      (join f g).shape = (join f' g').shape) :
    Exchanges whole (s ++ k :: t) (join f g) := by
  intro i inner here
  rw [same]
  rcases Nat.lt_or_ge i s.length with within | beyond
  · rw [List.getElem?_append_left within] at here
    obtain ⟨n, found, exchanged⟩ := first i inner here
    have listed := (List.getElem?_eq_some_iff.mp found).1
    refine ⟨n, (List.getElem?_append_left listed).trans found, fun other => ?_⟩
    obtain ⟨f', changed, shape, literals⟩ := exchanged other
    rw [List.set_append_left i _ within, List.set_append_left n _ listed, ← literals, ← same]
    exact ⟨join f' g, more changed follows, alike shape rfl, rfl⟩
  · rw [List.getElem?_append_right beyond] at here
    cases later : i - s.length with
    | zero =>
      rw [later] at here
      exact absurd (Option.some.inj here) (plain inner)
    | succ j =>
      rw [later] at here
      obtain ⟨n, found, exchanged⟩ := second j inner here
      refine ⟨f.literals.length + n, ?_, fun other => ?_⟩
      · rw [List.getElem?_append_right (Nat.le_add_right _ _), Nat.add_sub_cancel_left]
        exact found
      · obtain ⟨g', changed, shape, literals⟩ := exchanged other
        rw [List.set_append_right _ _ beyond, later,
          List.set_append_right _ _ (Nat.le_add_right _ _), Nat.add_sub_cancel_left, ← literals,
          ← same]
        exact ⟨join f g', more derives changed, alike rfl shape, rfl⟩

end Exchange

/-- Each string in a derivation decides one literal. -/
theorem Derives.exchange {part : Part} {s : List TokenKind} {f : Filter}
    (derives : Derives part s f) : Exchanges (Derives part) s f := by
  induction derives with
  | conjunction _ ih => exact ih.mono .conjunction
  | term _ ih => exact ih.mono .term
  | group _ ih => exact ih.mono .group
  | property _ ih => exact ih.mono .property
  | or left right first second =>
    refine first.join .or (.or · · false) second left right (by simp) .or (fun _ _ => rfl) ?_
    intro f g f' g' same alike
    rw [shape, shape, same, alike]
  | and left right first second =>
    refine first.join .and (.and · · false) second left right (by simp) .and (fun _ _ => rfl) ?_
    intro f g f' g' same alike
    rw [shape, shape, same, alike]
  | not _ ih =>
    refine ih.cons .exclamation (toggled true) (by simp) .not (literals_toggled true) ?_
    intro f g same
    rw [shape_toggled, shape_toggled, same]
  | notGroup _ ih =>
    refine ih.cons .exclamation (toggled true) (by simp) .notGroup (literals_toggled true) ?_
    intro f g same
    rw [shape_toggled, shape_toggled, same]
  | parentheses _ ih =>
    have inner : Exchanges (fun t g => Derives .group (.opening :: t) g) _ _ :=
      ih.concat .closing (by simp) .parentheses
    exact inner.cons .opening id (by simp) id (fun _ => rfl) id
  | @allElements name _ _ clause =>
    have inner : Exchanges (fun t g => Derives .property (.identifier name :: t) g) _ _ :=
      (clause_exchange clause).cons .asterisk (.collection name · .all false) (by simp) .allElements
        (fun _ => rfl) (shape_collection name .all)
    exact inner.cons (.identifier name) id (by simp) id (fun _ => rfl) id
  | @all name _ _ _ ih =>
    have inner : Exchanges (fun t g => Derives .property (.identifier name :: t) g) _ _ :=
      ih.cons .asterisk (.collection name · .all false) (by simp) .all (fun _ => rfl)
        (shape_collection name .all)
    exact inner.cons (.identifier name) id (by simp) id (fun _ => rfl) id
  | @any name _ _ _ ih =>
    exact ih.cons (.identifier name) (.collection name · .any false) (by simp) .any (fun _ => rfl)
      (shape_collection name .any)
  | @clause name _ _ only =>
    exact (clause_exchange only).cons (.identifier name) id (by simp) .clause (fun _ => rfl) id

/-! ### Quoted texts -/

theorem detached_quote (rest : List Char) : Detached ('\'' :: rest) := by
  rintro c ⟨⟩
  exact ⟨by decide, by decide, by decide⟩

/-- A string token that spans a quoted run of characters has just these. -/
theorem quotedBody?_of_spans {position : Nat} {body : String} {x rest : List Char}
    (found : ⟨.string body, position, position + Text.byteSize ('\'' :: (x ++ ['\'']))⟩ ∈
      tokensFrom position ('\'' :: (x ++ '\'' :: rest))) :
    Lexeme.quotedBody? (x ++ '\'' :: rest) = some (x, rest) := by
  rw [tokensFrom_cons (by decide)] at found
  rcases List.mem_cons.mp found with here | later
  · injection here with kind _ size
    rw [first_quote] at kind size
    cases closed : Lexeme.quotedBody? (x ++ '\'' :: rest) with
    | none =>
      rw [closed] at kind
      cases kind
    | some result =>
      obtain ⟨inner, after⟩ := result
      rw [closed] at size
      have whole := Lexeme.quotedBody?_append closed
      simp only [Text.byteSize, Text.byteSize_append] at size
      obtain ⟨w, rfl, left⟩ := append_eq_of_byteSize_le whole.symm (by omega)
      rw [Text.byteSize_append] at size
      cases w with
      | nil =>
        cases left
        rw [List.append_nil]
      | cons c w =>
        have wide := Char.utf8Size_pos c
        rw [Text.byteSize] at size
        omega
  · obtain ⟨v, text, -⟩ := first_split '\'' (x ++ '\'' :: rest)
    have after := start_of_mem_tokensFrom later
    have wide := Char.utf8Size_pos '\''
    rw [text, Text.byteSize] at after
    simp only at after
    omega

/-- The tokens before and after a string are the same for any other string in its place. -/
theorem kinds_of_spans {before x after : List Char} {body : String}
    (spans : ⟨.string body, Text.byteSize before,
        Text.byteSize before + Text.byteSize ('\'' :: (x ++ ['\'']))⟩ ∈
      tokensFrom 0 (before ++ '\'' :: (x ++ '\'' :: after))) :
    ∃ s t, kinds (tokensFrom 0 (before ++ '\'' :: (x ++ '\'' :: after))) =
        s ++ .string (String.ofList x) :: t ∧
      ∀ value : List Char,
        kinds (tokensFrom 0 (before ++ '\'' :: (Text.doubleQuotes value ++ '\'' :: after))) =
          s ++ .string (String.ofList (Text.doubleQuotes value)) :: t := by
  have string {y : List Char} (closed : Lexeme.quotedBody? (y ++ '\'' :: after) = some (y, after)) :
      kinds (tokensFrom 0 ('\'' :: (y ++ '\'' :: after))) =
        .string (String.ofList y) :: kinds (tokensFrom 0 after) := by
    rw [tokensFrom_cons (by decide), kinds_cons, first_quote, closed]
    exact congrArg _ (kinds_tokensFrom _ _ _)
  obtain ⟨s, reaches, found⟩ := reaches_of_start spans (Nat.zero_add _).symm
  rw [Nat.zero_add] at found
  have closed := quotedBody?_of_spans found
  obtain ⟨alone, -⟩ := quotedBody?_move closed
  refine ⟨s, kinds (tokensFrom 0 after), ?_, fun value => ?_⟩
  · rw [reaches.kinds_append, string closed]
  · have moved : Reaches ('\'' :: (Text.doubleQuotes value ++ '\'' :: after)) before s :=
      reaches.move (detached_quote _) (detached_quote _) (fun _ => rfl)
        (Or.inr (List.cons_ne_nil _ _))
    rw [moved.kinds_append, string (quotedBody?_doubleQuotes alone value)]

/-- A text with a quoted value, as characters. -/
theorem toList_around (before body after : String) :
    (before ++ "'" ++ body ++ "'" ++ after).toList =
      before.toList ++ '\'' :: (body.toList ++ '\'' :: after.toList) := by
  simp

/-- A text in which a string token spans what stands between two quotes, and which parses, parses
with any other value written there in quotes. Of the filter, one literal changes, and it is the
value; properties, operators, quantifiers, negations, groups and the number of literals stay. -/
theorem quoted_value_changes_one_literal {before inner after body : String} {node : Filter}
    (parsed : parse (before ++ "'" ++ inner ++ "'" ++ after) = .ok (some node))
    (spans : ⟨.string body, Text.byteSize before.toList,
        Text.byteSize (before ++ "'" ++ inner ++ "'").toList⟩ ∈
      tokens (before ++ "'" ++ inner ++ "'" ++ after)) :
    ∃ n, node.literals[n]? = some (some (unquoted inner)) ∧
      ∀ value, ∃ changed, parse (before ++ Text.quoted value ++ after) = .ok (some changed) ∧
        changed.shape = node.shape ∧ changed.literals = node.literals.set n (some value) := by
  have size : Text.byteSize (before ++ "'" ++ inner ++ "'").toList =
      Text.byteSize before.toList + Text.byteSize ('\'' :: (inner.toList ++ ['\''])) := by
    rw [← Text.byteSize_append]
    simp
  rw [tokens, toList_around, size] at spans
  obtain ⟨s, t, original, replaced⟩ := kinds_of_spans spans
  rw [String.ofList_toList] at original
  obtain ⟨derives, low, few⟩ := parse_eq_some_iff.mp parsed
  rw [textKinds, tokens, toList_around, original] at derives few
  obtain ⟨n, found, exchanged⟩ := derives.exchange s.length inner (by simp)
  refine ⟨n, found, fun value => ?_⟩
  obtain ⟨changed, derived, shape, literals⟩ :=
    exchanged (String.ofList (Text.doubleQuotes value.toList))
  have read : textKinds (before ++ Text.quoted value ++ after) =
      s ++ .string (String.ofList (Text.doubleQuotes value.toList)) :: t := by
    rw [← replaced, textKinds, tokens, Text.quoted, ← String.append_assoc, ← String.append_assoc,
      toList_around, String.toList_ofList]
  have lower : changed.height ≤ maxDepth := by
    rw [← height_shape, shape, height_shape]
    exact low
  have plain (text : String) : Plain (.string text) := by simp [Plain]
  have fewer := (openAtMost_insert (plain (String.ofList (Text.doubleQuotes value.toList)))).mpr
    ((openAtMost_insert (plain inner)).mp few)
  rw [List.set_append_right _ _ (Nat.le_refl _), Nat.sub_self] at derived
  refine ⟨changed, parse_of_derives read derived lower fewer, shape, ?_⟩
  rw [literals, unquoted, String.toList_ofList, Text.undoubleQuotes_doubleQuotes,
    String.ofList_toList]

/-- The text `a=='x'|b>3` with any value for the string. -/
theorem quoted_value_in_disjunction :
    ∃ node, parse ("a==" ++ "'" ++ "x" ++ "'" ++ "|b>3") = .ok (some node) ∧
      ∃ n, node.literals[n]? = some (some "x") ∧
        ∀ value, ∃ changed, parse ("a==" ++ Text.quoted value ++ "|b>3") = .ok (some changed) ∧
          changed.shape = node.shape ∧ changed.literals = node.literals.set n (some value) := by
  have listed : tokens ("a==" ++ "'" ++ "x" ++ "'" ++ "|b>3") =
      [⟨.identifier "a", 0, 1⟩, ⟨.operator .equal, 1, 3⟩, ⟨.string "x", 3, 6⟩, ⟨.or, 6, 7⟩,
        ⟨.identifier "b", 7, 8⟩, ⟨.operator .greater, 8, 9⟩, ⟨.number "3", 9, 10⟩] := by
    decide +kernel
  have spans : ⟨.string "x", Text.byteSize "a==".toList,
      Text.byteSize ("a==" ++ "'" ++ "x" ++ "'").toList⟩ ∈
        tokens ("a==" ++ "'" ++ "x" ++ "'" ++ "|b>3") := by
    rw [listed]
    simp [Text.byteSize, Char.utf8Size]
  have a := Derives.term (.property (@Derives.clause "a" _ _ (.exact .equal (.last (.string "x")))))
  have b := Derives.term (.property (@Derives.clause "b" _ _ (.exact .greater (.last (.number "3")))))
  have whole := Derives.or (.conjunction a) b
  have parsed := parse_of_derives (congrArg kinds listed) whole (by decide)
    (openAtMost_of_length (by decide))
  exact ⟨_, parsed, quoted_value_changes_one_literal parsed spans⟩

end ListQuery.Filter
