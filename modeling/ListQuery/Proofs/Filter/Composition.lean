import ListQuery.Proofs.Compile.Outcome
import ListQuery.Proofs.Filter.Parsing
import ListQuery.Sample.Models

/-! Filter texts compose as what they accept does. Texts put between parentheses, negated or joined
keep their tokens, so the parser finds the filters of the parts in the filter of the whole; and
the compiler joins, negates and passes over what the parts come to. -/

namespace ListQuery.Filter

open ListQuery.Compile (filter_and_eq_ok filter_or_eq_ok filter_toggled_result)
open ListQuery.Traced (result_bind)

/-! ### What compiled filters accept -/

/-- What a compiled filter accepts, unless all of it is dropped. -/
def accepted (compiled : Option Predicate) : Option (Value → Bool) :=
  compiled.map Predicate.holds

/-- Two conditions joined value by value. What is dropped leaves the other as it is. -/
def merged (join : Bool → Bool → Bool) :
    Option (Value → Bool) → Option (Value → Bool) → Option (Value → Bool)
  | some left, some right => some fun value => join (left value) (right value)
  | some one, none | none, some one => some one
  | none, none => none

/-- The opposite condition. -/
def complement (condition : Option (Value → Bool)) : Option (Value → Bool) :=
  condition.map fun test value => !test value

theorem accepted_combine_and (left right : Option Predicate) :
    accepted (Compile.combine .and left right) =
      merged (· && ·) (accepted left) (accepted right) := by
  cases left <;> cases right <;> rfl

theorem accepted_combine_or (left right : Option Predicate) :
    accepted (Compile.combine .or left right) =
      merged (· || ·) (accepted left) (accepted right) := by
  cases left <;> cases right <;> rfl

theorem merged_or_assoc (a b c : Option (Value → Bool)) :
    merged (· || ·) (merged (· || ·) a b) c = merged (· || ·) a (merged (· || ·) b c) := by
  cases a <;> cases b <;> cases c <;> simp [merged, Bool.or_assoc]

theorem accepted_negatedIf_not (compiled : Option Predicate) (negated : Bool) :
    accepted (compiled.map (·.negatedIf (negated ^^ true))) =
      complement (accepted (compiled.map (·.negatedIf negated))) := by
  cases compiled with
  | none => rfl
  | some predicate =>
    refine congrArg some (funext fun value => ?_)
    cases negated <;> simp [Predicate.negatedIf, Predicate.holds]

theorem map_negatedIf_false (compiled : Option Predicate) :
    compiled.map (·.negatedIf false) = compiled := by
  cases compiled <;> rfl

/-! ### What the compiler makes of negations and joins -/

variable {M : Type} [Schema M] [DecidableEq M] {config : Config M} {scope : Scope M}

private theorem negated_result {plain : Except QueryError (Option Predicate)} {negated : Bool}
    {p : Option Predicate} (compiled : plain.map (Option.map (·.negatedIf negated)) = .ok p) :
    ∃ r, plain.map (Option.map (·.negatedIf (negated ^^ true))) = .ok r ∧
      accepted r = complement (accepted p) := by
  cases plain with
  | error error => cases compiled
  | ok found =>
    cases compiled
    exact ⟨_, rfl, accepted_negatedIf_not found negated⟩

/-- A negated filter comes to the opposite, and to nothing if the filter does. -/
theorem filter_toggled {f : Filter} {p : Option Predicate}
    (compiled : (Compile.filter config scope f).result = .ok p) :
    ∃ r, (Compile.filter config scope (f.toggled true)).result = .ok r ∧
      accepted r = complement (accepted p) := by
  obtain ⟨plain, negated, same⟩ := filter_toggled_result config scope f
  have own := same false
  rw [toggled_false, Bool.xor_false] at own
  rw [own] at compiled
  rw [same]
  exact negated_result compiled

/-! ### What texts of texts derive -/

variable (config scope) in
/-- A filter joined to another without parentheses: the operands associate from the left, and the
result accepts what either accepts. -/
theorem derives_or_join {s t : List TokenKind} {f g : Filter}
    (left : Derives .disjunction s f) (right : Derives .disjunction t g) :
    ∃ whole, Derives .disjunction (s ++ .or :: t) whole ∧
      ∀ {p q}, (Compile.filter config scope f).result = .ok p →
        (Compile.filter config scope g).result = .ok q →
          ∃ r, (Compile.filter config scope whole).result = .ok r ∧
            accepted r = merged (· || ·) (accepted p) (accepted q) := by
  generalize same : Part.disjunction = part at right
  induction right with
  | conjunction only =>
    refine ⟨_, left.or only, fun first second => ?_⟩
    refine ⟨_, filter_or_eq_ok.mpr ⟨_, _, first, second, rfl⟩, ?_⟩
    rw [map_negatedIf_false, accepted_combine_or]
  | or before after ih =>
    obtain ⟨whole, derives, compiles⟩ := ih rfl
    have joined := derives.or after
    rw [List.append_assoc] at joined
    refine ⟨_, joined, fun first second => ?_⟩
    obtain ⟨a, b, one, two, rfl⟩ := filter_or_eq_ok.mp second
    obtain ⟨r, found, accepts⟩ := compiles first one
    refine ⟨_, filter_or_eq_ok.mpr ⟨r, b, found, two, rfl⟩, ?_⟩
    rw [map_negatedIf_false, map_negatedIf_false, accepted_combine_or, accepted_combine_or, accepts,
      merged_or_assoc]
  | term | and | not | group | property | notGroup | parentheses | allElements | all | any
  | clause => cases same

/-- A filter between parentheses. -/
theorem derives_parentheses {s : List TokenKind} {f : Filter} (derives : Derives .disjunction s f) :
    Derives .term (.opening :: (s ++ [.closing])) f :=
  .group (.parentheses derives)

/-! ### The tokens of texts of texts -/

/-- The characters that are tokens by themselves, if no equals sign follows. -/
def marks : List Char :=
  [',', '(', ')', '!', '*', '&', '|']

section Marks
variable {c : Char} {rest : List Char}

theorem leading?_mark (mark : c ∈ marks) (apart : rest.head? ≠ some '=') :
    Operator.leading? (c :: rest) = none := by
  refine List.find?_eq_none.mpr fun op _ => ?_
  have other : ∀ d ∈ rest.head?, '=' ≠ d := by
    rintro d head rfl
    exact apart head
  simp only [marks, List.mem_cons, List.not_mem_nil, or_false] at mark
  rcases mark with rfl | rfl | rfl | rfl | rfl | rfl | rfl <;> cases rest <;> cases op <;>
    simp_all [Operator.symbol, List.isPrefixOf]

/-- No mark belongs to a name, a number, a string or a blank, nor to an operator but as its
first character. -/
theorem mark_apart (mark : c ∈ marks) :
    (c.isDigit = false ∧ Lexeme.isNameChar c = false ∧ Text.isBlank c = false) ∧
      c ≠ '=' ∧ c ≠ '-' ∧ c ≠ '\'' := by
  simp only [marks, List.mem_cons, List.not_mem_nil, or_false] at mark
  rcases mark with rfl | rfl | rfl | rfl | rfl | rfl | rfl <;> decide

theorem first_mark {k : TokenKind} (mark : c ∈ marks) (single : Lexeme.single? c = some k)
    (apart : rest.head? ≠ some '=') : Lexeme.first c rest = ⟨k, [c], rest⟩ := by
  obtain ⟨⟨digit, -⟩, -, minus, -⟩ := mark_apart mark
  have number : Lexeme.startsNumber c rest = false := by
    rw [Lexeme.startsNumber, digit, beq_eq_false_iff_ne.mpr minus]
    rfl
  rw [Lexeme.first, leading?_mark mark apart]
  simp only [number, single]
  rfl

theorem kinds_mark {k : TokenKind} (mark : c ∈ marks) (single : Lexeme.single? c = some k)
    (apart : rest.head? ≠ some '=') :
    kinds (tokensFrom 0 (c :: rest)) = k :: kinds (tokensFrom 0 rest) := by
  obtain ⟨⟨-, -, solid⟩, -⟩ := mark_apart mark
  rw [tokensFrom_cons solid, kinds_cons, first_mark mark single apart]
  exact congrArg _ (kinds_tokensFrom _ _ _)

/-- A text of whole tokens keeps them before a mark. -/
theorem kinds_before_mark {u : List Char} (mark : c ∈ marks)
    (legal : ∀ k ∈ kinds (tokensFrom 0 u), k.isLegal = true) :
    kinds (tokensFrom 0 (u ++ c :: rest)) =
      kinds (tokensFrom 0 u) ++ kinds (tokensFrom 0 (c :: rest)) := by
  obtain ⟨⟨-, name, -⟩, equals, minus, quote⟩ := mark_apart mark
  have detached : Detached (c :: rest) := by
    rintro _ ⟨⟩
    exact ⟨name, equals, minus⟩
  have unquoted : (c :: rest).head? = some '\'' → ([] : List Char).head? = some '\'' :=
    fun head => absurd (Option.some.inj head) quote
  have closed : .unterminated ∉ kinds (tokensFrom 0 u) := by
    intro among
    cases legal _ among
  have moved := (reaches_end u 0).move nofun detached unquoted (Or.inl closed)
  exact moved.kinds_append 0

end Marks

/-- The text of a filter does not begin with an equals sign. -/
theorem head_ne_equals {text : String} {part : Part} {node : Filter}
    (derives : Derives part (textKinds text) node) : text.toList.head? ≠ some '=' := by
  intro begins
  obtain ⟨rest, same⟩ := List.head?_eq_some_iff.mp begins
  obtain ⟨k, t, read, head⟩ := derives.head
  rw [textKinds, tokens, same, tokensFrom_cons (by decide), kinds_cons] at read
  have operator : (Lexeme.first '=' rest).kind.isOperator = true := by
    unfold Lexeme.first
    split <;> rfl
  have kind : (Lexeme.first '=' rest).kind = k := (List.cons.inj read).1
  rw [kind] at operator
  rcases head with rfl | rfl | ⟨name, rfl⟩ <;> cases operator

/-- A filter's text between parentheses, with what follows them. -/
theorem kinds_parentheses {text : String} {rest : List Char} {node : Filter}
    (derives : Derives .disjunction (textKinds text) node) (apart : rest.head? ≠ some '=') :
    kinds (tokensFrom 0 ('(' :: (text.toList ++ ')' :: rest))) =
      .opening :: (textKinds text ++ .closing :: kinds (tokensFrom 0 rest)) := by
  have begins : (text.toList ++ ')' :: rest).head? ≠ some '=' := by
    cases same : text.toList with
    | nil => exact nofun
    | cons c more =>
      have other := head_ne_equals derives
      rw [same] at other
      exact other
  rw [kinds_mark (by decide) rfl begins, kinds_before_mark (by decide) derives.legal,
    kinds_mark (by decide) rfl apart]
  rfl

private theorem nil_head_ne_equals : ([] : List Char).head? ≠ some '=' :=
  nofun

section Texts
variable {f g : String} {first second : Filter}

theorem textKinds_parentheses (derives : Derives .disjunction (textKinds f) first) :
    textKinds ("(" ++ f ++ ")") = .opening :: (textKinds f ++ [.closing]) := by
  have text : ("(" ++ f ++ ")").toList = '(' :: (f.toList ++ [')']) := by simp
  rw [textKinds, tokens, text, kinds_parentheses derives nil_head_ne_equals, tokensFrom_nil]
  rfl

theorem textKinds_negated (derives : Derives .disjunction (textKinds f) first) :
    textKinds ("!(" ++ f ++ ")") = .exclamation :: .opening :: (textKinds f ++ [.closing]) := by
  have text : ("!(" ++ f ++ ")").toList = '!' :: '(' :: (f.toList ++ [')']) := by simp
  have next : ('(' :: (f.toList ++ [')'])).head? ≠ some '=' := by simp
  rw [textKinds, tokens, text, kinds_mark (by decide) rfl next,
    kinds_parentheses derives nil_head_ne_equals, tokensFrom_nil]
  rfl

/-- Two texts between parentheses, with a mark that joins them. -/
theorem kinds_joined {c : Char} {k : TokenKind} (mark : c ∈ marks)
    (single : Lexeme.single? c = some k) (left : Derives .disjunction (textKinds f) first)
    (right : Derives .disjunction (textKinds g) second) :
    kinds (tokensFrom 0 ('(' :: (f.toList ++ ')' :: c :: '(' :: (g.toList ++ [')'])))) =
      .opening :: (textKinds f ++ [.closing]) ++ k :: .opening :: (textKinds g ++ [.closing]) := by
  obtain ⟨-, equals, -⟩ := mark_apart mark
  have next : (c :: '(' :: (g.toList ++ [')'])).head? ≠ some '=' :=
    fun same => equals (Option.some.inj same)
  have after : ('(' :: (g.toList ++ [')'])).head? ≠ some '=' := by simp
  rw [kinds_parentheses left next, kinds_mark mark single after,
    kinds_parentheses right nil_head_ne_equals, tokensFrom_nil]
  simp [kinds]

theorem textKinds_and (left : Derives .disjunction (textKinds f) first)
    (right : Derives .disjunction (textKinds g) second) :
    textKinds ("(" ++ f ++ ")&(" ++ g ++ ")") =
      .opening :: (textKinds f ++ [.closing]) ++
        .and :: .opening :: (textKinds g ++ [.closing]) := by
  rw [← kinds_joined (c := '&') (by decide) rfl left right, textKinds, tokens]
  simp

theorem textKinds_or (left : Derives .disjunction (textKinds f) first)
    (right : Derives .disjunction (textKinds g) second) :
    textKinds ("(" ++ f ++ ")|(" ++ g ++ ")") =
      .opening :: (textKinds f ++ [.closing]) ++
        .or :: .opening :: (textKinds g ++ [.closing]) := by
  rw [← kinds_joined (c := '|') (by decide) rfl left right, textKinds, tokens]
  simp

theorem textKinds_bare_or (left : Derives .disjunction (textKinds f) first)
    (right : Derives .disjunction (textKinds g) second) :
    textKinds (f ++ "|" ++ g) = textKinds f ++ .or :: textKinds g := by
  have text : (f ++ "|" ++ g).toList = f.toList ++ '|' :: g.toList := by simp
  rw [textKinds, tokens, text, kinds_before_mark (by decide) left.legal,
    kinds_mark (by decide) rfl (head_ne_equals right)]
  rfl

end Texts

/-- The text keeps within the limits on open parentheses and on the height of its filter. -/
def WithinLimits (text : String) : Prop :=
  OpenAtMost maxDepth (textKinds text) ∧
    ∀ node, Derives .disjunction (textKinds text) node → node.height ≤ maxDepth

theorem withinLimits_of_derives {text : String} {s : List TokenKind} {node : Filter}
    (read : textKinds text = s) (derives : Derives .disjunction s node)
    (low : node.height ≤ maxDepth) (few : s.length ≤ maxDepth) : WithinLimits text := by
  subst read
  refine ⟨openAtMost_of_length few, fun other derived => ?_⟩
  rw [derived.unique derives]
  exact low

/-- A text within the limits compiles as the filter that it derives. -/
theorem compileFilter_of_derives {model : M} {text : String} {s : List TokenKind} {node : Filter}
    (limited : WithinLimits text) (read : textKinds text = s)
    (derives : Derives .disjunction s node) :
    (compileFilter config model text).result =
      (Compile.filter config (.model model) node).result := by
  subst read
  exact compileFilter_result (parse_of_derives rfl derives (limited.2 node derives) limited.1)

/-- Filter texts compose as a Boolean algebra. Parentheses change nothing; an exclamation mark
before them gives the opposite; joined texts accept what both or either accept; and what is
dropped leaves the other side as it is. -/
theorem filter_texts_compose {model : M} {f : String} {first : Filter} {p : Option Predicate}
    (parsed : parse f = .ok (some first)) (compiled : (compileFilter config model f).result = .ok p) :
    (WithinLimits ("(" ++ f ++ ")") →
      (compileFilter config model ("(" ++ f ++ ")")).result = .ok p) ∧
    (WithinLimits ("!(" ++ f ++ ")") →
      ∃ r, (compileFilter config model ("!(" ++ f ++ ")")).result = .ok r ∧
        accepted r = complement (accepted p)) ∧
    ∀ {g : String} {second : Filter} {q : Option Predicate}, parse g = .ok (some second) →
      (compileFilter config model g).result = .ok q →
        (WithinLimits ("(" ++ f ++ ")&(" ++ g ++ ")") →
          ∃ r, (compileFilter config model ("(" ++ f ++ ")&(" ++ g ++ ")")).result = .ok r ∧
            accepted r = merged (· && ·) (accepted p) (accepted q)) ∧
        (WithinLimits ("(" ++ f ++ ")|(" ++ g ++ ")") →
          ∃ r, (compileFilter config model ("(" ++ f ++ ")|(" ++ g ++ ")")).result = .ok r ∧
            accepted r = merged (· || ·) (accepted p) (accepted q)) ∧
        (WithinLimits (f ++ "|" ++ g) →
          ∃ r, (compileFilter config model (f ++ "|" ++ g)).result = .ok r ∧
            accepted r = merged (· || ·) (accepted p) (accepted q)) := by
  have left := (parse_eq_some_iff.mp parsed).1
  rw [compileFilter_result parsed] at compiled
  refine ⟨fun limited => ?_, fun limited => ?_, ?_⟩
  · have whole := Derives.conjunction (.term (derives_parentheses left))
    rw [compileFilter_of_derives limited (textKinds_parentheses left) whole]
    exact compiled
  · have whole := Derives.conjunction (.term (.not (derives_parentheses left)))
    rw [compileFilter_of_derives limited (textKinds_negated left) whole]
    exact filter_toggled compiled
  · intro g second q parsedNext compiledNext
    have right := (parse_eq_some_iff.mp parsedNext).1
    rw [compileFilter_result parsedNext] at compiledNext
    refine ⟨fun limited => ?_, fun limited => ?_, fun limited => ?_⟩
    · have whole := Derives.conjunction
        (.and (.term (derives_parentheses left)) (derives_parentheses right))
      rw [compileFilter_of_derives limited (textKinds_and left right) whole]
      refine ⟨_, filter_and_eq_ok.mpr ⟨p, q, compiled, compiledNext, rfl⟩, ?_⟩
      rw [map_negatedIf_false, accepted_combine_and]
    · have whole := Derives.or (.conjunction (.term (derives_parentheses left)))
        (.term (derives_parentheses right))
      rw [compileFilter_of_derives limited (textKinds_or left right) whole]
      refine ⟨_, filter_or_eq_ok.mpr ⟨p, q, compiled, compiledNext, rfl⟩, ?_⟩
      rw [map_negatedIf_false, accepted_combine_or]
    · obtain ⟨whole, derives, compiles⟩ := derives_or_join config (.model model) left right
      rw [compileFilter_of_derives limited (textKinds_bare_or left right) derives]
      exact compiles compiled compiledNext

/-- A text composed with one of which a half is dropped: the model has no property `c`. -/
theorem filter_texts_compose_with_dropped :
    ∃ p q, (compileFilter {} Sample.Model.pair "a==1").result = .ok (some p) ∧
      (compileFilter {} Sample.Model.pair "c==1|b==2").result = .ok (some q) ∧
      (∃ r, (compileFilter {} Sample.Model.pair ("!(" ++ "a==1" ++ ")")).result = .ok r ∧
        accepted r = complement (accepted (some p))) ∧
      ∃ r, (compileFilter {} Sample.Model.pair ("a==1" ++ "|" ++ "c==1|b==2")).result = .ok r ∧
        accepted r = merged (· || ·) (accepted (some p)) (accepted (some q)) := by
  have readA : textKinds "a==1" = [.identifier "a", .operator .equal, .number "1"] := by
    decide +kernel
  have readB : textKinds "c==1|b==2" =
      [.identifier "c", .operator .equal, .number "1"] ++
        .or :: [.identifier "b", .operator .equal, .number "2"] := by
    decide +kernel
  have equals (name numeral : String) : Derives .conjunction
      [.identifier name, .operator .equal, .number numeral]
      (.clause name .equal [some numeral] false false) :=
    .term (.property (.clause (.exact .equal (.last (.number numeral)))))
  have a := Derives.conjunction (equals "a" "1")
  have b := Derives.or (.conjunction (equals "c" "1")) (equals "b" "2")
  have parsedA := parse_of_derives readA a (by decide) (openAtMost_of_length (by decide))
  have parsedB := parse_of_derives readB b (by decide) (openAtMost_of_length (by decide))
  have compiledA : (compileFilter {} Sample.Model.pair "a==1").result =
      .ok (some (.compare ⟨["a"], false⟩ .eq (.int 1))) := by
    rw [compileFilter_result parsedA]
    rfl
  have compiledB : (compileFilter {} Sample.Model.pair "c==1|b==2").result =
      .ok (some (.compare ⟨["b"], false⟩ .eq (.int 2))) := by
    rw [compileFilter_result parsedB]
    rfl
  have left : Derives .disjunction (textKinds "a==1") _ := readA.symm ▸ a
  have right : Derives .disjunction (textKinds "c==1|b==2") _ := readB.symm ▸ b
  have notA := withinLimits_of_derives (textKinds_negated left)
    (.conjunction (.term (.not (derives_parentheses left)))) (by decide) (by rw [readA]; decide)
  have either := Derives.or (.or a (equals "c" "1")) (equals "b" "2")
  have limited : WithinLimits ("a==1" ++ "|" ++ "c==1|b==2") :=
    withinLimits_of_derives (by rw [textKinds_bare_or left right, readA, readB]; rfl) either
      (by decide) (by decide)
  obtain ⟨-, negates, joins⟩ := filter_texts_compose parsedA compiledA
  obtain ⟨-, -, merges⟩ := joins parsedB compiledB
  exact ⟨_, _, compiledA, compiledB, negates notA, merges limited⟩

end ListQuery.Filter
