import ListQuery.Proofs.Filter.Derivation

/-! Where a text can go on without a change to the tokens before. Every token but a string is told
by its own characters and the one after them. A string ends at the first quote that no other quote
follows, so what stands after it matters only when it begins with a quote. -/

namespace ListQuery.Filter

/-! ### Tokens one by one -/

theorem tokensFrom_of_allBlank {text : List Char} (none : text.dropWhile Text.isBlank = [])
    (position : Nat) : tokensFrom position text = [] := by
  rw [tokensFrom]
  split
  · rfl
  · rename_i left
    rw [none] at left
    cases left

theorem tokensFrom_of_first {text : List Char} {c : Char} {rest : List Char}
    (left : text.dropWhile Text.isBlank = c :: rest) (position : Nat) :
    tokensFrom position text =
      let start := position + Text.byteSize (text.takeWhile Text.isBlank)
      let stop := start + Text.byteSize (Lexeme.first c rest).text
      ⟨(Lexeme.first c rest).kind, start, stop⟩ :: tokensFrom stop (Lexeme.first c rest).rest := by
  rw [tokensFrom]
  split
  · rename_i none
    rw [left] at none
    cases none
  · rename_i same
    rw [left] at same
    cases same
    rfl

theorem tokensFrom_nil (position : Nat) : tokensFrom position [] = [] :=
  tokensFrom_of_allBlank rfl position

/-- A blank is passed over. -/
theorem tokensFrom_blank {c : Char} (blank : Text.isBlank c = true) (position : Nat)
    (rest : List Char) :
    tokensFrom position (c :: rest) = tokensFrom (position + c.utf8Size) rest := by
  have dropped : (c :: rest).dropWhile Text.isBlank = rest.dropWhile Text.isBlank :=
    List.dropWhile_cons_of_pos blank
  cases left : rest.dropWhile Text.isBlank with
  | nil => rw [tokensFrom_of_allBlank left, tokensFrom_of_allBlank (dropped.trans left)]
  | cons d more =>
    rw [tokensFrom_of_first left, tokensFrom_of_first (dropped.trans left),
      List.takeWhile_cons_of_pos blank, Text.byteSize, ← Nat.add_assoc]

/-- Any other character begins a token. -/
theorem tokensFrom_cons {c : Char} (solid : Text.isBlank c = false) (position : Nat)
    (rest : List Char) :
    tokensFrom position (c :: rest) =
      ⟨(Lexeme.first c rest).kind, position,
        position + Text.byteSize (Lexeme.first c rest).text⟩ ::
      tokensFrom (position + Text.byteSize (Lexeme.first c rest).text)
        (Lexeme.first c rest).rest := by
  have not : ¬ Text.isBlank c = true := Bool.eq_false_iff.mp solid
  rw [tokensFrom_of_first (List.dropWhile_cons_of_neg not), List.takeWhile_cons_of_neg not]
  rfl

/-- A text is blank, or its first blank is left out, or it begins with a token: for induction
along the tokens. -/
theorem tokens_induction {motive : List Char → Prop} (nil : motive [])
    (blank : ∀ c rest, Text.isBlank c = true → motive rest → motive (c :: rest))
    (token : ∀ c rest, Text.isBlank c = false → motive (Lexeme.first c rest).rest →
      motive (c :: rest)) (text : List Char) : motive text := by
  induction size : text.length using Nat.strongRecOn generalizing text with
  | ind n ih =>
    cases text with
    | nil => exact nil
    | cons c rest =>
      subst size
      cases solid : Text.isBlank c with
      | true => exact blank c rest solid (ih _ (Nat.lt_succ_self _) rest rfl)
      | false => exact token c rest solid (ih _ (Lexeme.first_rest_length c rest) _ rfl)

/-- Where a text begins makes no difference to the kinds of its tokens. -/
theorem kinds_tokensFrom (text : List Char) (position other : Nat) :
    kinds (tokensFrom position text) = kinds (tokensFrom other text) := by
  induction text using tokens_induction generalizing position other with
  | nil => rw [tokensFrom_nil, tokensFrom_nil]
  | blank c rest blank ih =>
    rw [tokensFrom_blank blank, tokensFrom_blank blank]
    exact ih _ _
  | token c rest solid ih =>
    rw [tokensFrom_cons solid, tokensFrom_cons solid, kinds_cons, kinds_cons]
    exact congrArg _ (ih _ _)

/-- Tokens begin where their text does, or later. -/
theorem start_of_mem_tokensFrom {text : List Char} {position : Nat} {token : Token}
    (among : token ∈ tokensFrom position text) : position ≤ token.start := by
  induction text using tokens_induction generalizing position with
  | nil =>
    rw [tokensFrom_nil] at among
    cases among
  | blank c rest blank ih =>
    rw [tokensFrom_blank blank] at among
    exact Nat.le_of_add_right_le (ih among)
  | token c rest solid ih =>
    rw [tokensFrom_cons solid] at among
    rcases List.mem_cons.mp among with rfl | later
    · exact Nat.le_refl _
    · exact Nat.le_of_add_right_le (ih later)

/-! ### What stands after a token -/

/-- No character at the head belongs to a token that is no string and began before. -/
def Detached (rest : List Char) : Prop :=
  ∀ c ∈ rest.head?, Lexeme.isNameChar c = false ∧ c ≠ '=' ∧ c ≠ '-'

/-- A run of characters ends where something follows that is none of them. -/
theorem takeWhile_append_of_head {test : Char → Bool} {b : List Char}
    (stops : ∀ c ∈ b.head?, test c = false) (u : List Char) :
    (u ++ b).takeWhile test = u.takeWhile test ∧ (u ++ b).dropWhile test = u.dropWhile test ++ b := by
  induction u with
  | nil =>
    cases b with
    | nil => exact ⟨rfl, rfl⟩
    | cons c rest =>
      have not : ¬ test c = true := Bool.eq_false_iff.mp (stops c rfl)
      exact ⟨List.takeWhile_cons_of_neg not, List.dropWhile_cons_of_neg not⟩
  | cons c u ih =>
    cases holds : test c with
    | true => simp [holds, ih]
    | false => simp [holds]

theorem leading?_append {b : List Char} (detached : Detached b) (c : Char) (u : List Char) :
    Operator.leading? (c :: (u ++ b)) = Operator.leading? (c :: u) := by
  have each : ∀ op : Operator, op.symbol.toList.isPrefixOf (c :: (u ++ b)) =
      op.symbol.toList.isPrefixOf (c :: u) := by
    intro op
    rcases u with _ | ⟨d, _ | ⟨e, u⟩⟩
    · cases b with
      | nil => rfl
      | cons x b =>
        obtain ⟨-, equals, minus⟩ := detached x rfl
        cases op <;> simp [Operator.symbol, List.isPrefixOf, Ne.symm equals, Ne.symm minus]
    · cases b with
      | nil => rfl
      | cons x b =>
        cases op <;> simp [Operator.symbol, List.isPrefixOf, Ne.symm (detached x rfl).2.2]
    · cases op <;> simp [Operator.symbol, List.isPrefixOf]
  unfold Operator.leading?
  exact congrArg (fun test => Operator.all.find? test) (funext each)

theorem isNameChar_of_isDigit {c : Char} (digit : c.isDigit = true) :
    Lexeme.isNameChar c = true := by
  have upper : c.val ≤ 57 := by
    rw [Char.isDigit, Bool.and_eq_true, decide_eq_true_eq, decide_eq_true_eq] at digit
    exact digit.2
  have small : c.toNat < 128 := Nat.lt_of_le_of_lt (UInt32.le_iff_toNat_le.mp upper) (by decide)
  simp [Lexeme.isNameChar, Text.isNumber, small, digit]

theorem Detached.not_digit {b : List Char} (detached : Detached b) :
    ∀ c ∈ b.head?, c.isDigit = false := by
  intro c head
  cases digit : c.isDigit with
  | false => rfl
  | true =>
    have name := (detached c head).1
    rw [isNameChar_of_isDigit digit] at name
    cases name

theorem startsNumber_append {b : List Char} (detached : Detached b) (c : Char) (u : List Char) :
    Lexeme.startsNumber c (u ++ b) = Lexeme.startsNumber c u := by
  cases u with
  | cons d u => rfl
  | nil =>
    cases b with
    | nil => rfl
    | cons d b => simp [Lexeme.startsNumber, detached.not_digit d rfl]

theorem fraction?_single (c : Char) : Lexeme.fraction? [c] = none := by
  unfold Lexeme.fraction?
  split
  · rename_i same
    cases same
  · rfl

theorem fraction?_of_no_point {c : Char} (other : c ≠ '.') (rest : List Char) :
    Lexeme.fraction? (c :: rest) = none := by
  unfold Lexeme.fraction?
  split
  · rename_i same
    cases same
    exact absurd rfl other
  · rfl

theorem fraction?_of_no_digit {d : Char} (other : d.isDigit = false) (rest : List Char) :
    Lexeme.fraction? ('.' :: d :: rest) = none := by
  rw [Lexeme.fraction?, if_neg (Bool.eq_false_iff.mp other)]

theorem fraction?_append_of_detached {b : List Char} (detached : Detached b) (u : List Char) :
    Lexeme.fraction? (u ++ b) =
      (Lexeme.fraction? u).map fun (fraction, rest) => (fraction, rest ++ b) := by
  rcases u with _ | ⟨c, _ | ⟨d, u⟩⟩
  · -- What follows cannot be a point.
    cases b with
    | nil => rfl
    | cons x b =>
      have point : x ≠ '.' := by
        rintro rfl
        have name := (detached '.' rfl).1
        revert name
        decide
      exact fraction?_of_no_point point b
  · -- Nor can it be the digit after a point.
    rw [fraction?_single]
    cases b with
    | nil => exact fraction?_single c
    | cons x b =>
      by_cases point : c = '.'
      · subst point
        exact fraction?_of_no_digit (detached.not_digit x rfl) b
      · exact fraction?_of_no_point point (x :: b)
  · by_cases point : c = '.'
    · subst point
      obtain ⟨taken, left⟩ := takeWhile_append_of_head detached.not_digit (d :: u)
      cases digit : d.isDigit with
      | false =>
        rw [fraction?_of_no_digit digit]
        exact fraction?_of_no_digit digit _
      | true =>
        rw [List.cons_append, List.cons_append, Lexeme.fraction?, if_pos digit, ← List.cons_append,
          taken, left, Lexeme.fraction?, if_pos digit]
        rfl
    · rw [fraction?_of_no_point point]
      exact fraction?_of_no_point point _

theorem numeral_append_of_detached {b : List Char} (detached : Detached b) (u : List Char) :
    Lexeme.numeral (u ++ b) = ((Lexeme.numeral u).1, (Lexeme.numeral u).2 ++ b) := by
  obtain ⟨taken, left⟩ := takeWhile_append_of_head detached.not_digit u
  unfold Lexeme.numeral
  rw [taken, left, fraction?_append_of_detached detached]
  cases Lexeme.fraction? (u.dropWhile Char.isDigit) <;> rfl

/-- A token that is no string is told by its own characters. -/
theorem first_append_of_detached {c : Char} {b : List Char} (other : c ≠ '\'')
    (detached : Detached b) (u : List Char) :
    Lexeme.first c (u ++ b) =
      ⟨(Lexeme.first c u).kind, (Lexeme.first c u).text, (Lexeme.first c u).rest ++ b⟩ := by
  obtain ⟨taken, left⟩ := takeWhile_append_of_head (fun c head => (detached c head).1) u
  unfold Lexeme.first
  rw [leading?_append detached, startsNumber_append detached]
  split
  · rename_i op leads
    have fits := (Operator.leading?_isPrefixOf leads).length_le
    rw [← List.cons_append, List.drop_append_of_le_length fits]
  · split
    · split
      · rw [numeral_append_of_detached detached]
      · rw [← List.cons_append, numeral_append_of_detached detached]
    · split
      · rfl
      · split
        · rw [taken, left]
        · rfl

/-! ### Quotes -/

theorem quotedBody?_close {rest : List Char} (alone : rest.head? ≠ some '\'') :
    Lexeme.quotedBody? ('\'' :: rest) = some ([], rest) := by
  rw [Lexeme.quotedBody?]
  rintro more rfl
  exact alone rfl

theorem quotedBody?_cons {c : Char} (other : c ≠ '\'') (rest : List Char) :
    Lexeme.quotedBody? (c :: rest) =
      (Lexeme.quotedBody? rest).map fun (inner, after) => (c :: inner, after) := by
  rw [Lexeme.quotedBody?]
  · rintro more rfl
    exact absurd rfl other
  · exact other

theorem quotedBody?_pair (rest : List Char) :
    Lexeme.quotedBody? ('\'' :: '\'' :: rest) =
      (Lexeme.quotedBody? rest).map fun (inner, after) => ('\'' :: '\'' :: inner, after) := by
  rw [Lexeme.quotedBody?]

/-- A closing quote closes whatever follows, as long as that is no quote. -/
theorem quotedBody?_move {text inner rest : List Char}
    (found : Lexeme.quotedBody? text = some (inner, rest)) :
    rest.head? ≠ some '\'' ∧ ∀ other : List Char, other.head? ≠ some '\'' →
      Lexeme.quotedBody? (inner ++ '\'' :: other) = some (inner, other) := by
  fun_induction Lexeme.quotedBody? text generalizing inner with
  | case1 more ih =>
    obtain ⟨⟨body, after⟩, within, same⟩ := Option.map_eq_some_iff.mp found
    cases same
    obtain ⟨alone, moves⟩ := ih within
    refine ⟨alone, fun other apart => ?_⟩
    rw [List.cons_append, List.cons_append, quotedBody?_pair, moves other apart]
    rfl
  | case2 more single =>
    obtain ⟨rfl, rfl⟩ := Prod.mk.inj (Option.some.inj found)
    refine ⟨?_, fun other apart => quotedBody?_close apart⟩
    intro head
    obtain ⟨later, same⟩ := List.head?_eq_some_iff.mp head
    exact single later same
  | case3 c more pair alone ih =>
    obtain ⟨⟨body, after⟩, within, same⟩ := Option.map_eq_some_iff.mp found
    cases same
    obtain ⟨apart, moves⟩ := ih within
    refine ⟨apart, fun other ends => ?_⟩
    rw [List.cons_append, quotedBody?_cons (fun same => alone same), moves other ends]
    rfl
  | case4 => cases found

/-- A text with its quotes doubled is read up to the quote after it. -/
theorem quotedBody?_doubleQuotes {rest : List Char} (alone : rest.head? ≠ some '\'')
    (text : List Char) :
    Lexeme.quotedBody? (Text.doubleQuotes text ++ '\'' :: rest) =
      some (Text.doubleQuotes text, rest) := by
  induction text with
  | nil => exact quotedBody?_close alone
  | cons c text ih =>
    by_cases quote : c = '\''
    · subst quote
      rw [Text.doubleQuotes, if_pos rfl, List.cons_append, List.cons_append, quotedBody?_pair, ih]
      rfl
    · rw [Text.doubleQuotes, if_neg quote, List.cons_append, quotedBody?_cons quote, ih]
      rfl

/-- A quote begins a string, up to the quote that closes it. -/
theorem first_quote (rest : List Char) :
    Lexeme.first '\'' rest =
      match Lexeme.quotedBody? rest with
      | some (inner, after) =>
        ⟨.string (String.ofList inner), '\'' :: (inner ++ ['\'']), after⟩
      | none => ⟨.unterminated, '\'' :: rest, []⟩ := by
  have leads : Operator.leading? ('\'' :: rest) = none := by
    unfold Operator.leading?
    refine List.find?_eq_none.mpr fun op _ => ?_
    cases op <;> simp [Operator.symbol, List.isPrefixOf]
  rw [Lexeme.first, leads]
  rfl

/-! ### Texts that go on -/

/-- Before a text stands another, whose tokens end exactly where the text begins. -/
inductive Reaches (b : List Char) : List Char → List TokenKind → Prop where
  | done : Reaches b [] []
  | blank {c : Char} {u : List Char} {s : List TokenKind} (blank : Text.isBlank c = true)
      (rest : Reaches b u s) : Reaches b (c :: u) s
  | token {c : Char} {v w : List Char} {s : List TokenKind} (solid : Text.isBlank c = false)
      (fits : (Lexeme.first c (v ++ (w ++ b))).text = c :: v) (rest : Reaches b w s) :
    Reaches b (c :: (v ++ w)) ((Lexeme.first c (v ++ (w ++ b))).kind :: s)

/-- What a token leaves, once its text is known. -/
theorem first_rest_of_text {c : Char} {v after : List Char}
    (fits : (Lexeme.first c (v ++ after)).text = c :: v) :
    (Lexeme.first c (v ++ after)).rest = after := by
  have whole := Lexeme.first_append c (v ++ after)
  rw [fits, ← List.cons_append] at whole
  exact List.append_cancel_left whole

/-- A token's text, and what it leaves of the characters after its first. -/
theorem first_split (c : Char) (rest : List Char) :
    ∃ v, (Lexeme.first c rest).text = c :: v ∧ rest = v ++ (Lexeme.first c rest).rest := by
  have whole := Lexeme.first_append c rest
  cases text : (Lexeme.first c rest).text with
  | nil => exact absurd text (Lexeme.first_text_ne_nil c rest)
  | cons d v =>
    rw [text, List.cons_append] at whole
    obtain ⟨rfl, same⟩ := List.cons.inj whole
    exact ⟨v, rfl, same.symm⟩

/-- The tokens of a whole text are those before a text that it reaches and those of that text. -/
theorem Reaches.kinds_append {b u : List Char} {s : List TokenKind} (reaches : Reaches b u s)
    (position : Nat) :
    kinds (tokensFrom position (u ++ b)) = s ++ kinds (tokensFrom position b) := by
  induction reaches generalizing position with
  | done => rfl
  | blank blank rest ih =>
    rw [List.cons_append, tokensFrom_blank blank, ih]
    exact congrArg _ (kinds_tokensFrom _ _ _)
  | token solid fits rest ih =>
    rw [List.cons_append, List.append_assoc, tokensFrom_cons solid, kinds_cons,
      first_rest_of_text fits, ih, List.cons_append]
    exact congrArg _ (congrArg _ (kinds_tokensFrom _ _ _))

/-- What stands after a token can be exchanged, if it goes on with the token neither before nor
after. -/
theorem first_move {c : Char} {b other v w : List Char}
    (fits : (Lexeme.first c (v ++ (w ++ b))).text = c :: v) (detached : Detached b)
    (otherDetached : Detached other) (quoted : other.head? = some '\'' → b.head? = some '\'')
    (closed : (Lexeme.first c (v ++ (w ++ b))).kind ≠ .unterminated ∨ b ≠ []) :
    Lexeme.first c (v ++ (w ++ other)) =
      ⟨(Lexeme.first c (v ++ (w ++ b))).kind, c :: v, w ++ other⟩ := by
  by_cases quote : c = '\''
  · subst quote
    rw [first_quote] at fits closed ⊢
    rw [first_quote]
    cases found : Lexeme.quotedBody? (v ++ (w ++ b)) with
    | none =>
      -- A quote that is never closed takes all that follows.
      rw [found] at fits closed
      have nothing : w ++ b = [] := List.append_right_eq_self.mp (List.cons.inj fits).2
      exact absurd (List.append_eq_nil_iff.mp nothing).2 (closed.resolve_left fun no => no rfl)
    | some body =>
      obtain ⟨inner, after⟩ := body
      rw [found] at fits
      obtain rfl : inner ++ ['\''] = v := (List.cons.inj fits).2
      have whole := Lexeme.quotedBody?_append found
      rw [List.append_assoc] at whole
      obtain rfl : after = w ++ b := (List.cons.inj (List.append_cancel_left whole)).2
      obtain ⟨alone, moves⟩ := quotedBody?_move found
      have apart : (w ++ other).head? ≠ some '\'' := by
        cases w with
        | nil => exact fun begins => alone (quoted begins)
        | cons d w => exact alone
      rw [List.append_assoc, List.singleton_append, moves (w ++ other) apart]
  · have short := fits
    rw [← List.append_assoc, first_append_of_detached quote detached] at short
    rw [← List.append_assoc, ← List.append_assoc, first_append_of_detached quote detached,
      first_append_of_detached quote otherDetached, first_rest_of_text short, short]

/-- What a text reaches can be exchanged, if it goes on with none of the text's tokens, neither
before nor after. -/
theorem Reaches.move {b other u : List Char} {s : List TokenKind} (reaches : Reaches b u s)
    (detached : Detached b) (otherDetached : Detached other)
    (quoted : other.head? = some '\'' → b.head? = some '\'')
    (closed : .unterminated ∉ s ∨ b ≠ []) : Reaches other u s := by
  induction reaches with
  | done => exact .done
  | blank blank rest ih => exact .blank blank (ih closed)
  | @token c v w s solid fits rest ih =>
    have here : (Lexeme.first c (v ++ (w ++ b))).kind ≠ .unterminated ∨ b ≠ [] :=
      closed.imp_left fun none same => none (by rw [same]; exact List.mem_cons_self)
    have moved := first_move fits detached otherDetached quoted here
    have later := ih (closed.imp_left fun none among => none (List.mem_cons_of_mem _ among))
    have kind : (Lexeme.first c (v ++ (w ++ other))).kind =
        (Lexeme.first c (v ++ (w ++ b))).kind := by rw [moved]
    rw [← kind]
    exact .token solid (by rw [moved]) later

/-- Any text reaches its end. -/
theorem reaches_end (u : List Char) (position : Nat) :
    Reaches [] u (kinds (tokensFrom position u)) := by
  induction u using tokens_induction generalizing position with
  | nil =>
    rw [tokensFrom_nil]
    exact .done
  | blank c rest blank ih =>
    rw [tokensFrom_blank blank]
    exact .blank blank (ih _)
  | token c rest solid ih =>
    obtain ⟨v, text, split⟩ := first_split c rest
    rw [tokensFrom_cons solid, kinds_cons]
    have fits : (Lexeme.first c (v ++ ((Lexeme.first c rest).rest ++ []))).text = c :: v := by
      rw [List.append_nil, ← split]
      exact text
    have reached :=
      Reaches.token solid fits (ih (position + Text.byteSize (Lexeme.first c rest).text))
    rw [List.append_nil, ← split] at reached
    exact reached

/-- Of two ways to cut a text, the one with fewer bytes before the cut comes first. -/
theorem append_eq_of_byteSize_le {u b v rest : List Char} (same : u ++ b = v ++ rest)
    (small : Text.byteSize v ≤ Text.byteSize u) : ∃ w, u = v ++ w ∧ rest = w ++ b := by
  rcases List.append_eq_append_iff.mp same with ⟨more, rfl, rfl⟩ | ⟨w, rfl, rfl⟩
  · rw [Text.byteSize_append] at small
    cases more with
    | nil => exact ⟨[], by simp⟩
    | cons c more =>
      rw [Text.byteSize] at small
      have size := Char.utf8Size_pos c
      omega
  · exact ⟨w, rfl, rfl⟩

/-- A text reaches the place where some token begins. -/
theorem reaches_of_start {u b : List Char} {position : Nat} {token : Token}
    (among : token ∈ tokensFrom position (u ++ b))
    (start : token.start = position + Text.byteSize u) :
    ∃ s, Reaches b u s ∧ token ∈ tokensFrom (position + Text.byteSize u) b := by
  induction size : u.length using Nat.strongRecOn generalizing u position with
  | ind n ih =>
    subst size
    cases u with
    | nil => exact ⟨[], .done, among⟩
    | cons c u =>
      rw [Text.byteSize] at start ⊢
      rw [← Nat.add_assoc] at start ⊢
      rw [List.cons_append] at among
      cases solid : Text.isBlank c with
      | true =>
        rw [tokensFrom_blank solid] at among
        obtain ⟨s, reaches, found⟩ := ih _ (Nat.lt_succ_self _) among start rfl
        exact ⟨s, .blank solid reaches, found⟩
      | false =>
        rw [tokensFrom_cons solid] at among
        obtain ⟨v, text, split⟩ := first_split c (u ++ b)
        rcases List.mem_cons.mp among with rfl | later
        · have begins : position = position + c.utf8Size + Text.byteSize u := start
          have size := Char.utf8Size_pos c
          omega
        · have after := start_of_mem_tokensFrom later
          rw [text, Text.byteSize] at later after
          obtain ⟨w, rfl, left⟩ := append_eq_of_byteSize_le split (by omega)
          rw [left] at later
          rw [Text.byteSize_append, ← Nat.add_assoc, Nat.add_assoc position] at start ⊢
          have shorter : w.length < (c :: (v ++ w)).length := by
            rw [List.length_cons, List.length_append]
            omega
          obtain ⟨s, reaches, found⟩ := ih w.length shorter later start rfl
          rw [List.append_assoc] at text
          exact ⟨_, .token solid text reaches, found⟩

end ListQuery.Filter
