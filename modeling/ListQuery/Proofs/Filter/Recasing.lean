import ListQuery.Proofs.Filter.Gluing
import ListQuery.Proofs.Filter.Lowering

/-! Filter texts in small letters. Outside of quotes no token is told by the case of its letters,
so a text and the same in small letters are cut at the same places, into the same tokens but for
the names among them. What stands between quotes is a value, and is left as it is. -/

namespace ListQuery.Filter

open Text (SameLetter sameLetter_toLower toLower_eq_iff)

/-! ### Characters -/

section Characters
variable {c d : Char}

/-- What is the same for all ASCII letters does not see their case. -/
theorem congr_of_letters {α : Type} {f : Char → α} (value : α)
    (letters : ∀ c, c.isAlpha = true → f c = value) (same : SameLetter c d) : f c = f d := by
  rcases same.eq_or_isAlpha with rfl | ⟨left, right⟩
  · rfl
  · rw [letters c left, letters d right]

theorem isLetter_of_isAlpha (letter : c.isAlpha = true) : Text.isLetter c = true := by
  have code := (Text.isAlpha_iff c).mp letter
  rw [Text.isLetter, if_pos (by omega), letter]

theorem isBlank_congr (same : SameLetter c d) : Text.isBlank c = Text.isBlank d := by
  refine congr_of_letters false (fun c letter => Bool.eq_false_iff.mpr ?_) same
  have code := (Text.isAlpha_iff c).mp letter
  simp only [Text.isBlank, ne_eq, Bool.or_eq_true, Bool.and_eq_true, decide_eq_true_eq,
    beq_iff_eq]
  omega

theorem isDigit_of_isAlpha (letter : c.isAlpha = true) : c.isDigit = false := by
  have code := (Text.isAlpha_iff c).mp letter
  rw [Bool.eq_false_iff]
  simp only [Char.isDigit, ne_eq, Bool.and_eq_true, decide_eq_true_eq, ge_iff_le,
    UInt32.le_iff_toNat_le]
  change ¬ (48 ≤ c.toNat ∧ c.toNat ≤ 57)
  omega

theorem isDigit_congr (same : SameLetter c d) : c.isDigit = d.isDigit :=
  congr_of_letters false (fun _ => isDigit_of_isAlpha) same

theorem isNameStart_of_isAlpha (letter : c.isAlpha = true) : Lexeme.isNameStart c = true := by
  rw [Lexeme.isNameStart, isLetter_of_isAlpha letter, Bool.true_or]

theorem isNameStart_congr (same : SameLetter c d) :
    Lexeme.isNameStart c = Lexeme.isNameStart d :=
  congr_of_letters true (fun _ => isNameStart_of_isAlpha) same

theorem isNameChar_congr (same : SameLetter c d) :
    Lexeme.isNameChar c = Lexeme.isNameChar d := by
  refine congr_of_letters true (fun c letter => ?_) same
  simp only [Lexeme.isNameChar, isLetter_of_isAlpha letter, Bool.true_or]

theorem single?_congr (same : SameLetter c d) : Lexeme.single? c = Lexeme.single? d := by
  simp (disch := decide) only [Lexeme.single?, same.eq_iff]

theorem utf8Size_congr (same : SameLetter c d) : c.utf8Size = d.utf8Size := by
  refine congr_of_letters (f := Char.utf8Size) 1 (fun c letter => ?_) same
  have code := (Text.isAlpha_iff c).mp letter
  refine Char.utf8Size_eq_one_iff.mpr (UInt32.le_iff_toNat_le.mpr ?_)
  change c.toNat ≤ 127
  omega

theorem toLower_of_not_isAlpha (plain : c.isAlpha = false) : c.toLower = c :=
  (toLower_eq_iff plain).mpr rfl

end Characters

/-! ### Texts -/

/-- A text with the ASCII letters outside of quotes made small. Each quote opens or closes. -/
def lowerOutside (quoted : Bool) : List Char → List Char
  | [] => []
  | c :: rest =>
    (if quoted then c else c.toLower) :: lowerOutside (if c = '\'' then !quoted else quoted) rest

theorem lowerOutside_cons (c : Char) (rest : List Char) :
    lowerOutside false (c :: rest) = c.toLower :: lowerOutside (c = '\'') rest := by
  by_cases quote : c = '\'' <;> simp [lowerOutside, quote]

theorem lowerOutside_other {c : Char} (other : c ≠ '\'') (rest : List Char) :
    lowerOutside false (c :: rest) = c.toLower :: lowerOutside false rest := by
  rw [lowerOutside, if_neg other]
  rfl

theorem byteSize_lowerOutside (quoted : Bool) (text : List Char) :
    Text.byteSize (lowerOutside quoted text) = Text.byteSize text := by
  induction text generalizing quoted with
  | nil => rfl
  | cons c rest ih =>
    rw [lowerOutside, Text.byteSize, Text.byteSize, ih]
    split
    · rfl
    · rw [utf8Size_congr (sameLetter_toLower c)]

theorem lowerOutside_append {u : List Char} (plain : '\'' ∉ u) (rest : List Char) :
    lowerOutside false (u ++ rest) = Text.asciiLower u ++ lowerOutside false rest := by
  induction u with
  | nil => rfl
  | cons c u ih =>
    rw [List.mem_cons, not_or] at plain
    rw [List.cons_append, lowerOutside_other (Ne.symm plain.1), ih plain.2]
    rfl

theorem head?_lowerOutside (text : List Char) :
    (lowerOutside false text).head? = text.head?.map Char.toLower := by
  cases text <;> rfl

/-- What a test takes in and leaves, when it sees no case and stops at a quote. -/
theorem span_lowerOutside {test : Char → Bool}
    (congr : ∀ {c d}, SameLetter c d → test c = test d) (stops : test '\'' = false)
    (text : List Char) :
    (lowerOutside false text).takeWhile test = Text.asciiLower (text.takeWhile test) ∧
      (lowerOutside false text).dropWhile test = lowerOutside false (text.dropWhile test) := by
  induction text with
  | nil => exact ⟨rfl, rfl⟩
  | cons c rest ih =>
    have same : test c.toLower = test c := congr (sameLetter_toLower c)
    cases holds : test c with
    | true =>
      have other : c ≠ '\'' := by
        rintro rfl
        exact absurd holds (Bool.eq_false_iff.mp stops)
      have holds' := same.trans holds
      rw [lowerOutside_other other, List.takeWhile_cons_of_pos holds,
        List.takeWhile_cons_of_pos holds', List.dropWhile_cons_of_pos holds,
        List.dropWhile_cons_of_pos holds', ih.1, ih.2]
      exact ⟨rfl, rfl⟩
    | false =>
      have fails : ¬ test c = true := Bool.eq_false_iff.mp holds
      have fails' : ¬ test c.toLower = true := Bool.eq_false_iff.mp (same.trans holds)
      rw [List.takeWhile_cons_of_neg fails, List.dropWhile_cons_of_neg fails]
      exact ⟨List.takeWhile_cons_of_neg fails', List.dropWhile_cons_of_neg fails'⟩

/-! ### Tokens -/

theorem isPrefixOf_lowerOutside {symbol : List Char}
    (plain : ∀ c ∈ symbol, c.isAlpha = false ∧ c ≠ '\'') (text : List Char) :
    symbol.isPrefixOf (lowerOutside false text) = symbol.isPrefixOf text := by
  induction symbol generalizing text with
  | nil => rfl
  | cons s symbol ih =>
    cases text with
    | nil => rfl
    | cons c rest =>
      obtain ⟨⟨first, apart⟩, later⟩ := List.forall_mem_cons.mp plain
      have same : s = c.toLower ↔ s = c := by
        rw [eq_comm, toLower_eq_iff first, eq_comm]
      by_cases here : s = c
      · subst here
        rw [lowerOutside_other apart, List.isPrefixOf, List.isPrefixOf, ih later,
          toLower_of_not_isAlpha first]
      · have apart : (s == c) = false := beq_eq_false_iff_ne.mpr here
        have apart' : (s == c.toLower) = false := beq_eq_false_iff_ne.mpr (mt same.mp here)
        rw [List.isPrefixOf, apart, Bool.false_and]
        exact (congrArg (· && _) apart').trans (Bool.false_and _)

theorem plain_symbol (op : Operator) :
    ∀ c ∈ op.symbol.toList, c.isAlpha = false ∧ c ≠ '\'' := by
  have all : op.symbol.toList.all (fun c => !c.isAlpha && c != '\'') = true := by
    cases op <;> decide
  intro c among
  simpa using List.all_eq_true.mp all c among

theorem asciiLower_of_plain {text : List Char} (plain : ∀ c ∈ text, c.isAlpha = false) :
    Text.asciiLower text = text :=
  (List.map_congr_left fun c among => toLower_of_not_isAlpha (plain c among)).trans
    (List.map_id text)

theorem leading?_lowerOutside (text : List Char) :
    Operator.leading? (lowerOutside false text) = Operator.leading? text := by
  rw [Operator.leading?, Operator.leading?]
  congr 1
  funext op
  exact isPrefixOf_lowerOutside (plain_symbol op) text

namespace Lexeme

/-- The digits at the head of a text, and the rest. -/
theorem digits_lowerOutside (text : List Char) :
    (lowerOutside false text).takeWhile Char.isDigit = text.takeWhile Char.isDigit ∧
      (lowerOutside false text).dropWhile Char.isDigit =
        lowerOutside false (text.dropWhile Char.isDigit) := by
  have plain : ∀ c ∈ text.takeWhile Char.isDigit, c.isAlpha = false := by
    intro c among
    have digit : c.isDigit = true := List.all_eq_true.mp List.all_takeWhile c among
    rw [← Bool.not_eq_true]
    intro letter
    rw [isDigit_of_isAlpha letter] at digit
    cases digit
  obtain ⟨taken, left⟩ := span_lowerOutside isDigit_congr rfl text
  exact ⟨taken.trans (asciiLower_of_plain plain), left⟩

theorem fraction?_lowerOutside (text : List Char) :
    fraction? (lowerOutside false text) =
      (fraction? text).map fun (fraction, rest) => (fraction, lowerOutside false rest) := by
  cases text with
  | nil => rfl
  | cons c rest =>
    by_cases point : c = '.'
    · subst point
      cases rest with
      | nil => rfl
      | cons d more =>
        obtain ⟨taken, left⟩ := digits_lowerOutside (d :: more)
        change fraction? ('.' :: lowerOutside false (d :: more)) = _
        rw [lowerOutside] at taken left ⊢
        rw [fraction?, fraction?, taken, left]
        simp only [Bool.false_eq_true, if_false, isDigit_congr (sameLetter_toLower d)]
        split <;> rfl
    · rw [fraction?_of_no_point point, lowerOutside, fraction?_of_no_point]
      · rfl
      · exact mt (toLower_eq_iff rfl).mp point

theorem numeral_lowerOutside (text : List Char) :
    numeral (lowerOutside false text) =
      ((numeral text).1, lowerOutside false (numeral text).2) := by
  obtain ⟨taken, left⟩ := digits_lowerOutside text
  rw [numeral, numeral, taken, left, fraction?_lowerOutside]
  cases fraction? (text.dropWhile Char.isDigit) <;> rfl

theorem quotedBody?_lowerOutside (text : List Char) :
    quotedBody? (lowerOutside true text) =
      (quotedBody? text).map fun (inner, rest) => (inner, lowerOutside false rest) := by
  fun_induction quotedBody? text with
  | case1 rest ih =>
    change quotedBody? ('\'' :: '\'' :: lowerOutside true rest) = _
    rw [quotedBody?_pair, ih, Option.map_map, Option.map_map]
    rfl
  | case2 rest alone =>
    change quotedBody? ('\'' :: lowerOutside false rest) = _
    rw [quotedBody?_close]
    · rfl
    · rw [head?_lowerOutside]
      intro head
      obtain ⟨d, first, quote⟩ := Option.map_eq_some_iff.mp head
      have quote : d = '\'' := (toLower_eq_iff rfl).mp quote
      obtain ⟨later, same⟩ := List.head?_eq_some_iff.mp first
      exact alone later (quote ▸ same)
  | case3 c rest pair alone ih =>
    have other : c ≠ '\'' := fun same => alone same
    rw [lowerOutside, if_pos rfl, if_neg other, quotedBody?_cons other, ih, Option.map_map,
      Option.map_map]
    rfl
  | case4 => rfl

theorem startsNumber_lowerOutside (c : Char) (rest : List Char) :
    startsNumber c.toLower (lowerOutside false rest) = startsNumber c rest := by
  have minus : (c.toLower == '-') = (c == '-') :=
    Bool.eq_iff_iff.mpr (by simpa using toLower_eq_iff rfl)
  have next : (lowerOutside false rest).head?.map Char.isDigit = rest.head?.map Char.isDigit := by
    rw [head?_lowerOutside, Option.map_map]
    exact congrArg (rest.head?.map ·) (funext fun d => isDigit_congr (sameLetter_toLower d))
  rw [startsNumber, startsNumber, isDigit_congr (sameLetter_toLower c), minus, next]

theorem ofName_lowered (name : String) :
    ofName (Text.lowered name) = (ofName name).lowered := by
  simp only [ofName, Text.sameIgnoringCase_congr (Text.sameIgnoringCase_lowered name)]
  split
  · rfl
  · split <;> rfl

theorem lowered_of_single {c : Char} {kind : TokenKind} (single : single? c = some kind) :
    kind.lowered = kind := by
  unfold single? at single
  repeat' split at single
  all_goals cases single
  all_goals rfl

theorem first_other_lowerOutside {c : Char} (other : c ≠ '\'') (rest : List Char) :
    (first c.toLower (lowerOutside false rest)).kind = (first c rest).kind.lowered ∧
      (first c.toLower (lowerOutside false rest)).rest =
        lowerOutside false (first c rest).rest := by
  have other' : c.toLower ≠ '\'' := mt (toLower_eq_iff rfl).mp other
  have minus : c.toLower = '-' ↔ c = '-' := toLower_eq_iff rfl
  unfold first
  rw [← lowerOutside_other other, leading?_lowerOutside, lowerOutside_other other,
    startsNumber_lowerOutside, single?_congr (sameLetter_toLower c), if_neg other', if_neg other,
    isNameStart_congr (sameLetter_toLower c)]
  split
  · rename_i op leads
    obtain ⟨after, whole⟩ := Operator.leading?_isPrefixOf leads
    have plain := plain_symbol op
    have same : Text.asciiLower op.symbol.toList = op.symbol.toList :=
      asciiLower_of_plain fun c among => (plain c among).1
    refine ⟨rfl, ?_⟩
    rw [← lowerOutside_other other, ← whole,
      lowerOutside_append fun among => (plain _ among).2 rfl, same, List.drop_left, List.drop_left]
  · split
    · simp only [minus]
      split
      · rw [numeral_lowerOutside]
        cases numeral rest
        exact ⟨rfl, rfl⟩
      · rw [← lowerOutside_other other, numeral_lowerOutside]
        cases numeral (c :: rest)
        exact ⟨rfl, rfl⟩
    · split
      · rename_i kind single
        exact ⟨(lowered_of_single single).symm, rfl⟩
      · split
        · obtain ⟨taken, left⟩ := span_lowerOutside isNameChar_congr rfl rest
          have named := ofName_lowered (String.ofList (c :: rest.takeWhile isNameChar))
          rw [Text.lowered, String.toList_ofList, Text.asciiLower, List.map_cons] at named
          simp only [taken, left, Text.asciiLower, named, and_self]
        · rename_i unnamed
          have plain : c.isAlpha = false := by
            rw [← Bool.not_eq_true]
            intro letter
            exact unnamed (isNameStart_of_isAlpha letter)
          rw [toLower_of_not_isAlpha plain]
          exact ⟨rfl, rfl⟩

theorem first_quote_lowerOutside (rest : List Char) :
    (first '\'' (lowerOutside true rest)).kind = (first '\'' rest).kind.lowered ∧
      (first '\'' (lowerOutside true rest)).rest = lowerOutside false (first '\'' rest).rest := by
  rw [first_quote, first_quote, quotedBody?_lowerOutside]
  cases quotedBody? rest <;> exact ⟨rfl, rfl⟩

/-- The first token of a text in small letters is that of the text, in small letters. -/
theorem first_lowerOutside (c : Char) (rest : List Char) :
    (first c.toLower (lowerOutside (c = '\'') rest)).kind = (first c rest).kind.lowered ∧
      (first c.toLower (lowerOutside (c = '\'') rest)).rest =
        lowerOutside false (first c rest).rest := by
  by_cases quote : c = '\''
  · subst quote
    exact first_quote_lowerOutside rest
  · rw [decide_eq_false quote]
    exact first_other_lowerOutside quote rest

theorem byteSize_first (c : Char) (rest : List Char) :
    Text.byteSize (first c rest).text + Text.byteSize (first c rest).rest =
      Text.byteSize (c :: rest) := by
  rw [← Text.byteSize_append, first_append]

end Lexeme

/-- The tokens of a text in small letters are those of the text, in small letters. -/
theorem tokensFrom_lowerOutside (position : Nat) (text : List Char) :
    tokensFrom position (lowerOutside false text) =
      (tokensFrom position text).map Token.lowered := by
  induction text using tokens_induction generalizing position with
  | nil =>
    rw [lowerOutside, tokensFrom_nil]
    rfl
  | blank c rest blank ih =>
    have other : c ≠ '\'' := by
      rintro rfl
      cases blank
    have blank' := (isBlank_congr (sameLetter_toLower c)).trans blank
    rw [lowerOutside_other other, tokensFrom_blank blank', tokensFrom_blank blank, ih,
      utf8Size_congr (sameLetter_toLower c)]
  | token c rest solid ih =>
    have solid' := (isBlank_congr (sameLetter_toLower c)).trans solid
    obtain ⟨kind, left⟩ := Lexeme.first_lowerOutside c rest
    have size := Lexeme.byteSize_first c rest
    have size' := Lexeme.byteSize_first c.toLower (lowerOutside (c = '\'') rest)
    rw [left, ← lowerOutside_cons, byteSize_lowerOutside, byteSize_lowerOutside, ← size] at size'
    rw [lowerOutside_cons, tokensFrom_cons solid', tokensFrom_cons solid, kind, left,
      Nat.add_right_cancel size', ih]
    rfl

theorem allBlank_lowerOutside (quoted : Bool) (text : List Char) :
    Text.allBlank (lowerOutside quoted text) = Text.allBlank text := by
  induction text generalizing quoted with
  | nil => rfl
  | cons c rest ih =>
    have rest := ih (if c = '\'' then !quoted else quoted)
    rw [Text.allBlank, Text.allBlank] at rest
    rw [lowerOutside, Text.allBlank, Text.allBlank, List.all_cons, List.all_cons, rest]
    split
    · rfl
    · rw [isBlank_congr (sameLetter_toLower c)]

/-- The filter of a text in small letters is that of the text, in small letters. -/
theorem parse_lowerOutside (text : String) :
    parse (String.ofList (lowerOutside false text.toList)) =
      ((parse text).map (Option.map lowered)).mapError QueryError.lowered := by
  rw [parse, parse, String.toList_ofList, allBlank_lowerOutside]
  split
  · rfl
  · rw [tokenize, tokenize, tokens, tokens, String.toList_ofList, tokensFrom_lowerOutside,
      legal_lowered]
    cases legal (tokensFrom 0 text.toList) with
    | error error => rfl
    | ok tokens =>
      simp only [Except.map, Except.mapError, ofTokens_lowered]
      cases ofTokens tokens <;> rfl

end ListQuery.Filter
