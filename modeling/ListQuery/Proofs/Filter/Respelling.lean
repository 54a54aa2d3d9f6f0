import Mathlib.Data.List.TakeWhile
import ListQuery.Proofs.Filter.Recasing

/-! Tokens that are written out and read again. Every token that is passed on has the form of its
kind: a name, a numeral, a text whose quotes stand in pairs. Tokens of such forms can be written in
any of the ways of their kinds; with blanks to keep them apart, they are read as what they were. -/

namespace ListQuery.Filter

/-! ### The forms of tokens -/

/-- One digit or more. -/
def Digits (text : List Char) : Prop :=
  text ≠ [] ∧ ∀ c ∈ text, c.isDigit = true

/-- Digits, and perhaps a point with digits after it. -/
inductive Unsigned : List Char → Prop where
  | whole {digits : List Char} (some : Digits digits) : Unsigned digits
  | pointed {digits fraction : List Char} (some : Digits digits) (more : Digits fraction) :
    Unsigned (digits ++ '.' :: fraction)

/-- A number that may have a minus sign. -/
inductive Numeral : List Char → Prop where
  | positive {digits : List Char} (unsigned : Unsigned digits) : Numeral digits
  | negative {digits : List Char} (unsigned : Unsigned digits) : Numeral ('-' :: digits)

/-- Quotes stand in pairs. -/
inductive Paired : List Char → Prop where
  | nil : Paired []
  | char {c : Char} {rest : List Char} (other : c ≠ '\'') (later : Paired rest) : Paired (c :: rest)
  | pair {rest : List Char} (later : Paired rest) : Paired ('\'' :: '\'' :: rest)

/-- A letter or an underscore, then letters, numbers, points and underscores. -/
def Named (text : List Char) : Prop :=
  ∃ c rest, text = c :: rest ∧ Lexeme.isNameStart c = true ∧
    ∀ d ∈ rest, Lexeme.isNameChar d = true

/-- A property's name, dots included: neither of the words that join clauses. -/
structure IsName (name : String) : Prop where
  spelled : Named name.toList
  not_and : Text.sameIgnoringCase name "and" = false
  not_or : Text.sameIgnoringCase name "or" = false

theorem named_cons {c : Char} {rest : List Char} :
    Named (c :: rest) ↔
      Lexeme.isNameStart c = true ∧ ∀ d ∈ rest, Lexeme.isNameChar d = true := by
  constructor
  · rintro ⟨_, _, ⟨⟩, named⟩
    exact named
  · intro named
    exact ⟨c, rest, rfl, named⟩

theorem named_cons_iff_all {c : Char} {rest : List Char} :
    Named (c :: rest) ↔
      Lexeme.isNameStart c = true ∧ rest.all Lexeme.isNameChar = true := by
  rw [named_cons, List.all_eq_true]

instance : (text : List Char) → Decidable (Named text)
  | [] => isFalse (by rintro ⟨_, _, ⟨⟩, -⟩)
  | _ :: _ => decidable_of_iff' _ named_cons_iff_all

instance (name : String) : Decidable (IsName name) :=
  decidable_of_iff (Named name.toList ∧ Text.sameIgnoringCase name "and" = false ∧
      Text.sameIgnoringCase name "or" = false)
    ⟨fun ⟨spelled, notAnd, notOr⟩ => ⟨spelled, notAnd, notOr⟩,
      fun ⟨spelled, notAnd, notOr⟩ => ⟨spelled, notAnd, notOr⟩⟩

/-- A token has the form of its kind. No form is one that the language lacks. -/
def TokenKind.WellFormed : TokenKind → Prop
  | identifier name => IsName name
  | number numeral => Numeral numeral.toList
  | string inner => Paired inner.toList
  | illegal _ | unterminated => False
  | _ => True

/-! ### What is read has a form -/

theorem digits_takeWhile {c : Char} {rest : List Char} (digit : c.isDigit = true) :
    Digits ((c :: rest).takeWhile Char.isDigit) := by
  constructor
  · simp [digit]
  · intro d among
    exact List.all_eq_true.mp List.all_takeWhile d among

theorem unsigned_numeral {c : Char} {rest : List Char} (digit : c.isDigit = true) :
    Unsigned (Lexeme.numeral (c :: rest)).1 := by
  have whole : Digits ((c :: rest).takeWhile Char.isDigit) := digits_takeWhile digit
  unfold Lexeme.numeral
  split
  · rename_i fraction after found
    unfold Lexeme.fraction? at found
    split at found
    · split at found
      · rename_i next
        cases found
        exact .pointed whole (digits_takeWhile next)
      · cases found
    · cases found
  · exact .whole whole

theorem paired_of_quotedBody? {text inner rest : List Char}
    (closed : Lexeme.quotedBody? text = some (inner, rest)) : Paired inner := by
  fun_induction Lexeme.quotedBody? text generalizing inner with
  | case1 more ih =>
    obtain ⟨⟨body, after⟩, found, same⟩ := Option.map_eq_some_iff.mp closed
    cases same
    exact .pair (ih found)
  | case2 more alone =>
    cases closed
    exact .nil
  | case3 c more pair single ih =>
    obtain ⟨⟨body, after⟩, found, same⟩ := Option.map_eq_some_iff.mp closed
    cases same
    exact .char (fun quote => single quote) (ih found)
  | case4 => cases closed

theorem wellFormed_ofName {c : Char} {rest : List Char} (start : Lexeme.isNameStart c = true) :
    (Lexeme.ofName (String.ofList (c :: rest.takeWhile Lexeme.isNameChar))).WellFormed := by
  unfold Lexeme.ofName
  split
  · trivial
  · rename_i notAnd
    split
    · trivial
    · rename_i notOr
      refine ⟨?_, Bool.eq_false_iff.mpr notAnd, Bool.eq_false_iff.mpr notOr⟩
      rw [String.toList_ofList]
      refine named_cons.mpr ⟨start, fun d among => ?_⟩
      exact List.all_eq_true.mp List.all_takeWhile d among

/-- A token has the form of its kind, unless the language lacks it. -/
theorem wellFormed_first (c : Char) (rest : List Char) :
    (Lexeme.first c rest).kind.WellFormed ∨ (Lexeme.first c rest).kind.isLegal = false := by
  unfold Lexeme.first
  split
  · exact Or.inl trivial
  · split
    · rename_i starts
      split
      · rename_i minus
        -- A minus sign begins a number only before a digit.
        have next : ∃ d more, rest = d :: more ∧ d.isDigit = true := by
          subst minus
          cases rest with
          | nil => cases starts
          | cons d more => exact ⟨d, more, rfl, by rwa [Lexeme.startsNumber] at starts⟩
        obtain ⟨d, more, rfl, digit⟩ := next
        refine Or.inl (show Numeral (String.ofList ('-' :: _)).toList from ?_)
        rw [String.toList_ofList]
        exact .negative (unsigned_numeral digit)
      · rename_i other
        have digit : c.isDigit = true := by
          simpa [Lexeme.startsNumber, other] using starts
        refine Or.inl (show Numeral (String.ofList _).toList from ?_)
        rw [String.toList_ofList]
        exact .positive (unsigned_numeral digit)
    · split
      · rename_i kind single
        unfold Lexeme.single? at single
        split_ifs at single <;> cases single <;> exact Or.inl trivial
      · split
        · split
          · rename_i inner after closed
            refine Or.inl (show Paired (String.ofList inner).toList from ?_)
            rw [String.toList_ofList]
            exact paired_of_quotedBody? closed
          · exact Or.inr rfl
        · split
          · rename_i start
            exact Or.inl (wellFormed_ofName start)
          · exact Or.inr rfl

theorem isLegal_of_legal_ok {tokens result : List Token} (passed : legal tokens = .ok result) :
    ∀ token ∈ result, token.kind.isLegal = true := by
  intro token among
  have same := legal_ok passed
  rw [legal_eq] at passed
  split at passed
  · rename_i none
    subst same
    have fine := List.findSome?_eq_none_iff.mp none token among
    obtain ⟨kind, start, stop⟩ := token
    cases kind with
    | illegal c | unterminated => cases fine
    | _ => rfl
  · cases passed

theorem wellFormed_of_mem_tokensFrom {text : List Char} {position : Nat} {token : Token}
    (among : token ∈ tokensFrom position text) (legal : token.kind.isLegal = true) :
    token.kind.WellFormed := by
  induction text using tokens_induction generalizing position with
  | nil =>
    rw [tokensFrom_nil] at among
    cases among
  | blank c rest blank ih =>
    rw [tokensFrom_blank blank] at among
    exact ih among
  | token c rest solid ih =>
    rw [tokensFrom_cons solid] at among
    rcases List.mem_cons.mp among with rfl | later
    · exact (wellFormed_first c rest).resolve_right (by simp [legal])
    · exact ih later

/-- Every token that is passed on has the form of its kind. -/
theorem wellFormed_of_tokenize {text : String} {result : List Token}
    (passed : tokenize text = .ok result) : ∀ token ∈ result, token.kind.WellFormed := by
  intro token among
  have legal := isLegal_of_legal_ok passed token among
  have same : result = tokens text := legal_ok passed
  rw [same] at among
  exact wellFormed_of_mem_tokensFrom among legal

/-! ### A token that is written is read -/

/-- What is computed to hold of every character of a list. -/
theorem forall_mem_of_all {holds : Char → Prop} [DecidablePred holds] {text : List Char}
    (passed : (text.all fun c => decide (holds c)) = true) : ∀ c ∈ text, holds c := by
  intro c among
  exact of_decide_eq_true (List.all_eq_true.mp passed c among)

/-- The blanks. -/
def blanks : List Char :=
  ['\t', '\n', '\x0b', '\x0c', '\r', ' ', '\u0085', '\u00a0', '\u1680', '\u2000', '\u2001',
    '\u2002', '\u2003', '\u2004', '\u2005', '\u2006', '\u2007', '\u2008', '\u2009', '\u200a',
    '\u2028', '\u2029', '\u202f', '\u205f', '\u3000']

theorem mem_blanks {c : Char} (blank : Text.isBlank c = true) : c ∈ blanks := by
  have codes : c.toNat ∈ blanks.map Char.toNat := by
    simp only [Text.isBlank, Bool.or_eq_true, Bool.and_eq_true, decide_eq_true_eq, beq_iff_eq]
      at blank
    have listed : blanks.map Char.toNat = [9, 10, 11, 12, 13, 32, 133, 160, 5760, 8192, 8193, 8194,
        8195, 8196, 8197, 8198, 8199, 8200, 8201, 8202, 8232, 8233, 8239, 8287, 12288] := by
      decide
    simp only [listed, List.mem_cons, List.not_mem_nil, or_false]
    omega
  obtain ⟨d, among, same⟩ := List.mem_map.mp codes
  rw [← Char.toNat_inj.mp same]
  exact among

/-- No blank belongs to a token. -/
theorem detached_of_blank {rest : List Char} (apart : ∀ c ∈ rest.head?, Text.isBlank c = true) :
    Detached rest := by
  have each : ∀ c ∈ blanks, Lexeme.isNameChar c = false ∧ c ≠ '=' ∧ c ≠ '-' :=
    forall_mem_of_all (by decide +kernel)
  intro c head
  exact each c (mem_blanks (apart c head))

theorem isNameStart_of_isDigit {c : Char} (digit : c.isDigit = true) :
    Lexeme.isNameStart c = false := by
  have small : 48 ≤ c.toNat ∧ c.toNat ≤ 57 := by
    simpa [Char.isDigit, UInt32.le_iff_toNat_le] using digit
  have ascii : c.toNat < 128 := by omega
  have noLetter : c.isAlpha = false := by
    refine Bool.eq_false_iff.mpr fun letter => ?_
    rw [isDigit_of_isAlpha letter] at digit
    cases digit
  have underscore : c ≠ '_' := by
    rintro rfl
    cases digit
  simp [Lexeme.isNameStart, Text.isLetter, ascii, noLetter, underscore]

/-- The characters that a name begins with begin nothing else. -/
theorem name_start_apart {c : Char} (start : Lexeme.isNameStart c = true) :
    c.isDigit = false ∧
      ∀ d ∈ ['=', '-', '>', '<', '!', '|', '\'', ',', '(', ')', '*', '&'], c ≠ d := by
  constructor
  · cases digit : c.isDigit with
    | false => rfl
    | true =>
      rw [isNameStart_of_isDigit digit] at start
      cases start
  · have others : ∀ d ∈ ['=', '-', '>', '<', '!', '|', '\'', ',', '(', ')', '*', '&'],
        Lexeme.isNameStart d = false :=
      forall_mem_of_all (by decide +kernel)
    rintro d among rfl
    rw [others c among] at start
    cases start

/-- No operator begins with another character than these. -/
theorem leading?_eq_none {c : Char} (apart : ∀ d ∈ ['=', '-', '>', '<', '!', '|'], c ≠ d)
    (rest : List Char) : Operator.leading? (c :: rest) = none := by
  refine List.find?_eq_none.mpr fun op _ => ?_
  simp only [List.mem_cons, List.not_mem_nil, or_false, forall_eq_or_imp, forall_eq] at apart
  cases op <;> simp [Operator.symbol, List.isPrefixOf, Ne.symm, apart]

/-- Digits are taken as far as they go. -/
theorem Digits.span {digits : List Char} (some : Digits digits) (rest : List Char)
    (ends : ∀ c ∈ rest.head?, c.isDigit = false) :
    (digits ++ rest).takeWhile Char.isDigit = digits ∧
      (digits ++ rest).dropWhile Char.isDigit = rest := by
  obtain ⟨taken, left⟩ := takeWhile_append_of_head ends digits
  rw [taken, left, List.takeWhile_eq_self_iff.mpr some.2, List.dropWhile_eq_nil_iff.mpr some.2]
  exact ⟨rfl, rfl⟩

theorem numeral_of_unsigned {digits : List Char} (unsigned : Unsigned digits) :
    Lexeme.numeral digits = (digits, []) := by
  cases unsigned with
  | whole some =>
    obtain ⟨taken, left⟩ := some.span [] nofun
    rw [List.append_nil] at taken left
    unfold Lexeme.numeral
    rw [taken, left]
    rfl
  | @pointed whole fraction some more =>
    obtain ⟨taken, left⟩ := some.span ('.' :: fraction) (by simp)
    obtain ⟨d, later, rfl⟩ := List.exists_cons_of_ne_nil more.1
    have digit : d.isDigit = true := more.2 d List.mem_cons_self
    obtain ⟨fractionTaken, fractionLeft⟩ := more.span [] nofun
    rw [List.append_nil] at fractionTaken fractionLeft
    unfold Lexeme.numeral
    rw [taken, left, Lexeme.fraction?, if_pos digit, fractionTaken, fractionLeft]

theorem head_of_unsigned {digits : List Char} (unsigned : Unsigned digits) :
    ∃ d rest, digits = d :: rest ∧ d.isDigit = true := by
  have begins {whole : List Char} (some : Digits whole) (rest : List Char) :
      ∃ d later, whole ++ rest = d :: later ∧ d.isDigit = true := by
    obtain ⟨d, later, rfl⟩ := List.exists_cons_of_ne_nil some.1
    exact ⟨d, later ++ rest, rfl, some.2 d List.mem_cons_self⟩
  cases unsigned with
  | whole some => simpa using begins some []
  | pointed some more => exact begins some _

theorem quotedBody?_of_paired {inner rest : List Char} (paired : Paired inner)
    (alone : rest.head? ≠ some '\'') :
    Lexeme.quotedBody? (inner ++ '\'' :: rest) = some (inner, rest) := by
  induction paired with
  | nil => exact quotedBody?_close alone
  | char other later ih =>
    rw [List.cons_append, quotedBody?_cons other, ih]
    rfl
  | pair later ih =>
    rw [List.cons_append, List.cons_append, quotedBody?_pair, ih]
    rfl

theorem isNameChar_of_isNameStart {c : Char} (start : Lexeme.isNameStart c = true) :
    Lexeme.isNameChar c = true := by
  simp only [Lexeme.isNameStart, Bool.or_eq_true] at start
  rcases start with letter | underscore
  · simp [Lexeme.isNameChar, letter]
  · simp [Lexeme.isNameChar, underscore]

/-- A word in any case has the characters of a name. -/
theorem named_of_word {name word : String} (same : Text.sameIgnoringCase name word = true)
    (filled : word.toList ≠ [])
    (letters : (Text.asciiLower word.toList).all Lexeme.isNameStart = true) :
    Named name.toList := by
  have lowered : name.toList.map Char.toLower = Text.asciiLower word.toList := by
    simpa [Text.sameIgnoringCase, Text.asciiLower] using same
  have start : ∀ c ∈ name.toList, Lexeme.isNameStart c = true := by
    intro c among
    have lower : c.toLower ∈ Text.asciiLower word.toList := by
      rw [← lowered]
      exact List.mem_map_of_mem among
    rw [← isNameStart_congr (Text.sameLetter_toLower c)]
    exact List.all_eq_true.mp letters _ lower
  cases spelled : name.toList with
  | nil =>
    rw [spelled, Text.asciiLower] at lowered
    exact absurd (List.map_eq_nil_iff.mp lowered.symm) filled
  | cons c rest =>
    rw [spelled] at start
    obtain ⟨first, later⟩ := List.forall_mem_cons.mp start
    exact named_cons.mpr ⟨first, fun d among => isNameChar_of_isNameStart (later d among)⟩

/-- A name is read up to the first character that no name has. -/
theorem first_of_named_append {c : Char} {v rest : List Char} (named : Named (c :: v))
    (ends : ∀ d ∈ rest.head?, Lexeme.isNameChar d = false) :
    Lexeme.first c (v ++ rest) = ⟨Lexeme.ofName (String.ofList (c :: v)), c :: v, rest⟩ := by
  obtain ⟨start, more⟩ := named_cons.mp named
  obtain ⟨digit, apart⟩ := name_start_apart start
  simp only [List.mem_cons, List.not_mem_nil, or_false, forall_eq_or_imp, forall_eq] at apart
  have leads : Operator.leading? (c :: (v ++ rest)) = none := leading?_eq_none (by simp [apart]) _
  have number : Lexeme.startsNumber c (v ++ rest) = false := by
    simp [Lexeme.startsNumber, digit, apart]
  have single : Lexeme.single? c = none := by simp [Lexeme.single?, apart]
  obtain ⟨taken, left⟩ := takeWhile_append_of_head ends v
  rw [List.takeWhile_eq_self_iff.mpr more] at taken
  rw [List.dropWhile_eq_nil_iff.mpr more, List.nil_append] at left
  simp [Lexeme.first, leads, number, single, apart, start, taken, left]

theorem first_of_named {c : Char} {v : List Char} (named : Named (c :: v)) :
    Lexeme.first c v = ⟨Lexeme.ofName (String.ofList (c :: v)), c :: v, []⟩ := by
  have read := @first_of_named_append c v [] named nofun
  rwa [List.append_nil] at read

theorem first_of_numeral {c : Char} {v : List Char} (numeral : Numeral (c :: v)) :
    Lexeme.first c v = ⟨.number (String.ofList (c :: v)), c :: v, []⟩ := by
  cases numeral with
  | positive unsigned =>
    obtain ⟨_, _, ⟨⟩, digit⟩ := head_of_unsigned unsigned
    have apart : ∀ d ∈ ['=', '-', '>', '<', '!', '|'], c ≠ d := by
      have others : ∀ d ∈ ['=', '-', '>', '<', '!', '|'], d.isDigit = false :=
        forall_mem_of_all (by decide)
      rintro d among rfl
      rw [others c among] at digit
      cases digit
    have leads : Operator.leading? (c :: v) = none := leading?_eq_none apart v
    have number : Lexeme.startsNumber c v = true := by simp [Lexeme.startsNumber, digit]
    have minus : c ≠ '-' := apart '-' (by simp)
    simp [Lexeme.first, leads, number, minus, numeral_of_unsigned unsigned]
  | negative unsigned =>
    obtain ⟨d, rest, rfl, digit⟩ := head_of_unsigned unsigned
    have equals : '=' ≠ d := by
      rintro rfl
      cases digit
    have leads : Operator.leading? ('-' :: d :: rest) = none := by
      refine List.find?_eq_none.mpr fun op _ => ?_
      cases op <;> simp [Operator.symbol, List.isPrefixOf, equals]
    have number : Lexeme.startsNumber '-' (d :: rest) = true := by
      simp [Lexeme.startsNumber, digit]
    simp [Lexeme.first, leads, number, numeral_of_unsigned unsigned]

/-- A token that is no string, written by itself, is read as what it is. -/
theorem first_of_spells {k : TokenKind} {c : Char} {v : List Char} (form : k.WellFormed)
    (spells : Spells k (c :: v)) (plain : ∀ inner, k ≠ .string inner) :
    Lexeme.first c v = ⟨k, c :: v, []⟩ := by
  generalize spelled : c :: v = lexeme at spells
  cases spells with
  | identifier name =>
    have word : Lexeme.ofName name = .identifier name := by
      simp [Lexeme.ofName, form.not_and, form.not_or]
    have named : Named (c :: v) := spelled ▸ form.spelled
    rw [first_of_named named, spelled, String.ofList_toList, word]
  | number numeral =>
    have counted : Numeral (c :: v) := spelled ▸ form
    rw [first_of_numeral counted, spelled, String.ofList_toList]
  | operator op => cases op <;> cases spelled <;> rfl
  | string inner => exact absurd rfl (plain inner)
  | andWord same =>
    have named : Named (c :: v) := spelled ▸ named_of_word same (by decide) (by decide +kernel)
    have word : Lexeme.ofName (String.ofList (c :: v)) = .and := by
      rw [spelled, String.ofList_toList, Lexeme.ofName, if_pos same]
    rw [first_of_named named, word, spelled]
  | orWord same =>
    have named : Named (c :: v) := spelled ▸ named_of_word same (by decide) (by decide +kernel)
    have other := Text.sameIgnoringCase_congr same "and"
    have word : Lexeme.ofName (String.ofList (c :: v)) = .or := by
      rw [spelled, String.ofList_toList, Lexeme.ofName, if_pos same, other]
      rfl
    rw [first_of_named named, word, spelled]
  | illegal | unterminated => exact form.elim
  | equalsSign | comma | opening | closing | exclamation | asterisk | and | or =>
    cases spelled
    rfl

theorem filled_of_spells {k : TokenKind} {lexeme : List Char} (form : k.WellFormed)
    (spells : Spells k lexeme) : lexeme ≠ [] := by
  cases spells with
  | identifier name =>
    obtain ⟨c, rest, spelled, -⟩ := form.spelled
    simp [spelled]
  | number numeral =>
    intro empty
    have counted : Numeral numeral.toList := form
    rw [empty] at counted
    cases counted with
    | positive unsigned =>
      obtain ⟨d, rest, spelled, -⟩ := head_of_unsigned unsigned
      cases spelled
  | operator op => exact op.symbol_ne_nil
  | andWord same =>
    obtain ⟨c, rest, spelled, -⟩ := named_of_word same (by decide) (by decide +kernel)
    simp [spelled]
  | orWord same =>
    obtain ⟨c, rest, spelled, -⟩ := named_of_word same (by decide) (by decide +kernel)
    simp [spelled]
  | illegal | unterminated => exact form.elim
  | _ => simp

/-- A blank begins no token. -/
theorem first_of_blank {c : Char} (blank : Text.isBlank c = true) (rest : List Char) :
    Lexeme.first c rest = ⟨.illegal c, [c], rest⟩ := by
  have each : ∀ d ∈ blanks, d.isDigit = false ∧ Lexeme.single? d = none ∧
      Lexeme.isNameStart d = false ∧ d ∉ ['=', '-', '>', '<', '!', '|', '\''] :=
    forall_mem_of_all (by decide +kernel)
  obtain ⟨digit, single, name, apart⟩ := each c (mem_blanks blank)
  simp only [List.mem_cons, List.not_mem_nil, or_false, not_or] at apart
  have leads : Operator.leading? (c :: rest) = none := leading?_eq_none (by simp [apart]) rest
  have number : Lexeme.startsNumber c rest = false := by simp [Lexeme.startsNumber, digit, apart]
  simp [Lexeme.first, leads, number, single, name, apart]

/-- A token of any form, written before a blank or at the end, is read as what it is. -/
theorem first_of_apart {k : TokenKind} {c : Char} {v rest : List Char} (form : k.WellFormed)
    (spells : Spells k (c :: v)) (apart : ∀ d ∈ rest.head?, Text.isBlank d = true) :
    Text.isBlank c = false ∧ Lexeme.first c (v ++ rest) = ⟨k, c :: v, rest⟩ := by
  by_cases string : ∃ inner, k = .string inner
  · obtain ⟨inner, rfl⟩ := string
    generalize spelled : c :: v = lexeme at spells
    cases spells
    cases spelled
    have alone : rest.head? ≠ some '\'' := by
      intro begins
      have blank := apart '\'' begins
      revert blank
      decide
    have body := quotedBody?_of_paired (show Paired inner.toList from form) alone
    refine ⟨by decide, ?_⟩
    rw [first_quote, List.append_assoc, List.singleton_append, body]
    simp
  · have alone := first_of_spells form spells fun inner same => string ⟨inner, same⟩
    have unquoted : c ≠ '\'' := by
      rintro rfl
      rw [first_quote] at alone
      split at alone
      · cases alone
        exact string ⟨_, rfl⟩
      · cases alone
        exact form.elim
    constructor
    · cases blank : Text.isBlank c with
      | false => rfl
      | true =>
        rw [first_of_blank blank] at alone
        cases alone
        exact form.elim
    · rw [first_append_of_detached unquoted (detached_of_blank apart), alone, List.nil_append]

/-- No name begins with a blank. -/
theorem isBlank_of_named {c : Char} {v : List Char} (named : Named (c :: v)) :
    Text.isBlank c = false := by
  cases blank : Text.isBlank c with
  | false => rfl
  | true =>
    have read := first_of_named named
    rw [first_of_blank blank] at read
    have kind := congrArg Lexeme.kind read
    simp only [Lexeme.ofName] at kind
    split_ifs at kind

/-! ### Tokens between blanks -/

/-- A text of tokens in their order, each written as its kind says. Blanks keep them apart, and
there may be blanks at both ends. -/
inductive Spaced : List TokenKind → List Char → Prop where
  | nil {text : List Char} (blank : Text.allBlank text = true) : Spaced [] text
  | cons {k : TokenKind} {s : List TokenKind} {lexeme rest : List Char} (before : List Char)
      (blank : Text.allBlank before = true) (spells : Spells k lexeme)
      (apart : ∀ c ∈ rest.head?, Text.isBlank c = true) (later : Spaced s rest) :
    Spaced (k :: s) (before ++ lexeme ++ rest)

theorem kinds_blanks_append {before : List Char} (blank : Text.allBlank before = true)
    (rest : List Char) (position : Nat) :
    kinds (tokensFrom position (before ++ rest)) = kinds (tokensFrom position rest) := by
  induction before generalizing position with
  | nil => rfl
  | cons c before ih =>
    obtain ⟨here, later⟩ := Bool.and_eq_true_iff.mp blank
    rw [List.cons_append, tokensFrom_blank here, ih later]
    exact kinds_tokensFrom rest _ _

/-- Tokens between blanks are read as what they are. -/
theorem kinds_of_spaced {s : List TokenKind} {text : List Char} (spaced : Spaced s text)
    (forms : ∀ k ∈ s, k.WellFormed) (position : Nat) : kinds (tokensFrom position text) = s := by
  induction spaced generalizing position with
  | nil blank =>
    rw [tokensFrom_of_blanks blank]
    rfl
  | @cons k s lexeme rest before blank spells apart later ih =>
    obtain ⟨form, others⟩ := List.forall_mem_cons.mp forms
    obtain ⟨c, v, rfl⟩ := List.exists_cons_of_ne_nil (filled_of_spells form spells)
    obtain ⟨solid, read⟩ := first_of_apart form spells apart
    rw [List.append_assoc, kinds_blanks_append blank, List.cons_append, tokensFrom_cons solid,
      kinds_cons, read, ih others]

theorem isLegal_of_wellFormed {k : TokenKind} (form : k.WellFormed) : k.isLegal = true := by
  cases k with
  | illegal | unterminated => exact form.elim
  | _ => rfl

/-- A text of tokens between blanks has those tokens, and they are passed on. -/
theorem tokenize_of_spaced {s : List TokenKind} {text : String} (spaced : Spaced s text.toList)
    (forms : ∀ k ∈ s, k.WellFormed) : tokenize text = .ok (tokens text) ∧ textKinds text = s := by
  have read : kinds (tokens text) = s := kinds_of_spaced spaced forms 0
  refine ⟨legal_of_isLegal fun k among => ?_, read⟩
  rw [read] at among
  exact isLegal_of_wellFormed (forms k among)

/-- Tokens that are written out are read again. Every token that is passed on has the form of its
kind; and tokens that have such forms, written in any of the ways of their kinds with blanks between
them, are read as they were, one by one. -/
theorem written_tokens_are_read_again :
    (∀ (text : String) (result : List Token), tokenize text = .ok result →
      ∀ token ∈ result, token.kind.WellFormed) ∧
    ∀ (s : List TokenKind) (text : String), (∀ k ∈ s, k.WellFormed) → Spaced s text.toList →
      ∃ result, tokenize text = .ok result ∧ kinds result = s := by
  constructor
  · intro text result passed
    exact wellFormed_of_tokenize passed
  · intro s text forms spaced
    obtain ⟨passed, read⟩ := tokenize_of_spaced spaced forms
    exact ⟨tokens text, passed, read⟩

/-- A sign, a number with a sign, and words and signs that begin other operators. -/
def touchyKinds : List TokenKind :=
  [.operator .endsWith, .number "-1.5", .or, .equalsSign, .and, .string "it''s",
    .identifier "_né.1"]

/-- The same tokens, with words in mixed case. -/
def touchyText : String := " -=\t-1.5 oR = &\u3000\n'it''s' _né.1"

theorem touchyText_is_read_again :
    (∀ k ∈ touchyKinds, k.WellFormed) ∧ Spaced touchyKinds touchyText.toList ∧
      ∃ result, tokenize touchyText = .ok result ∧ kinds result = touchyKinds := by
  have number : Numeral "-1.5".toList := by
    have one : Digits ['1'] := by simp [Digits]
    have five : Digits ['5'] := by simp [Digits]
    exact .negative (.pointed one five)
  have string : Paired "it''s".toList :=
    .char (by decide) (.char (by decide) (.pair (.char (by decide) .nil)))
  have name : IsName "_né.1" := by decide +kernel
  have forms : ∀ k ∈ touchyKinds, k.WellFormed := by
    simp only [touchyKinds, List.forall_mem_cons]
    exact ⟨trivial, number, trivial, trivial, trivial, string, name, nofun⟩
  have spaced : Spaced touchyKinds touchyText.toList := by
    have characters : touchyText.toList =
        [' ', '-', '=', '\t', '-', '1', '.', '5', ' ', 'o', 'R', ' ', '=', ' ', '&', '\u3000', '\n',
          '\'', 'i', 't', '\'', '\'', 's', '\'', ' ', '_', 'n', 'é', '.', '1'] := by
      decide
    have word : Spells .or "oR".toList := .orWord (by decide)
    have ends : Spaced [] [] := .nil rfl
    rw [characters]
    refine .cons [' '] (by decide) (.operator .endsWith) (by simp; decide) ?_
    refine .cons ['\t'] (by decide) (.number "-1.5") (by simp; decide) ?_
    refine .cons [' '] (by decide) word (by simp; decide) ?_
    refine .cons [' '] (by decide) .equalsSign (by simp; decide) ?_
    refine .cons [' '] (by decide) .and (by simp; decide) ?_
    refine .cons ['\u3000', '\n'] (by decide) (.string "it''s") (by simp; decide) ?_
    exact .cons [' '] (by decide) (.identifier "_né.1") nofun ends
  exact ⟨forms, spaced, written_tokens_are_read_again.2 touchyKinds touchyText forms spaced⟩

end ListQuery.Filter
