import Mathlib.Tactic.SplitIfs
import ListQuery.Proofs.Filter.Parsing

/-! Where tokens stand in a text. A text is made of blanks and of the texts of its tokens, in turn,
and nothing else; so the bytes of a token are those of a run of whole characters, tokens stand one
after the other, and what no token takes up is blank. Only a string that is never closed can be
followed by nothing. -/

namespace ListQuery

/-- The bytes of a string are those of its characters. -/
theorem Text.byteSize_toList (text : String) : byteSize text.toList = text.utf8ByteSize := by
  have ofList (chars : List Char) : byteSize chars = (String.ofList chars).utf8ByteSize := by
    induction chars with
    | nil => rfl
    | cons c rest ih =>
      rw [← List.singleton_append, String.ofList_append, String.utf8ByteSize_append,
        ← String.singleton_eq_ofList, String.utf8ByteSize_singleton, ← ih]
      rfl
  rw [ofList, String.ofList_toList]

namespace Filter

/-! ### How tokens are written -/

/-- How a kind of token is written. -/
inductive Spells : TokenKind → List Char → Prop where
  | identifier (name : String) : Spells (.identifier name) name.toList
  | number (numeral : String) : Spells (.number numeral) numeral.toList
  | operator (op : Operator) : Spells (.operator op) op.symbol.toList
  | equalsSign : Spells .equalsSign ['=']
  /-- Between its quotes. -/
  | string (inner : String) : Spells (.string inner) ('\'' :: (inner.toList ++ ['\'']))
  | comma : Spells .comma [',']
  | opening : Spells .opening ['(']
  | closing : Spells .closing [')']
  | exclamation : Spells .exclamation ['!']
  | asterisk : Spells .asterisk ['*']
  | and : Spells .and ['&']
  | or : Spells .or ['|']
  | andWord {name : String} (word : Text.sameIgnoringCase name "and" = true) :
    Spells .and name.toList
  | orWord {name : String} (word : Text.sameIgnoringCase name "or" = true) :
    Spells .or name.toList
  | illegal (c : Char) : Spells (.illegal c) [c]
  /-- From a quote on. -/
  | unterminated (rest : List Char) : Spells .unterminated ('\'' :: rest)

theorem spells_ofName (name : String) : Spells (Lexeme.ofName name) name.toList := by
  unfold Lexeme.ofName
  split
  · rename_i word
    exact .andWord word
  · split
    · rename_i word
      exact .orWord word
    · exact .identifier name

theorem spells_of_single {c : Char} {kind : TokenKind} (single : Lexeme.single? c = some kind) :
    Spells kind [c] := by
  unfold Lexeme.single? at single
  split_ifs at single <;> cases single <;> subst_vars <;> constructor

/-- A token is written as its kind says. -/
theorem spells_first (c : Char) (rest : List Char) :
    Spells (Lexeme.first c rest).kind (Lexeme.first c rest).text := by
  unfold Lexeme.first
  split
  · exact .operator _
  · split
    · split
      · have spelled := Spells.number (String.ofList ('-' :: (Lexeme.numeral rest).1))
        rwa [String.toList_ofList] at spelled
      · have spelled := Spells.number (String.ofList (Lexeme.numeral (c :: rest)).1)
        rwa [String.toList_ofList] at spelled
    · split
      · rename_i kind single
        exact spells_of_single single
      · split
        · rename_i quote
          split
          · rename_i inner after closed
            have spelled := Spells.string (String.ofList inner)
            rwa [String.toList_ofList] at spelled
          · exact quote ▸ .unterminated rest
        · split
          · have spelled := spells_ofName (String.ofList (c :: rest.takeWhile Lexeme.isNameChar))
            rwa [String.toList_ofList] at spelled
          · exact .illegal c

/-- Nothing is left after a string that is never closed. -/
theorem first_rest_of_unterminated {c : Char} {rest : List Char}
    (unclosed : (Lexeme.first c rest).kind = .unterminated) : (Lexeme.first c rest).rest = [] := by
  obtain ⟨v, text, -⟩ := first_split c rest
  have spelled := spells_first c rest
  rw [unclosed, text] at spelled
  cases spelled
  rw [first_quote] at unclosed ⊢
  cases closed : Lexeme.quotedBody? rest with
  | none => rfl
  | some body =>
    rw [closed] at unclosed
    cases unclosed

/-! ### Texts made of blanks and tokens -/

/-- From a byte position on, a text is made of blanks and of what tokens are written as, in turn,
with nothing after a string that is never closed. -/
inductive Covers : Nat → List Char → List Token → Prop where
  | nil {position : Nat} : Covers position [] []
  | blank {position : Nat} {c : Char} {rest : List Char} {tokens : List Token}
      (blank : Text.isBlank c = true) (later : Covers (position + c.utf8Size) rest tokens) :
    Covers position (c :: rest) tokens
  | token {position : Nat} {kind : TokenKind} {lexeme rest : List Char} {tokens : List Token}
      (filled : lexeme ≠ []) (spells : Spells kind lexeme)
      (unclosed : kind = .unterminated → rest = [])
      (later : Covers (position + Text.byteSize lexeme) rest tokens) :
    Covers position (lexeme ++ rest)
      (⟨kind, position, position + Text.byteSize lexeme⟩ :: tokens)

theorem covers_tokensFrom (text : List Char) (position : Nat) :
    Covers position text (tokensFrom position text) := by
  induction text using tokens_induction generalizing position with
  | nil =>
    rw [tokensFrom_nil]
    exact .nil
  | blank c rest blank ih =>
    rw [tokensFrom_blank blank]
    exact .blank blank (ih _)
  | token c rest solid ih =>
    rw [tokensFrom_cons solid, ← Lexeme.first_append c rest]
    exact .token (Lexeme.first_text_ne_nil c rest) (spells_first c rest)
      first_rest_of_unterminated (ih _)

theorem byteSize_pos {text : List Char} (filled : text ≠ []) : 0 < Text.byteSize text := by
  cases text with
  | nil => exact absurd rfl filled
  | cons c rest => exact Nat.add_pos_left (Char.utf8Size_pos c) _

namespace Covers

variable {position : Nat} {text : List Char} {tokens : List Token}

/-- A text has no more tokens than characters. -/
theorem length_le (covers : Covers position text tokens) : tokens.length ≤ text.length := by
  induction covers with
  | nil => exact Nat.le_refl _
  | blank _ _ ih => exact Nat.le_succ_of_le ih
  | token filled _ _ _ ih =>
    have taken := List.length_pos_iff.mpr filled
    rw [List.length_cons, List.length_append]
    omega

/-- The bytes of a token are those of a run of characters, written as its kind says. -/
theorem span {token : Token} (covers : Covers position text tokens) (among : token ∈ tokens) :
    ∃ before lexeme after, text = before ++ lexeme ++ after ∧
      token.start = position + Text.byteSize before ∧
      token.stop = token.start + Text.byteSize lexeme ∧ lexeme ≠ [] ∧
      Spells token.kind lexeme ∧ (token.kind = .unterminated → after = []) := by
  induction covers with
  | nil => cases among
  | @blank _ c _ _ _ _ ih =>
    obtain ⟨before, lexeme, after, rfl, start, rest⟩ := ih among
    exact ⟨c :: before, lexeme, after, rfl, by rw [start, Text.byteSize, Nat.add_assoc], rest⟩
  | @token _ _ first _ _ filled spells unclosed _ ih =>
    rcases List.mem_cons.mp among with rfl | later
    · exact ⟨[], first, _, rfl, rfl, rfl, filled, spells, unclosed⟩
    · obtain ⟨before, lexeme, after, rfl, start, rest⟩ := ih later
      refine ⟨first ++ before, lexeme, after, ?_, ?_, rest⟩
      · simp only [List.append_assoc]
      · rw [start, Text.byteSize_append, Nat.add_assoc]

theorem start_le {token : Token} (covers : Covers position text tokens) (among : token ∈ tokens) :
    position ≤ token.start := by
  obtain ⟨before, lexeme, after, -, start, -⟩ := covers.span among
  rw [start]
  exact Nat.le_add_right _ _

/-- Tokens stand one after the other. -/
theorem ordered (covers : Covers position text tokens) :
    tokens.Pairwise fun one other => one.stop ≤ other.start := by
  induction covers with
  | nil => exact .nil
  | blank _ _ ih => exact ih
  | token _ _ _ later ih => exact .cons (fun _ among => later.start_le among) ih

/-- After a string that is never closed there is no token. -/
theorem unterminated_last {earlier later : List Token} {token : Token}
    (covers : Covers position text tokens) (split : tokens = earlier ++ token :: later)
    (unclosed : token.kind = .unterminated) : later = [] := by
  induction covers generalizing earlier with
  | nil => simp at split
  | blank _ _ ih => exact ih split
  | @token _ kind lexeme rest _ _ _ ends rests ih =>
    cases earlier with
    | nil =>
      obtain ⟨rfl, rfl⟩ := List.cons.inj split
      obtain rfl : rest = [] := ends unclosed
      exact List.length_eq_zero_iff.mp (Nat.le_zero.mp rests.length_le)
    | cons first earlier => exact ih (List.cons.inj split).2

/-- What no token takes up is blank. -/
theorem blank_of_outside {before after : List Char} {c : Char} {byte : Nat}
    (covers : Covers position text tokens) (split : text = before ++ c :: after)
    (first : position + Text.byteSize before ≤ byte)
    (last : byte < position + Text.byteSize before + c.utf8Size)
    (outside : ∀ token ∈ tokens, ¬ (token.start ≤ byte ∧ byte < token.stop)) :
    Text.isBlank c = true := by
  induction covers generalizing before with
  | nil => simp at split
  | blank blank _ ih =>
    cases before with
    | nil =>
      obtain ⟨rfl, rfl⟩ := List.cons.inj split
      exact blank
    | cons d before =>
      obtain ⟨rfl, rfl⟩ := List.cons.inj split
      rw [Text.byteSize, ← Nat.add_assoc] at first last
      exact ih rfl first last outside
  | @token position kind lexeme rest tokens _ _ _ _ ih =>
    obtain ⟨apart, later⟩ := List.forall_mem_cons.mp outside
    rcases List.append_eq_append_iff.mp split with ⟨more, rfl, rfl⟩ | ⟨more, rfl, tail⟩
    · rw [Text.byteSize_append, ← Nat.add_assoc] at first last
      exact ih rfl first last later
    · cases more with
      | nil =>
        rw [List.append_nil] at ih
        exact @ih [] tail.symm first last later
      | cons d more =>
        -- The character would belong to the token.
        obtain ⟨rfl, -⟩ := List.cons.inj tail
        simp only [Text.byteSize_append, Text.byteSize] at apart
        exact absurd ⟨by omega, by omega⟩ apart

end Covers

/-! ### Texts -/

/-- The bytes of a token are those of a run of whole characters of a text, at least one, which is
written as the token's kind says. -/
def Token.SpansIn (token : Token) (text : String) : Prop :=
  ∃ before lexeme after : String, text = before ++ lexeme ++ after ∧
    token.start = before.utf8ByteSize ∧ token.stop = token.start + lexeme.utf8ByteSize ∧
    token.start < token.stop ∧ Spells token.kind lexeme.toList

/-- A token takes up a byte. -/
def Token.TakesUp (token : Token) (byte : Nat) : Prop :=
  token.start ≤ byte ∧ byte < token.stop

theorem spansIn_of_mem {text : String} {token : Token} (among : token ∈ tokens text) :
    token.SpansIn text ∧ (token.kind = .unterminated → token.stop = text.utf8ByteSize) := by
  obtain ⟨before, lexeme, after, split, start, stop, filled, spells, ends⟩ :=
    (covers_tokensFrom text.toList 0).span among
  have taken := byteSize_pos filled
  have whole := congrArg Text.byteSize split
  rw [Text.byteSize_toList, Text.byteSize_append, Text.byteSize_append] at whole
  refine ⟨⟨String.ofList before, String.ofList lexeme, String.ofList after, ?_, ?_, ?_, ?_, ?_⟩, ?_⟩
  · rw [← String.ofList_append, ← String.ofList_append, ← split, String.ofList_toList]
  · rw [← Text.byteSize_toList, String.toList_ofList, start, Nat.zero_add]
  · rw [← Text.byteSize_toList, String.toList_ofList, stop]
  · omega
  · rwa [String.toList_ofList]
  · intro unclosed
    rw [ends unclosed, Text.byteSize] at whole
    omega

/-- A text is cut into tokens without a loss. There are finitely many, each with its run of whole
characters: a name, a number or an operator is the run itself, a string stands between its quotes,
and what the language lacks is one character. They stand one after the other, and a byte that none
of them takes up belongs to a blank. A string that is never closed is the last of them and goes on
to the end. The tokens are passed on unless the language lacks one; then the error stands where the
first such token begins. -/
theorem tokens_lose_nothing (text : String) :
    (tokens text).length ≤ text.length ∧
    (∀ token ∈ tokens text, token.SpansIn text) ∧
    (tokens text).Pairwise (fun one other => one.stop ≤ other.start) ∧
    (∀ before c after, text = before ++ String.singleton c ++ after →
      ∀ byte, before.utf8ByteSize ≤ byte → byte < before.utf8ByteSize + c.utf8Size →
        (∀ token ∈ tokens text, ¬ token.TakesUp byte) → Text.isBlank c = true) ∧
    (∀ earlier token later, tokens text = earlier ++ token :: later →
      token.kind = .unterminated → later = [] ∧ token.stop = text.utf8ByteSize) ∧
    tokenize text = match (tokens text).findSome? Token.error? with
      | none => .ok (tokens text)
      | some error => .error error := by
  have covers := covers_tokensFrom text.toList 0
  refine ⟨covers.length_le, fun token among => (spansIn_of_mem among).1, covers.ordered, ?blanks,
    ?unclosed, legal_eq (tokens text)⟩
  case blanks =>
    intro before c after split byte first last outside
    have characters : text.toList = before.toList ++ c :: after.toList := by simp [split]
    rw [← Text.byteSize_toList] at first last
    exact covers.blank_of_outside characters (by omega) (by omega) outside
  case unclosed =>
    intro earlier token later split unclosed
    have among : token ∈ tokens text := by simp [split]
    exact ⟨covers.unterminated_last split unclosed, (spansIn_of_mem among).2 unclosed⟩

/-- A text with a letter and a blank of several bytes, a character that begins no token, and a quote
that is never closed. -/
def unclosedText : String := "né\u3000>='o''k'#'x"

theorem tokens_of_unclosedText :
    tokens unclosedText =
      [⟨.identifier "né", 0, 3⟩, ⟨.operator .greaterOrEqual, 6, 8⟩, ⟨.string "o''k", 8, 14⟩,
        ⟨.illegal '#', 14, 15⟩, ⟨.unterminated, 15, 17⟩] ∧
    (⟨.string "o''k", 8, 14⟩ : Token).SpansIn unclosedText ∧ Text.isBlank '\u3000' = true ∧
    unclosedText.utf8ByteSize = 17 ∧
    tokenize unclosedText = .error (.lexical (.unexpectedCharacter '#') 14) := by
  have listed : tokens unclosedText =
      [⟨.identifier "né", 0, 3⟩, ⟨.operator .greaterOrEqual, 6, 8⟩, ⟨.string "o''k", 8, 14⟩,
        ⟨.illegal '#', 14, 15⟩, ⟨.unterminated, 15, 17⟩] := by
    decide +kernel
  obtain ⟨-, spans, -, blanks, ends, passed⟩ := tokens_lose_nothing unclosedText
  refine ⟨listed, spans _ (by rw [listed]; simp), ?blank, ?whole, ?fault⟩
  case blank =>
    refine blanks "né" '\u3000' ">='o''k'#'x" (by decide +kernel) 4 (by decide) (by decide) ?_
    rw [listed]
    simp [Token.TakesUp]
  case whole => exact (ends [_, _, _, _] _ [] listed rfl).2.symm
  case fault =>
    rw [passed, listed]
    rfl

end Filter

end ListQuery
