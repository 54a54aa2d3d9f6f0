import ListQuery.Proofs.Filter.Gluing
import ListQuery.Proofs.Filter.Recognition

/-! What texts parse to. A text has a filter exactly when the kinds of its tokens derive one within
the limits: a derivation has no token that the language lacks, and no blank text has one. -/

namespace ListQuery.Filter

/-! ### The tokens of derivations -/

theorem Literal.legal {k : TokenKind} {value : Option String} (literal : Literal k value) :
    k.isLegal = true := by
  cases literal <;> rfl

theorem Clause.legal {property : String} {s : List TokenKind} {f : Filter}
    (clause : Clause property s f) : ∀ k ∈ s, k.isLegal = true :=
  clause.forall_mem Literal.legal rfl (fun _ => rfl) rfl

/-- A derivation has only tokens of the language. -/
theorem Derives.legal {part : Part} {s : List TokenKind} {f : Filter}
    (derives : Derives part s f) : ∀ k ∈ s, k.isLegal = true := by
  induction derives with
  | conjunction _ ih | term _ ih | group _ ih | property _ ih => exact ih
  | or _ _ first second | and _ _ first second =>
    exact List.forall_mem_append.mpr ⟨first, List.forall_mem_cons.mpr ⟨rfl, second⟩⟩
  | not _ ih | notGroup _ ih | any _ ih => exact List.forall_mem_cons.mpr ⟨rfl, ih⟩
  | parentheses _ ih =>
    have close : ∀ k ∈ [TokenKind.closing], k.isLegal = true := List.forall_mem_singleton.mpr rfl
    exact List.forall_mem_cons.mpr ⟨rfl, List.forall_mem_append.mpr ⟨ih, close⟩⟩
  | all _ ih => exact List.forall_mem_cons.mpr ⟨rfl, List.forall_mem_cons.mpr ⟨rfl, ih⟩⟩
  | allElements inner =>
    exact List.forall_mem_cons.mpr ⟨rfl, List.forall_mem_cons.mpr ⟨rfl, inner.legal⟩⟩
  | clause only => exact List.forall_mem_cons.mpr ⟨rfl, only.legal⟩

/-- A filter begins with an exclamation mark, a parenthesis or a property. -/
theorem Derives.head {part : Part} {s : List TokenKind} {f : Filter} (derives : Derives part s f) :
    ∃ k t, s = k :: t ∧ (k = .exclamation ∨ k = .opening ∨ ∃ name, k = .identifier name) := by
  induction derives with
  | conjunction _ ih | term _ ih | group _ ih | property _ ih => exact ih
  | or _ _ first _ | and _ _ first _ =>
    obtain ⟨k, t, rfl, head⟩ := first
    exact ⟨k, _, rfl, head⟩
  | not | notGroup => exact ⟨_, _, rfl, Or.inl rfl⟩
  | parentheses => exact ⟨_, _, rfl, Or.inr (Or.inl rfl)⟩
  | all | allElements | any | clause => exact ⟨_, _, rfl, Or.inr (Or.inr ⟨_, rfl⟩)⟩

/-! ### Texts -/

/-- The kinds of a text's tokens. -/
def textKinds (text : String) : List TokenKind :=
  kinds (tokens text)

theorem legal_cons (token : Token) (rest : List Token) :
    legal (token :: rest) =
      match token.kind with
      | .illegal c => .error (.lexical (.unexpectedCharacter c) token.start)
      | .unterminated => .error (.lexical .unterminatedString token.start)
      | _ =>
        match legal rest with
        | .ok later => .ok (token :: later)
        | .error error => .error error :=
  rfl

/-- What is wrong with a token that the language does not have. -/
def TokenKind.fault? : TokenKind → Option LexicalFault
  | .illegal c => some (.unexpectedCharacter c)
  | .unterminated => some .unterminatedString
  | _ => none

/-- The error of a token that the language does not have, at the place where the token begins. -/
def Token.error? (token : Token) : Option QueryError :=
  token.kind.fault?.map (.lexical · token.start)

/-- Tokens pass as they are, up to the first that the language does not have. -/
theorem legal_eq (tokens : List Token) :
    legal tokens = match tokens.findSome? Token.error? with
      | none => .ok tokens
      | some error => .error error := by
  induction tokens with
  | nil => rfl
  | cons token rest ih =>
    obtain ⟨kind, start, stop⟩ := token
    rw [legal_cons, ih]
    cases kind with
    | illegal | unterminated => rfl
    | _ =>
      rw [List.findSome?_cons]
      cases found : rest.findSome? Token.error? <;> rfl

theorem error?_of_isLegal {token : Token} (legal : token.kind.isLegal = true) :
    token.error? = none := by
  obtain ⟨kind, start, stop⟩ := token
  cases kind with
  | illegal | unterminated => cases legal
  | _ => rfl

theorem legal_of_isLegal {tokens : List Token} (all : ∀ k ∈ kinds tokens, k.isLegal = true) :
    legal tokens = .ok tokens := by
  have none : tokens.findSome? Token.error? = none :=
    List.findSome?_eq_none_iff.mpr fun token among =>
      error?_of_isLegal (all token.kind (List.mem_map_of_mem among))
  rw [legal_eq, none]

/-- Tokens that pass are passed on as they are. -/
theorem legal_ok {tokens result : List Token} (passed : legal tokens = .ok result) :
    result = tokens := by
  rw [legal_eq] at passed
  split at passed
  · exact (Except.ok.inj passed).symm
  · cases passed

theorem tokensFrom_of_blanks {text : List Char} (blank : Text.allBlank text = true)
    (position : Nat) : tokensFrom position text = [] := by
  induction text generalizing position with
  | nil => exact tokensFrom_nil position
  | cons c rest ih =>
    obtain ⟨here, later⟩ := Bool.and_eq_true_iff.mp blank
    rw [tokensFrom_blank here, ih later]

/-- A text parses to exactly what the kinds of its tokens derive within the limits. -/
theorem parse_eq_some_iff {text : String} {node : Filter} :
    parse text = .ok (some node) ↔
      Derives .disjunction (textKinds text) node ∧ node.height ≤ maxDepth ∧
        OpenAtMost maxDepth (textKinds text) := by
  rw [textKinds, ← ofTokens_eq_ok_iff]
  constructor
  · intro parsed
    unfold parse at parsed
    split at parsed
    · cases parsed
    · split at parsed
      · cases parsed
      · rename_i result tokenized
        rw [← legal_ok tokenized]
        cases found : ofTokens result with
        | error error =>
          rw [found] at parsed
          cases parsed
        | ok filter =>
          rw [found] at parsed
          cases parsed
          rfl
  · intro found
    have derives := (ofTokens_eq_ok_iff.mp found).1
    have solid : ¬ Text.allBlank text.toList = true := by
      intro blank
      obtain ⟨k, t, none, -⟩ := derives.head
      rw [tokens, tokensFrom_of_blanks blank] at none
      cases none
    rw [parse, if_neg solid, tokenize, legal_of_isLegal derives.legal]
    exact congrArg (Except.map some) found

/-- A text whose tokens derive a filter within the limits parses to it. -/
theorem parse_of_derives {text : String} {s : List TokenKind} {node : Filter}
    (read : textKinds text = s) (derives : Derives .disjunction s node)
    (low : node.height ≤ maxDepth) (few : OpenAtMost maxDepth s) :
    parse text = .ok (some node) := by
  subst read
  exact parse_eq_some_iff.mpr ⟨derives, low, few⟩

end ListQuery.Filter
