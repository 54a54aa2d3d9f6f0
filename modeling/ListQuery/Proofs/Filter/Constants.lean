import ListQuery.Proofs.Compile.Typing
import ListQuery.Proofs.Filter.Writing
import ListQuery.Proofs.Number.Digits

/-! Constants as literals. What is written for null, a truth value, an integer or a text is one
token of the filter language, whatever operator stands before it, and its value, read at a type that
the constant is of, is the constant. Neither the sign of a number nor the quote of a text is taken
for a part of the operator. -/

namespace ListQuery

/-- A list takes the literals of what is inside it. -/
theorem Literal.scalarOf_innermost {M : Type} (raw : String) (type : FieldType M) :
    scalarOf raw type.innermost = scalarOf raw type := by
  induction type with
  | list element ih => exact ih
  | _ => rfl

namespace Filter

/-! ### The tokens of constants -/

/-- A constant, the token that it is written as, and the literal that the token stands for. -/
inductive States : Scalar → TokenKind → Option String → Prop where
  | null : States .null (.identifier "null") none
  | true : States (.bool true) (.identifier "true") (some "true")
  | false : States (.bool false) (.identifier "false") (some "false")
  | int (i : Int64) : States (.int i) (.number (toString i.toInt)) (some (toString i.toInt))
  | text (s : String) :
    States (.text s) (.string (String.ofList (Text.doubleQuotes s.toList))) (some s)

/-- Floats and instants apart, every constant is one token. -/
theorem exists_states {constant : Scalar} (notFloat : ∀ x, constant ≠ .float x)
    (notInstant : ∀ i, constant ≠ .instant i) : ∃ k value, States constant k value := by
  cases constant with
  | null => exact ⟨_, _, .null⟩
  | bool b =>
    cases b with
    | true => exact ⟨_, _, .true⟩
    | false => exact ⟨_, _, .false⟩
  | int i => exact ⟨_, _, .int i⟩
  | text s => exact ⟨_, _, .text s⟩
  | float x => exact absurd rfl (notFloat x)
  | instant i => exact absurd rfl (notInstant i)

theorem digits_toDigits (n : Nat) : Digits (Nat.toDigits 10 n) :=
  ⟨Nat.toDigits_ne_nil, fun _ => Numeral.isDigit_of_mem_toDigits⟩

/-- An integer is written as a numeral. -/
theorem numeral_toString (i : Int) : Numeral (toString i).toList := by
  cases i with
  | ofNat n =>
    rw [Numeral.toList_ofNat]
    exact .positive (.whole (digits_toDigits n))
  | negSucc n =>
    rw [Numeral.toList_negSucc]
    exact .negative (.whole (digits_toDigits (n + 1)))

namespace States

variable {constant : Scalar} {k : TokenKind} {value : Option String}

theorem spells (states : States constant k value) : Spells k constant.literal.toList := by
  cases states with
  | null => exact .identifier "null"
  | true => exact .identifier "true"
  | false => exact .identifier "false"
  | int i => exact .number (toString i.toInt)
  | text s =>
    have spelled := Spells.string (String.ofList (Text.doubleQuotes s.toList))
    have same : (Scalar.text s).literal.toList =
        '\'' :: ((String.ofList (Text.doubleQuotes s.toList)).toList ++ ['\'']) := by
      simp [Scalar.literal, Text.quoted]
    rwa [same]

theorem wellFormed (states : States constant k value) : k.WellFormed := by
  cases states with
  | null => exact isName_null
  | true => exact (by decide +kernel : IsName "true")
  | false => exact (by decide +kernel : IsName "false")
  | int i => exact numeral_toString i.toInt
  | text s =>
    show Paired (String.ofList (Text.doubleQuotes s.toList)).toList
    rw [String.toList_ofList]
    exact paired_doubleQuotes s.toList

theorem literal (states : States constant k value) : Literal k value := by
  cases states with
  | null => exact .wordNull (by decide)
  | true => exact .wordTrue (by decide)
  | false => exact .wordFalse (by decide)
  | int i => exact .number (toString i.toInt)
  | text s => exact literal_literalKind (some s)

/-- At a type that a constant is of, its literal is read as the constant. -/
theorem scalar_eq_ok {M : Type} {type : FieldType M} (states : States constant k value)
    (typed : constant.OfType type) : ListQuery.Literal.scalar value type = .ok constant := by
  -- What is no null is read at the type that is inside all lists, which is the constant's own.
  have inside {raw : String} {own : FieldType M} (present : constant ≠ .null)
      (kind : constant.type? = some own)
      (read : ListQuery.Literal.scalarOf raw own = .ok constant) :
      ListQuery.Literal.scalar (some raw) type = .ok constant := by
    have same : own = type.innermost := Option.some.inj (kind ▸ typed.resolve_left present)
    rwa [ListQuery.Literal.scalar, ← ListQuery.Literal.scalarOf_innermost, ← same]
  cases states with
  | null => rfl
  | true => exact inside nofun rfl rfl
  | false => exact inside nofun rfl rfl
  | int i =>
    refine inside nofun rfl ?_
    simp only [ListQuery.Literal.scalarOf, ListQuery.Literal.int64, Numeral.int64_toString]
    rfl
  | text s => exact inside nofun rfl rfl

end States

/-! ### Clauses of one literal -/

/-- A name, the sign for equality and a token are read as these three, whatever the token. -/
theorem textKinds_equality {property literal : String} {k : TokenKind} (name : IsName property)
    (form : k.WellFormed) (spells : Spells k literal.toList) :
    textKinds (property ++ "==" ++ literal) = [.identifier property, .operator .equal, k] := by
  obtain ⟨c, v, spelled, start, more⟩ := name.spelled
  have named : Named (c :: v) := named_cons.mpr ⟨start, more⟩
  have characters : (property ++ "==" ++ literal).toList =
      c :: (v ++ '=' :: '=' :: literal.toList) := by
    simp [spelled]
  have word : Lexeme.ofName (String.ofList (c :: v)) = .identifier property := by
    rw [← spelled, String.ofList_toList]
    simp [Lexeme.ofName, name.not_and, name.not_or]
  have front : Lexeme.first c (v ++ '=' :: '=' :: literal.toList) =
      ⟨.identifier property, c :: v, '=' :: '=' :: literal.toList⟩ := by
    rw [← word]
    exact first_of_named_append named (by simp; decide +kernel)
  -- An operator ends with its sign, whatever the literal begins with.
  have sign : Lexeme.first '=' ('=' :: literal.toList) =
      ⟨.operator .equal, ['=', '='], literal.toList⟩ := rfl
  have alone : Spaced [k] literal.toList := by
    have blank : Spaced [] [] := .nil rfl
    have spaced := Spaced.cons [] rfl spells (by simp) blank
    rwa [List.nil_append, List.append_nil] at spaced
  have last (position : Nat) : kinds (tokensFrom position literal.toList) = [k] :=
    kinds_of_spaced alone (List.forall_mem_singleton.mpr form) position
  rw [textKinds, tokens, characters, tokensFrom_cons (isBlank_of_named named), front,
    tokensFrom_cons (by decide), sign, kinds_cons, kinds_cons, last]

/-- Null, a truth value, an integer or a text is its own literal: after any property's name and the
sign for equality, what is written for it makes one clause, without a negation and with case kept,
of one literal, which is read as the constant at every type that the constant is of. -/
theorem constant_is_its_literal {constant : Scalar} {property : String} (name : IsName property)
    (notFloat : ∀ x, constant ≠ .float x) (notInstant : ∀ i, constant ≠ .instant i) :
    ∃ value,
      parse (property ++ "==" ++ constant.literal) =
        .ok (some (.clause property .equal [value] false false)) ∧
      ∀ {M : Type} (type : FieldType M), constant.OfType type →
        ListQuery.Literal.scalar value type = .ok constant := by
  obtain ⟨k, value, states⟩ := exists_states notFloat notInstant
  refine ⟨value, ?_, fun type typed => states.scalar_eq_ok typed⟩
  have read := textKinds_equality name states.wellFormed states.spells
  have clause : Clause property [.operator .equal, k]
      (.clause property .equal [value] false false) :=
    .exact .equal (.last states.literal)
  have plain : ∀ j ∈ [.identifier property, .operator .equal, k], Plain j :=
    List.forall_mem_cons.mpr ⟨by simp [Plain], clause.plain⟩
  have low : 1 ≤ maxDepth := by decide
  exact parse_of_derives read (.conjunction (.term (.property (.clause clause)))) low
    (openAtMost_of_plain plain)

/-- A property named as null is, with the least integer; and a name with a point, with a text of
quotes and of signs that an operator could be made of, and with null. -/
theorem touchy_constants_are_their_literals :
    IsName "null" ∧ IsName "_x.1" ∧
    (∃ value,
      parse ("null" ++ "==" ++ "-9223372036854775808") =
        .ok (some (.clause "null" .equal [value] false false)) ∧
      ListQuery.Literal.scalar value (.int : FieldType Empty) = .ok (.int Int64.minValue)) ∧
    (∃ value,
      parse ("_x.1" ++ "==" ++ "'''==-=-,'''") =
        .ok (some (.clause "_x.1" .equal [value] false false)) ∧
      ListQuery.Literal.scalar value (.list .text : FieldType Empty) = .ok (.text "'==-=-,'")) ∧
    ∃ value,
      parse ("_x.1" ++ "==" ++ "null") =
        .ok (some (.clause "_x.1" .equal [value] false false)) ∧
      ListQuery.Literal.scalar value (.list .bool : FieldType Empty) = .ok .null := by
  have names : IsName "null" ∧ IsName "_x.1" := ⟨isName_null, by decide +kernel⟩
  refine ⟨names.1, names.2, ?least, ?quotes, ?null⟩
  case least =>
    obtain ⟨value, parsed, read⟩ :=
      @constant_is_its_literal (.int Int64.minValue) "null" names.1 (by simp) (by simp)
    have spelled : (Scalar.int Int64.minValue).literal = "-9223372036854775808" := by decide +kernel
    exact ⟨value, spelled ▸ parsed, read .int (Or.inr rfl)⟩
  case quotes =>
    obtain ⟨value, parsed, read⟩ :=
      @constant_is_its_literal (.text "'==-=-,'") "_x.1" names.2 (by simp) (by simp)
    have spelled : (Scalar.text "'==-=-,'").literal = "'''==-=-,'''" := by decide +kernel
    exact ⟨value, spelled ▸ parsed, read (.list .text) (Or.inr rfl)⟩
  case null =>
    obtain ⟨value, parsed, read⟩ :=
      @constant_is_its_literal .null "_x.1" names.2 (by simp) (by simp)
    exact ⟨value, parsed, read (.list .bool) (Or.inl rfl)⟩

end Filter

end ListQuery
