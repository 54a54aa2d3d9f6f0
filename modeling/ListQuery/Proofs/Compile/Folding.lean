import ListQuery.Proofs.Compile.ClauseTexts
import ListQuery.Proofs.Text.Sigma
import ListQuery.Sample.Models

/-! Clauses on texts without regard to case. The text and the literal are lowered apart from each
other, as wholes. Equal texts stay equal, but a text that holds a pattern need not hold it when both
are lowered: it does exactly when no sigma of the pattern depends on the text around it. -/

namespace ListQuery

namespace Value

/-- A record with nothing but a text, at the end of a path. -/
def nested (text : String) (path : FieldPath) : Value :=
  path.foldr (fun name inner => .record [(name, inner)]) (.text text)

theorem lookup?_nested (text : String) (path : FieldPath) :
    (nested text path).lookup? path = some (.text text) := by
  induction path with
  | nil => rfl
  | cons name rest ih =>
    have found : fieldOf? name [(name, nested text rest)] = some (nested text rest) := if_pos rfl
    change (record [(name, nested text rest)]).lookup? (name :: rest) = _
    rw [lookup?, found]
    exact ih

theorem text_equals_iff (text literal : String) :
    (Value.text text).equals (.text literal) = true ↔ text = literal := by
  simp [equals, compareTo?]

end Value

namespace Compile

open ListQuery.Filter (Operator TokenKind Values textKinds)

/-- A text, in lower case if asked for. -/
def folded (foldCase : Bool) (text : String) : String :=
  if foldCase then Text.lowercase text else text

/-- The constant of a literal in a text field. -/
def textConstant (foldCase : Bool) : Option String → Scalar
  | none => .null
  | some text => .text (folded foldCase text)

/-! ### What holds of a text -/

section Held

variable {record : Value} {path : FieldPath} {text : String}

theorem operand?_of_text (held : record.lookup? path = some (.text text)) (foldCase : Bool) :
    record.operand? ⟨path, foldCase⟩ = some (.text (folded foldCase text)) := by
  rw [Value.operand?, held]
  cases foldCase <;> rfl

theorem equal_holds_iff (held : record.lookup? path = some (.text text)) (foldCase : Bool)
    (literal : String) :
    (Predicate.compare ⟨path, foldCase⟩ .eq (.text literal)).holds record = true ↔
      folded foldCase text = literal := by
  rw [Predicate.holds, operand?_of_text held]
  exact Value.text_equals_iff _ _

theorem oneOf_holds_iff (held : record.lookup? path = some (.text text)) (foldCase : Bool)
    (constants : List Scalar) :
    (Predicate.oneOf ⟨path, foldCase⟩ constants).holds record = true ↔
      .text (folded foldCase text) ∈ constants := by
  have same (constant : Scalar) : (Value.text (folded foldCase text)).equals constant = true ↔
      .text (folded foldCase text) = constant := by
    cases constant with
    | text literal => rw [Value.text_equals_iff, Scalar.text.injEq]
    | _ => simp [Value.equals, Value.compareTo?]
  rw [Predicate.holds, operand?_of_text held]
  simp only [List.any_eq_true, same, exists_eq_right']

theorem pattern_holds_iff (held : record.lookup? path = some (.text text)) (foldCase : Bool)
    (position : TextMatch) (pattern : String) :
    (Predicate.text ⟨path, foldCase⟩ position pattern).holds record = true ↔
      position.holds pattern (folded foldCase text) = true := by
  rw [Predicate.holds, operand?_of_text held]

end Held

/-! ### Both forms of a clause -/

/-- What holds of a text at a path by one condition holds of it by the other. -/
def Widens (path : FieldPath) (narrow wide : Predicate) : Prop :=
  ∀ (record : Value) (text : String), record.lookup? path = some (.text text) →
    narrow.holds record = true → wide.holds record = true

theorem equal_widens (path : FieldPath) (literal : String) :
    Widens path (.compare ⟨path, false⟩ .eq (.text literal))
      (.compare ⟨path, true⟩ .eq (.text (Text.lowercase literal))) := by
  intro record text held same
  rw [equal_holds_iff held] at same ⊢
  exact congrArg Text.lowercase same

theorem oneOf_widens (path : FieldPath) (raw : List (Option String)) :
    Widens path (.oneOf ⟨path, false⟩ (raw.map (textConstant false)))
      (.oneOf ⟨path, true⟩ (raw.map (textConstant true))) := by
  intro record text held among
  rw [oneOf_holds_iff held, List.mem_map] at among ⊢
  obtain ⟨literal, listed, same⟩ := among
  refine ⟨literal, listed, ?_⟩
  cases literal with
  | none => cases same
  | some literal =>
    cases same
    rfl

theorem pattern_widens_iff (path : FieldPath) (position : TextMatch) (pattern : String) :
    Widens path (.text ⟨path, false⟩ position pattern)
        (.text ⟨path, true⟩ position (Text.lowercase pattern)) ↔
      Text.Settled position pattern := by
  rw [← Text.holds_lowercase_iff]
  constructor
  · intro widens text held
    have there := Value.lookup?_nested text path
    have wide := widens _ text there ((pattern_holds_iff there false position pattern).mpr held)
    exact (pattern_holds_iff there true position _).mp wide
  · intro lowered record text there held
    rw [pattern_holds_iff there] at held ⊢
    exact lowered text held

section Clauses

variable {M : Type} [Schema M] [DecidableEq M] {config : Config M} {model : M} {property : String}

omit [DecidableEq M] in
theorem constant_text (foldCase : Bool) (literal : Option String) :
    constant property (.text : FieldType M) none foldCase literal =
      .ok (textConstant foldCase literal) := by
  cases literal <;> cases foldCase <;> rfl

omit [DecidableEq M] in
theorem constants_text (foldCase : Bool) (raw : List (Option String)) :
    constants property (.text : FieldType M) none foldCase raw =
      .ok (raw.map (textConstant foldCase)) := by
  induction raw with
  | nil => rfl
  | cons literal rest ih =>
    rw [constants, constant_text, ih]
    rfl

/-- An operator that looks for a text, with its literals. -/
inductive LooksFor : Operator → List (Option String) → Prop where
  | equal (text : String) : LooksFor .equal [some text]
  | oneOf (raw : List (Option String)) : LooksFor .oneOf raw
  | pattern {operator : Operator} {position : TextMatch} (asks : role operator = .pattern position)
      (pattern : String) : LooksFor operator [some pattern]

/-- The pattern of a clause that has one is settled. -/
def SettledClause (operator : Operator) (raw : List (Option String)) : Prop :=
  ∀ position pattern, role operator = .pattern position → raw = [some pattern] →
    Text.Settled position pattern

variable (property) in
omit [DecidableEq M] in
/-- The tests that a clause makes of a text, with regard to case and without. -/
theorem exists_textTests (path : FieldPath) {operator : Operator} {raw : List (Option String)}
    (asks : LooksFor operator raw) :
    ∃ exact folded,
      scalarClause property path (.text : FieldType M) none false operator raw = .ok exact ∧
      scalarClause property path (.text : FieldType M) none true operator raw = .ok folded ∧
      (Widens path exact folded ↔ SettledClause operator raw) := by
  cases asks with
  | equal text =>
    exact ⟨_, _, rfl, rfl, iff_of_true (equal_widens path text) nofun⟩
  | oneOf raw =>
    have listed (foldCase : Bool) :
        scalarClause property path (.text : FieldType M) none foldCase .oneOf raw =
          .ok (.oneOf ⟨path, foldCase⟩ (raw.map (textConstant foldCase))) := by
      have constants : constants property (.text : FieldType M) none (foldCase && true) raw =
          .ok (raw.map (textConstant foldCase)) := by rw [Bool.and_true, constants_text]
      change (Compile.constants property (.text : FieldType M) none (foldCase && true) raw).map
        (Predicate.oneOf ⟨path, foldCase && true⟩) = _
      rw [constants, Bool.and_true]
      rfl
    exact ⟨_, _, listed false, listed true, iff_of_true (oneOf_widens path raw) nofun⟩
  | @pattern operator position asks pattern =>
    have held (foldCase : Bool) :
        scalarClause property path (.text : FieldType M) none foldCase operator [some pattern] =
          .ok (.text ⟨path, foldCase⟩ position (folded foldCase pattern)) := by
      cases operator with
      | contains | startsWith | endsWith => cases asks; cases foldCase <;> rfl
      | _ => cases asks
    have settled : SettledClause operator [some pattern] ↔ Text.Settled position pattern := by
      constructor
      · exact fun all => all position pattern asks rfl
      · rintro settled _ _ same ⟨⟩
        cases asks.symm.trans same
        exact settled
    exact ⟨_, _, held false, held true,
      (pattern_widens_iff path position pattern).trans settled.symm⟩

section Found

variable {resolved : Resolved M} {operator : Operator} {raw : List (Option String)}
  (found : resolve config model property = some resolved)

include found

variable (isText : resolved.type = .text) (typed : resolved.convert = none)
  (unhooked : resolved.customFilter = none)

include isText typed unhooked

/-- A clause on a text field that has neither a converter nor a hook is the clause on its type. -/
theorem filter_textClause (kept : resolved.filterIgnored = false) {foldCase : Bool} {p : Predicate}
    (asked : scalarClause (M := M) property resolved.path .text none foldCase operator raw =
      .ok p) :
    (filter config (.model model) (.clause property operator raw false foldCase)).result =
      .ok (some p) := by
  have scalar : resolved.type.isSortable = true := by rw [isText]; rfl
  rw [← isText] at asked
  exact filter_scalarClause found kept scalar typed unhooked asked

/-- A clause that looks for a text accepts no less without regard to case exactly when the pattern
that it may have is settled; equal texts and listed ones always stay so. A clause on an ignored
field is passed over in both forms. -/
theorem folded_clause_widens_iff (asks : LooksFor operator raw) :
    (∀ {literals : List TokenKind} {foldCase : Bool} {text : String}, Values literals raw →
      textKinds text = .identifier property :: clauseKinds operator foldCase literals →
      (compileFilter config model text).result =
        (filter config (.model model) (.clause property operator raw false foldCase)).result) ∧
    (resolved.filterIgnored = true → ∀ foldCase,
      (filter config (.model model) (.clause property operator raw false foldCase)).result =
        if config.strict then .error (.unresolvedFilter property) else .ok none) ∧
    (resolved.filterIgnored = false → ∃ exact folded,
      (filter config (.model model) (.clause property operator raw false false)).result =
        .ok (some exact) ∧
      (filter config (.model model) (.clause property operator raw false true)).result =
        .ok (some folded) ∧
      (Widens resolved.path exact folded ↔ SettledClause operator raw)) := by
  refine ⟨compileFilter_clause, filter_ignoredClause found, fun kept => ?_⟩
  obtain ⟨exact, folded, asExact, asFolded, widens⟩ :=
    exists_textTests (M := M) property resolved.path asks
  exact ⟨exact, folded, filter_textClause found isText typed unhooked kept asExact,
    filter_textClause found isText typed unhooked kept asFolded, widens⟩

end Found

end Clauses

section Names

/-- The name of a user, under no configuration. -/
private theorem name_found : resolve {} Sample.Model.user "name" =
    some ⟨["name"], .text, none, false, false, none, none⟩ :=
  rfl

/-- A sigma with a letter after it in the pattern is settled wherever the pattern stands. -/
theorem sigmaAlpha_widens :
    (∃ resolved, resolve {} Sample.Model.user "name" = some resolved ∧ resolved.type = .text ∧
      resolved.convert = none ∧ resolved.customFilter = none ∧ resolved.filterIgnored = false) ∧
    LooksFor .contains [some "ΣΑ"] ∧
    ∃ exact folded,
      (compileFilter {} Sample.Model.user "name-=-'ΣΑ'").result = .ok (some exact) ∧
      (compileFilter {} Sample.Model.user "name-=-*'ΣΑ'").result = .ok (some folded) ∧
      Widens ["name"] exact folded := by
  have plain : textKinds "name-=-'ΣΑ'" =
      .identifier "name" :: clauseKinds .contains false [.string "ΣΑ"] := by decide +kernel
  have starred : textKinds "name-=-*'ΣΑ'" =
      .identifier "name" :: clauseKinds .contains true [.string "ΣΑ"] := by decide +kernel
  have asks : LooksFor .contains [some "ΣΑ"] := .pattern rfl "ΣΑ"
  have settled : SettledClause .contains [some "ΣΑ"] := by
    rintro _ _ ⟨⟩ ⟨⟩
    decide +kernel
  obtain ⟨texts, -, tests⟩ := folded_clause_widens_iff name_found rfl rfl rfl asks
  obtain ⟨exact, folded, asExact, asFolded, widens⟩ := tests rfl
  have values : Values [.string "ΣΑ"] [some "ΣΑ"] := .last (.string "ΣΑ")
  exact ⟨⟨_, name_found, rfl, rfl, rfl, rfl⟩, asks, exact, folded,
    (texts values plain).trans asExact, (texts values starred).trans asFolded,
    widens.mpr settled⟩

/-- A sigma at the end of the pattern is lowered as the end of a word, but the text goes on. -/
theorem alphaSigma_is_lost :
    ∃ exact folded,
      (compileFilter {} Sample.Model.user "name-=-'ΑΣ'").result = .ok (some exact) ∧
      (compileFilter {} Sample.Model.user "name-=-*'ΑΣ'").result = .ok (some folded) ∧
      exact.holds (.record [("name", .text "ΑΣΑ")]) = true ∧
      folded.holds (.record [("name", .text "ΑΣΑ")]) = false := by
  have plain : textKinds "name-=-'ΑΣ'" =
      .identifier "name" :: clauseKinds .contains false [.string "ΑΣ"] := by decide +kernel
  have starred : textKinds "name-=-*'ΑΣ'" =
      .identifier "name" :: clauseKinds .contains true [.string "ΑΣ"] := by decide +kernel
  have values : Values [.string "ΑΣ"] [some "ΑΣ"] := .last (.string "ΑΣ")
  refine ⟨.text ⟨["name"], false⟩ .contains "ΑΣ",
    .text ⟨["name"], true⟩ .contains (Text.lowercase "ΑΣ"),
    (compileFilter_clause values plain).trans ?_, (compileFilter_clause values starred).trans ?_,
    by decide +kernel, by decide +kernel⟩
  · exact filter_textClause name_found rfl rfl rfl rfl rfl
  · exact filter_textClause name_found rfl rfl rfl rfl rfl

end Names

end Compile

end ListQuery
