import ListQuery.Proofs.Compile.Recasing
import ListQuery.Proofs.Plan.Entries
import ListQuery.Query
import ListQuery.Sample.Models

/-! Queries in any case of letters. An order-by text is cut at commas, blanks, quotes and minus
signs, which have no case, so in small letters it has the same entries but for the names of their
properties. With what is known of filters, queries that differ in the case of letters in names
compile to one plan, or to errors that differ in the name of a property alone. -/

namespace ListQuery

open Text (asciiLower sameLetter_toLower sameIgnoringCase_lowered toLower_eq_iff)

/-! ### Order-by texts -/

namespace OrderBy

/-- The entry with its property in small letters. -/
def Entry.lowered (entry : Entry) : Entry :=
  { entry with property := Text.lowered entry.property }

theorem pieces_asciiLower (quoted : Bool) (text : List Char) :
    pieces quoted (asciiLower text) = (pieces quoted text).map asciiLower := by
  induction text generalizing quoted with
  | nil => rfl
  | cons c rest ih =>
    have quote : c.toLower = '\'' ↔ c = '\'' := toLower_eq_iff rfl
    have comma : c.toLower = ',' ↔ c = ',' := toLower_eq_iff rfl
    change pieces quoted (c.toLower :: asciiLower rest) = _
    rw [pieces, pieces]
    simp only [quote, comma, ih]
    cases pieces (if c = '\'' then !quoted else quoted) rest with
    | nil => rfl
    | cons first later =>
      simp only [List.map_cons]
      split <;> rfl

theorem trimStart_asciiLower (text : List Char) :
    Text.trimStart (asciiLower text) = asciiLower (Text.trimStart text) := by
  have blank : Text.isBlank ∘ Char.toLower = Text.isBlank :=
    funext fun c => Filter.isBlank_congr (sameLetter_toLower c)
  rw [Text.trimStart, asciiLower, List.dropWhile_map, blank]
  rfl

theorem trim_asciiLower (text : List Char) :
    Text.trim (asciiLower text) = asciiLower (Text.trim text) := by
  have reversed (text : List Char) : (asciiLower text).reverse = asciiLower text.reverse :=
    List.map_reverse.symm
  have trimEnd (text : List Char) :
      Text.trimEnd (asciiLower text) = asciiLower (Text.trimEnd text) := by
    have start := trimStart_asciiLower text.reverse
    rw [Text.trimStart, Text.trimStart] at start
    rw [Text.trimEnd, reversed, start, reversed]
    rfl
  rw [Text.trim, trimStart_asciiLower, trimEnd]
  rfl

theorem undoubleQuotes_asciiLower (text : List Char) :
    Text.undoubleQuotes (asciiLower text) = asciiLower (Text.undoubleQuotes text) := by
  fun_induction Text.undoubleQuotes text with
  | case1 rest ih =>
    change Text.undoubleQuotes ('\'' :: '\'' :: asciiLower rest) = _
    rw [Text.undoubleQuotes, ih]
    rfl
  | case2 c rest alone ih =>
    change Text.undoubleQuotes (c.toLower :: asciiLower rest) = _
    rw [Text.undoubleQuotes, ih]
    · rfl
    · intro later first second
      cases rest with
      | nil => cases second
      | cons d more =>
        have quote := (toLower_eq_iff rfl).mp (List.cons.inj second).1
        exact alone more ((toLower_eq_iff rfl).mp first) (quote ▸ rfl)
  | case3 => rfl

theorem unquote_asciiLower (text : List Char) :
    unquote (asciiLower text) = asciiLower (unquote text) := by
  cases text with
  | nil => rfl
  | cons c rest =>
    by_cases opens : c = '\''
    · subst opens
      have quote (d : Char) : d.toLower = '\'' ↔ d = '\'' := toLower_eq_iff rfl
      have closes : (asciiLower rest).getLast? = some '\'' ↔ rest.getLast? = some '\'' := by
        rw [asciiLower, List.getLast?_map, Option.map_eq_some_iff]
        simp [quote]
      change unquote ('\'' :: asciiLower rest) = _
      rw [unquote_opened, unquote_opened, ← undoubleQuotes_asciiLower]
      simp only [closes]
      split
      · exact congrArg _ List.map_dropLast.symm
      · rfl
    · have opens' := mt (toLower_eq_iff rfl).mp opens
      change unquote (c.toLower :: asciiLower rest) = _
      rw [unquote_other opens', unquote_other opens, ← undoubleQuotes_asciiLower]
      rfl

theorem named_asciiLower (ascending : Bool) (property : List Char) :
    named ascending (asciiLower property) = (named ascending property).map Entry.lowered := by
  cases property with
  | nil => rfl
  | cons c rest => simp [named, asciiLower, Entry.lowered, Text.lowered]

theorem entry?_asciiLower (piece : List Char) :
    entry? (asciiLower piece) = ( entry? piece).map Entry.lowered := by
  have trimmed := trim_asciiLower piece
  by_cases minus : ∃ rest, Text.trim piece = '-' :: rest
  · obtain ⟨rest, cut⟩ := minus
    rw [cut] at trimmed
    rw [entry?_minus cut, entry?_minus trimmed, ← named_asciiLower, ← unquote_asciiLower]
    exact congrArg (fun rest => named false (unquote rest)) (trimStart_asciiLower rest)
  · have plain := not_exists.mp minus
    have plain' : ∀ rest, Text.trim (asciiLower piece) ≠ '-' :: rest := by
      intro rest cut
      rw [trimmed] at cut
      obtain ⟨c, later, whole, first, -⟩ := List.map_eq_cons_iff.mp cut
      exact plain later ((toLower_eq_iff rfl).mp first ▸ whole)
    rw [entry?_plain plain, entry?_plain plain', trimmed, unquote_asciiLower, named_asciiLower]

/-- The entries of a text in small letters are those of the text, in small letters. -/
theorem parse_lowered (text : String) :
    parse (Text.lowered text) = (parse text).map Entry.lowered := by
  rw [parse, parse, Text.lowered, String.toList_ofList, pieces_asciiLower, List.filterMap_map,
    List.map_filterMap]
  exact congrArg (List.filterMap · _) (funext entry?_asciiLower)

end OrderBy

namespace OrderCompile

variable {M : Type} (config : Config M)

theorem skipped_lowered (property : String) (reason : PassedOver) :
    skipped config (Text.lowered property) reason = (skipped config property reason).lowered := by
  unfold skipped
  split <;> rfl

variable [Schema M] [DecidableEq M] (model : M)

theorem collect_lowered (plan : SortPlan) (deferred : List Deferred)
    (entries : List OrderBy.Entry) :
    collect config model plan deferred (entries.map OrderBy.Entry.lowered) =
      (collect config model plan deferred entries).lowered := by
  induction entries generalizing plan deferred with
  | nil => rfl
  | cons entry rest ih =>
    have same : resolve config model (Text.lowered entry.property) =
        resolve config model entry.property :=
      resolve_congr config model (sameIgnoringCase_lowered entry.property)
    rw [List.map_cons, collect, collect]
    simp only [OrderBy.Entry.lowered, same, ih, skipped_lowered]
    split
    · rw [Traced.lowered_bind]
    · split
      · rw [Traced.lowered_bind]
      · split
        · rfl
        · split
          · rfl
          · rw [Traced.lowered_bind]

theorem runHooks_lowered (plan : SortPlan) (deferred : List Deferred) :
    (runHooks plan deferred).lowered = runHooks plan deferred := by
  induction deferred generalizing plan with
  | nil => rfl
  | cons first rest ih =>
    rw [runHooks, Traced.lowered_bind]
    simp only [ih]
    rfl

end OrderCompile

variable {M : Type} [Schema M] [DecidableEq M] (config : Config M) (model : M)

theorem compileOrder_lowered (text : String) :
    compileOrder config model (Text.lowered text) = (compileOrder config model text).lowered := by
  simp only [compileOrder, OrderBy.parse_lowered, OrderCompile.collect_lowered,
    Traced.lowered_bind, OrderCompile.runHooks_lowered]

/-! ### Queries -/

/-- The query in small letters, apart from what stands between quotes in its filter. -/
def Query.lowered (query : Query) : Query :=
  { query with
    filter := String.ofList (Filter.lowerOutside false query.filter.toList)
    orderBy := Text.lowered query.orderBy }

namespace Plan

/-- A query in small letters compiles to the same, but for the properties that are named. -/
theorem compile_lowered (query : Query) :
    compile config model query.lowered = (compile config model query).lowered := by
  simp only [compile, Query.lowered, compileFilter_lowerOutside, compileOrder_lowered,
    Traced.lowered_bind]
  rfl

end Plan

/-- Queries that are one in small letters have one plan, or errors of one kind that differ at most
in the name of a property. -/
theorem compile_ignores_case_of_names (query other : Query) (same : query.lowered = other.lowered) :
    (∃ plan, (Plan.compile config model query).result = .ok plan ∧
      (Plan.compile config model other).result = .ok plan) ∨
    ∃ error error', (Plan.compile config model query).result = .error error ∧
      (Plan.compile config model other).result = .error error' ∧
      error.lowered = error'.lowered := by
  have results : (Plan.compile config model query).lowered.result =
      (Plan.compile config model other).lowered.result := by
    rw [← Plan.compile_lowered, ← Plan.compile_lowered, same]
  rw [Traced.lowered, Traced.lowered] at results
  cases one : (Plan.compile config model query).result with
  | error error =>
    cases two : (Plan.compile config model other).result with
    | error error' =>
      rw [one, two] at results
      exact Or.inr ⟨error, error', rfl, rfl, Except.error.inj results⟩
    | ok plan => simp [one, two, Except.mapError] at results
  | ok plan =>
    cases two : (Plan.compile config model other).result with
    | error error => simp [one, two, Except.mapError] at results
    | ok plan' =>
      rw [one, two] at results
      cases results
      exact Or.inl ⟨plan, rfl, rfl⟩

/-- Mappings by which users have a `town`, and orders a `cost`. -/
def everydayNames : Config Sample.Model where
  mappings :=
    [ (.user, { aliases := [("town", ⟨"ADDRESS.city", some fun raw => .ok (.text raw)⟩)] }),
      (.order, { aliases := [("cost", ⟨"Total", none⟩)], filterIgnored := ["placed"] }) ]

/-- A query that names fields, aliases of its model and of others, and a field that is passed
over. -/
def plainQuery : Query where
  filter := "manager.town=='Oslo' and orders*(cost>5 or placed==null)"
  orderBy := "-manager.name"

/-- The same query in another case of its letters. -/
def loudQuery : Query where
  filter := "MANAGER.Town=='Oslo' AND Orders*(COST>5 or Placed==NULL)"
  orderBy := "-Manager.NAME"

/-- Both queries come to one plan. -/
theorem loud_and_plain_compile_alike :
    loudQuery.lowered = plainQuery.lowered ∧
      ∃ plan, (Plan.compile everydayNames .user loudQuery).result = .ok plan ∧
        (Plan.compile everydayNames .user plainQuery).result = .ok plan := by
  have same : loudQuery.lowered = plainQuery.lowered := by decide +kernel
  have compiled : (Plan.compile everydayNames .user loudQuery).result.isOk = true := by
    decide +kernel
  refine ⟨same, ?_⟩
  rcases compile_ignores_case_of_names everydayNames .user loudQuery plainQuery same with
    alike | ⟨error, _, failed, _⟩
  · exact alike
  · rw [failed] at compiled
    cases compiled

end ListQuery
