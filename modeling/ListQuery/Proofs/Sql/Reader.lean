import Mathlib.Tactic.SplitIfs
import ListQuery.Sql.Written
import ListQuery.Proofs.Number.Digits

/-! A reader of statements. It goes over a text character by character and knows of quotes, numerals
and keywords: what stands between double quotes is an identifier, and so is every word without
quotes that is no keyword. Names and constants are read as they are meant, whatever they hold. But
floats that are no number or infinite are written as words, so the reader takes them for
identifiers. -/

namespace ListQuery.Sql

/-- An identifier of a statement, as its text has it. -/
inductive Identifier where
  /-- A name between double quotes. -/
  | quoted (name : String)
  /-- A word without quotes that is no word of the language. -/
  | bare (word : String)
deriving DecidableEq

/-- The word without quotes that a constant is written as, unless it is one of the language. -/
def bareWord? : Scalar → Option String
  | .float x => if x.isNaN then some "NaN" else if x.isInfinite then some "inf" else none
  | _ => none

theorem bareWord?_float_eq_none_iff {x : Binary64} :
    bareWord? (.float x) = none ↔ x.isNaN = false ∧ x.isInfinite = false := by
  cases number : x.isNaN <;> cases finite : x.isInfinite <;> simp [bareWord?, number, finite]

theorem bareWord?_eq_some {scalar : Scalar} {word : String}
    (written : bareWord? scalar = some word) :
    (∃ x, scalar = .float x) ∧ (word = "NaN" ∨ word = "inf") := by
  cases scalar with
  | float x =>
    refine ⟨⟨x, rfl⟩, ?_⟩
    rw [bareWord?] at written
    split_ifs at written
    · exact Or.inl (Option.some.inj written).symm
    · exact Or.inr (Option.some.inj written).symm
  | _ => cases written

/-- The keywords of statements, and the functions that they call. -/
def keywords : List String :=
  ["SELECT", "COUNT", "FROM", "AS", "WHERE", "ORDER", "BY", "ASC", "DESC", "LIMIT", "OFFSET",
    "EXISTS", "LOWER", "COALESCE", "NOT", "AND", "OR", "IS", "NULL", "IN", "LIKE", "ESCAPE", "TRUE",
    "FALSE"]

/-- Whether a word is a keyword, in any case. -/
def isKeyword (word : List Char) : Bool :=
  keywords.any fun keyword => keyword.toList == word.map Char.toUpper

/-- What begins a word. All characters beyond ASCII do. -/
def isLetter (c : Char) : Bool :=
  c.isAlpha || c = '_' || 128 ≤ c.toNat

/-- Where a reader of a statement is. A doubled quote stands for one, and a backslash takes the next
character with it in constants that are marked with an E, and in no others. The reader knows of no
comments and of no other marks before a quote. -/
inductive Mode where
  /-- Between words, outside of quotes. -/
  | blank
  /-- In a word without quotes, with its characters so far, the latest first. -/
  | word (read : List Char)
  /-- In a numeral, which may have a point and an exponent. -/
  | numeral
  /-- In a name, with its characters so far, the latest first. -/
  | name (read : List Char)
  /-- After a quote in a name. The name ends here, if the quote is not doubled. -/
  | nameEnd (read : List Char)
  | text (escapes : Bool)
  /-- After a quote in a constant, which ends here, if the quote is not doubled. -/
  | textEnd (escapes : Bool)
  /-- After a backslash in a constant with escapes. -/
  | escape
deriving DecidableEq

namespace Mode

/-- Goes on behind whatever has ended. -/
def outside (c : Char) : Mode :=
  if c = '"' then name []
  else if c = '\'' then text false
  else if c.isDigit then numeral
  else if isLetter c then word [c]
  else blank

/-- The identifier that there is, if the text ends here. -/
def ended : Mode → List Identifier
  | word read => if isKeyword read.reverse then [] else [.bare (String.ofList read.reverse)]
  | nameEnd read => [.quoted (String.ofList read.reverse)]
  | _ => []

/-- Reads one character: the identifier that ends before it, and where the reader is then. -/
def step : Mode → Char → List Identifier × Mode
  | blank, c => ([], outside c)
  | word read, c =>
    if isLetter c || c.isDigit || c = '$' then ([], word (c :: read))
    -- A quote behind a lone E opens a constant with escapes, and the E is no word.
    else if c = '\'' && (read = ['E'] || read = ['e']) then ([], text true)
    else ((word read).ended, outside c)
  | numeral, c => ([], if isLetter c || c.isDigit || c = '.' then numeral else outside c)
  | name read, c => ([], if c = '"' then nameEnd read else name (c :: read))
  | nameEnd read, c =>
    if c = '"' then ([], name (c :: read)) else ((nameEnd read).ended, outside c)
  | text escapes, c =>
    ([], if c = '\'' then textEnd escapes else if escapes && c = '\\' then escape else text escapes)
  | textEnd escapes, c => ([], if c = '\'' then text escapes else outside c)
  | escape, _ => ([], text true)

/-- Reads characters: the identifiers that end on the way, and where the reader is then. -/
def read : Mode → List Char → List Identifier × Mode
  | mode, [] => ([], mode)
  | mode, c :: rest =>
    let (here, next) := mode.step c
    let (later, last) := next.read rest
    (here ++ later, last)

/-- Whether nothing is open that a stop does not end. -/
def isClosed : Mode → Bool
  | blank | word _ | numeral | nameEnd _ | textEnd _ => true
  | name _ | text _ | escape => false

end Mode

/-- The identifiers that a reader of a text finds. -/
def identifiers (text : String) : List Identifier :=
  let (found, last) := Mode.blank.read text.toList
  found ++ last.ended

/-- A character of a constant is escaped, or it is neither a backslash nor a quote. -/
theorem escapedChar_cases (c : Char) :
    (∃ d, escapedChar c = ['\\', d]) ∨ (escapedChar c = [c] ∧ c ≠ '\\' ∧ c ≠ '\'') := by
  by_cases marked : c = '\\' || c = '"' || c = '\''
  · exact Or.inl ⟨c, if_pos marked⟩
  · by_cases kept : escapedChar c = [c]
    · refine Or.inr ⟨kept, ?_, ?_⟩ <;> rintro rfl <;> exact marked rfl
    · refine Or.inl ?_
      unfold escapedChar at kept ⊢
      split_ifs at kept ⊢ <;> first | exact ⟨_, rfl⟩ | exact absurd rfl kept

/-- A character that belongs to no word, numeral, name or constant. -/
def isStop (c : Char) : Bool :=
  [' ', ',', ')'].contains c

theorem eq_of_isStop {c : Char} (stop : isStop c = true) : c = ' ' ∨ c = ',' ∨ c = ')' := by
  simpa [isStop] using stop

/-- A text begins with a stop. -/
def Apart : List Char → Prop
  | [] => False
  | c :: _ => isStop c = true

instance : (text : List Char) → Decidable (Apart text)
  | [] => inferInstanceAs (Decidable False)
  | c :: _ => inferInstanceAs (Decidable (isStop c = true))

theorem Apart.append {first : List Char} (apart : Apart first) (second : List Char) :
    Apart (first ++ second) := by
  cases first with
  | nil => exact apart.elim
  | cons c rest => exact apart

namespace Mode

variable {mode between last : Mode} {first second : List Char} {found later : List Identifier}

theorem read_cons (mode : Mode) (c : Char) (rest : List Char) :
    mode.read (c :: rest) =
      ((mode.step c).1 ++ ((mode.step c).2.read rest).1, ((mode.step c).2.read rest).2) :=
  rfl

/-- Texts one behind the other are read one after the other. -/
theorem read_append (one : mode.read first = (found, between))
    (other : between.read second = (later, last)) :
    mode.read (first ++ second) = (found ++ later, last) := by
  induction first generalizing mode found with
  | nil =>
    cases one
    exact other
  | cons c rest ih =>
    rw [read_cons] at one
    obtain ⟨rfl, rfl⟩ := Prod.mk.inj one
    rw [List.cons_append, read_cons, ih rfl, List.append_assoc]

/-- A stop ends what is being read. -/
theorem step_stop {c : Char} (closed : mode.isClosed = true) (stop : isStop c = true) :
    mode.step c = (mode.ended, blank) := by
  rcases eq_of_isStop stop with rfl | rfl | rfl <;> cases mode <;> first | rfl | cases closed

/-- Behind what a stop ends, a text that begins with one is read as on its own. -/
theorem read_apart (closed : mode.isClosed = true) (apart : Apart second) :
    mode.read second = (mode.ended ++ (blank.read second).1, (blank.read second).2) := by
  cases second with
  | nil => exact apart.elim
  | cons c rest =>
    rw [read_cons, read_cons, step_stop closed apart, step_stop rfl apart]
    rfl

/-- The characters of a name are read as they are meant. -/
theorem read_nameBody (held read : List Char) :
    (name read).read (held.flatMap fun c => if c = '"' then ['"', '"'] else [c]) =
      ([], name (held.reverse ++ read)) := by
  induction held generalizing read with
  | nil => rfl
  | cons c held ih =>
    have here : (name read).read (if c = '"' then ['"', '"'] else [c]) =
        ([], name (c :: read)) := by
      by_cases quote : c = '"'
      · subst quote
        rfl
      · rw [if_neg quote, read_cons, step, if_neg quote]
        rfl
    rw [List.flatMap_cons, List.reverse_cons, List.append_assoc]
    exact read_append here (ih (c :: read))

theorem step_text {escapes : Bool} {c : Char} (noQuote : c ≠ '\'')
    (noEscape : escapes = true → c ≠ '\\') : (text escapes).step c = ([], text escapes) := by
  rw [step, if_neg noQuote, if_neg fun escape => ?_]
  obtain ⟨marked, backslash⟩ := Bool.and_eq_true_iff.mp escape
  exact noEscape marked (of_decide_eq_true backslash)

/-- With escapes no character of a constant ends it. -/
theorem read_escaped (held : List Char) :
    (text true).read (held.flatMap escapedChar) = ([], text true) := by
  induction held with
  | nil => rfl
  | cons c held ih =>
    have here : (text true).read (escapedChar c) = ([], text true) := by
      rcases escapedChar_cases c with ⟨d, escaped⟩ | ⟨kept, noEscape, noQuote⟩
      · rw [escaped]
        rfl
      · rw [kept, read_cons, step_text noQuote fun _ => noEscape]
        rfl
    exact read_append here ih

/-- Without escapes a constant holds no quote of its own, and none ends it. -/
theorem read_plain {held : List Char} (noQuote : '\'' ∉ held) :
    (text false).read held = ([], text false) := by
  induction held with
  | nil => rfl
  | cons c held ih =>
    obtain ⟨here, later⟩ := not_or.mp (mt List.mem_cons.mpr noQuote)
    rw [read_cons, step_text (Ne.symm here) (fun escapes : false = true => nomatch escapes),
      ih later]
    rfl

/-- A name is open for another quote at its end. -/
theorem read_identifier (held : String) :
    blank.read (identifier held).toList = ([], nameEnd held.toList.reverse) := by
  have body := read_nameBody held.toList []
  rw [List.append_nil] at body
  have opened : blank.read ['"'] = ([], name []) := rfl
  have ends : (name held.toList.reverse).read ['"'] = ([], nameEnd held.toList.reverse) := rfl
  rw [identifier, String.toList_ofList]
  exact read_append opened (read_append body ends)

theorem ended_nameEnd (held : String) :
    (nameEnd held.toList.reverse).ended = [.quoted held] := by
  rw [ended, List.reverse_reverse, String.ofList_toList]

/-- A constant between single quotes holds no identifier. -/
theorem read_textConstant (held : String) :
    ∃ escapes, blank.read (textConstant held).toList = ([], textEnd escapes) := by
  have closes (escapes : Bool) : (text escapes).read ['\''] = ([], textEnd escapes) := rfl
  rw [textConstant, String.toList_append, String.toList_append, String.toList_ofList]
  split
  · have opened : blank.read "E'".toList = ([], text true) := rfl
    exact ⟨true, read_append (read_append opened (read_escaped held.toList)) (closes true)⟩
  · rename_i unmarked
    have noQuote : '\'' ∉ held.toList.flatMap escapedChar := by
      intro among
      obtain ⟨c, member, escaped⟩ := List.mem_flatMap.mp among
      refine unmarked (List.contains_iff_mem.mpr (List.mem_flatMap.mpr ⟨c, member, ?_⟩))
      rcases escapedChar_cases c with ⟨d, same⟩ | ⟨same, -, other⟩
      · rw [same]
        exact List.mem_cons_self
      · rw [same] at escaped
        exact absurd (List.mem_singleton.mp escaped).symm other
    have opened : blank.read "'".toList = ([], text false) := rfl
    exact ⟨false, read_append (read_append opened (read_plain noQuote)) (closes false)⟩

end Mode

/-! ### Numerals -/

/-- The characters of numbers: digits, points and signs. -/
def isNumeric (c : Char) : Bool :=
  c.isDigit || c = '.' || c = '-'

theorem cases_of_isNumeric {c : Char} (numeric : isNumeric c = true) :
    c.isDigit = true ∨ c = '.' ∨ c = '-' := by
  simpa [isNumeric, or_assoc] using numeric

/-- A text as numbers have them. -/
def Numeric (text : String) : Prop :=
  ∀ c ∈ text.toList, isNumeric c = true

-- Only the characters of the text are gone through, not all that there are.
instance (text : String) : Decidable (Numeric text) :=
  List.decidableBAll (fun c => isNumeric c = true) text.toList

theorem Numeric.append {first second : String} (one : Numeric first) (other : Numeric second) :
    Numeric (first ++ second) := by
  intro c among
  rw [String.toList_append] at among
  exact (List.mem_append.mp among).elim (one c) (other c)

theorem numeric_ofList {digits : List Char} (each : ∀ c ∈ digits, c.isDigit = true) :
    Numeric (String.ofList digits) := by
  intro c among
  rw [String.toList_ofList] at among
  rw [isNumeric, each c among]
  rfl

theorem numeric_nat (n : Nat) : Numeric (toString n) := by
  rw [Nat.toString_eq_ofList_toDigits]
  exact numeric_ofList fun c => Numeral.isDigit_of_mem_toDigits

theorem numeric_int (i : Int) : Numeric (toString i) := by
  cases i with
  | ofNat n => exact numeric_nat n
  | negSucc n => exact Numeric.append (by decide) (numeric_nat (n + 1))

open Binary64 (pointed unsigned)

theorem numeric_pointed {digits : List Char} (each : ∀ c ∈ digits, c.isDigit = true)
    (whole : Int) : Numeric (pointed digits whole false) := by
  have zeros (n : Nat) : ∀ c ∈ List.replicate n '0', c.isDigit = true :=
    fun c => Numeral.isDigit_of_mem_zeros
  simp only [pointed]
  split
  · exact Numeric.append (by decide)
      (numeric_ofList (List.forall_mem_append.mpr ⟨zeros _, each⟩))
  · split
    · exact (numeric_ofList (List.forall_mem_append.mpr ⟨each, zeros _⟩)).append (by decide)
    · exact ((numeric_ofList fun c among => each c (List.mem_of_mem_take among)).append
        (by decide)).append (numeric_ofList fun c among => each c (List.mem_of_mem_drop among))

theorem numeric_unsigned (x : Binary64) : Numeric (unsigned .plain x) := by
  unfold unsigned
  split
  · decide
  · exact numeric_pointed (fun c => Numeral.isDigit_of_mem_toDigits) _

/-- A finite number has digits alone, with a point and a sign. -/
theorem numeric_float {x : Binary64} (number : x.isNaN = false) (finite : x.isInfinite = false) :
    Numeric (x.written .plain) := by
  have sign : Numeric (if x.negative then "-" else "") := by
    split <;> decide
  rw [Binary64.written, number, finite]
  exact sign.append (numeric_unsigned x)

namespace Mode

theorem outside_digit {c : Char} (digit : c.isDigit = true) : outside c = numeral := by
  have noName : c ≠ '"' := by
    rintro rfl
    cases digit
  have noText : c ≠ '\'' := by
    rintro rfl
    cases digit
  rw [outside, if_neg noName, if_neg noText, if_pos digit]

/-- The characters of numbers lead to numerals, and to nothing else. -/
theorem step_numeric {mode : Mode} {c : Char} (numeric : isNumeric c = true)
    (inNumber : mode = blank ∨ mode = numeral) :
    ∃ next, (next = blank ∨ next = numeral) ∧ mode.step c = ([], next) := by
  rcases cases_of_isNumeric numeric with digit | rfl | rfl
  · refine ⟨numeral, Or.inr rfl, ?_⟩
    rcases inNumber with rfl | rfl
    · rw [step, outside_digit digit]
    · simp [step, digit]
  · rcases inNumber with rfl | rfl
    · exact ⟨blank, Or.inl rfl, rfl⟩
    · exact ⟨numeral, Or.inr rfl, rfl⟩
  · rcases inNumber with rfl | rfl <;> exact ⟨blank, Or.inl rfl, rfl⟩

/-- A number holds no word. -/
theorem read_numeric {mode : Mode} {text : List Char} (numeric : ∀ c ∈ text, isNumeric c = true)
    (inNumber : mode = blank ∨ mode = numeral) :
    ∃ last, (last = blank ∨ last = numeral) ∧ mode.read text = ([], last) := by
  induction text generalizing mode with
  | nil => exact ⟨mode, inNumber, rfl⟩
  | cons c rest ih =>
    obtain ⟨here, others⟩ := List.forall_mem_cons.mp numeric
    obtain ⟨next, stays, stepped⟩ := step_numeric here inNumber
    obtain ⟨last, ends, follows⟩ := ih others stays
    refine ⟨last, ends, ?_⟩
    rw [read_cons, stepped, follows]
    rfl

end Mode

/-! ### Texts of statements -/

/-- A text on its own is read as certain identifiers, and nothing is open at its end. -/
structure ReadsAs (text : List Char) (found : List Identifier) : Prop where
  closed : (Mode.blank.read text).2.isClosed = true
  found : (Mode.blank.read text).1 ++ (Mode.blank.read text).2.ended = found

instance (text : List Char) (found : List Identifier) : Decidable (ReadsAs text found) :=
  decidable_of_iff ((Mode.blank.read text).2.isClosed = true ∧
      (Mode.blank.read text).1 ++ (Mode.blank.read text).2.ended = found)
    ⟨fun both => ⟨both.1, both.2⟩, fun reads => ⟨reads.closed, reads.found⟩⟩

theorem readsAs_of_read {text : List Char} {found : List Identifier} {last : Mode}
    (read : Mode.blank.read text = (found, last)) (closed : last.isClosed = true) :
    ReadsAs text (found ++ last.ended) := by
  constructor
  · rw [read]
    exact closed
  · rw [read]

section Texts
variable {first second : List Char} {found later : List Identifier}

/-- A text that begins with a stop is read behind another as on its own. -/
theorem ReadsAs.append (one : ReadsAs first found) (other : ReadsAs second later)
    (apart : Apart second) : ReadsAs (first ++ second) (found ++ later) := by
  have reads : Mode.blank.read (first ++ second) = _ :=
    Mode.read_append rfl (Mode.read_apart one.closed apart)
  have joined := readsAs_of_read reads other.closed
  rwa [List.append_assoc, List.append_assoc, other.found, ← List.append_assoc, one.found]
    at joined

/-- A text behind words that lead to its beginning. -/
theorem ReadsAs.behind (other : ReadsAs second later)
    (opens : Mode.blank.read first = ([], .blank)) : ReadsAs (first ++ second) later := by
  have reads : Mode.blank.read (first ++ second) = _ := Mode.read_append opens rfl
  have joined := readsAs_of_read reads other.closed
  rwa [List.nil_append, other.found] at joined

end Texts

theorem readsAs_textConstant (held : String) : ReadsAs (textConstant held).toList [] := by
  obtain ⟨escapes, read⟩ := Mode.read_textConstant held
  exact readsAs_of_read read rfl

theorem readsAs_numeric {text : String} (numeric : Numeric text) : ReadsAs text.toList [] := by
  obtain ⟨last, ends, read⟩ := Mode.read_numeric numeric (Or.inl rfl)
  rcases ends with rfl | rfl <;> exact readsAs_of_read read rfl

/-- A float is a number or a word, and the word is the same with either sign. -/
theorem readsAs_float (x : Binary64) :
    ReadsAs (x.written .plain).toList ((bareWord? (.float x)).map Identifier.bare).toList := by
  cases number : x.isNaN with
  | true =>
    have word : bareWord? (.float x) = some "NaN" := if_pos number
    rw [word, Binary64.written, if_pos number]
    exact ⟨rfl, rfl⟩
  | false =>
    cases finite : x.isInfinite with
    | true =>
      have word : bareWord? (.float x) = some "inf" := by
        simp [bareWord?, number, finite]
      have signed : x.written .plain = (if x.negative then "-" else "") ++ "inf" := by
        simp [Binary64.written, number, finite]
      rw [word, signed]
      cases x.negative <;> exact ⟨rfl, rfl⟩
    | false =>
      rw [bareWord?_float_eq_none_iff.mpr ⟨number, finite⟩]
      exact readsAs_numeric (numeric_float number finite)

/-- A constant holds no identifier, unless it is a float that is no number or infinite. -/
theorem readsAs_constant (scalar : Scalar) :
    ReadsAs (constant scalar).toList ((bareWord? scalar).map Identifier.bare).toList := by
  cases scalar with
  | text held => exact readsAs_textConstant held
  | instant i => exact readsAs_textConstant i.rfc3339
  | null => exact ⟨rfl, rfl⟩
  | bool b => cases b <;> exact ⟨rfl, rfl⟩
  | int i => exact readsAs_numeric (numeric_int i.toInt)
  | float x => exact readsAs_float x

theorem readsAs_identifier (held : String) : ReadsAs (identifier held).toList [.quoted held] := by
  have reads := readsAs_of_read (Mode.read_identifier held) rfl
  rwa [Mode.ended_nameEnd] at reads

/-- A column of a table. Unlike a stop, a point ends no more than the table's name. -/
theorem readsAs_column (table column : String) :
    ReadsAs ((identifier table).toList ++ (".".toList ++ (identifier column).toList))
      [.quoted table, .quoted column] := by
  have point : (Mode.nameEnd table.toList.reverse).read ".".toList =
      ([.quoted table], .blank) := by
    rw [← Mode.ended_nameEnd table]
    rfl
  have reads := readsAs_of_read (Mode.read_append (Mode.read_identifier table)
    (Mode.read_append point (Mode.read_identifier column))) rfl
  rwa [Mode.ended_nameEnd] at reads

end ListQuery.Sql
