import ListQuery.OrderBy

/-! Order-by texts written out and read again. A property between quotes, its own quotes doubled, is
not cut wherever it holds a comma, and neither blanks nor a minus sign in it are taken away. So
entries written with commas between them are the entries that are read, with any blanks around them
and with blank pieces among them. -/

namespace ListQuery.OrderBy

/-! ### Pieces -/

theorem unquote_opened (rest : List Char) :
    unquote ('\'' :: rest) = Text.undoubleQuotes
      (if rest.getLast? = some '\'' then rest.dropLast else '\'' :: rest) :=
  rfl

theorem unquote_other {c : Char} (other : c ≠ '\'') (rest : List Char) :
    unquote (c :: rest) = Text.undoubleQuotes (c :: rest) := by
  rw [unquote]
  rintro _ ⟨⟩
  exact other rfl

/-- The entry of a property, unless that is no text. -/
def named (ascending : Bool) (property : List Char) : Option Entry :=
  if property.isEmpty then none else some ⟨String.ofList property, ascending⟩

theorem entry?_minus {piece rest : List Char} (cut : Text.trim piece = '-' :: rest) :
    entry? piece = named false (unquote (Text.trimStart rest)) := by
  unfold entry?
  rw [cut]
  rfl

theorem entry?_plain {piece : List Char} (plain : ∀ rest, Text.trim piece ≠ '-' :: rest) :
    entry? piece = named true (unquote (Text.trim piece)) := by
  unfold entry?
  split
  rename_i cut
  split at cut
  · rename_i minus
    exact absurd minus (plain _)
  · cases cut
    rfl

/-! ### Texts that are not cut -/

/-- Read outside of quotes or inside, a text is not cut, and it leaves what follows to be read
outside or inside. -/
def Uncut (quoted : Bool) (text : List Char) (quoted' : Bool) : Prop :=
  ∀ rest, pieces quoted (text ++ rest) = (pieces quoted' rest).modifyHead (text ++ ·)

theorem pieces_ne_nil (quoted : Bool) (text : List Char) : pieces quoted text ≠ [] := by
  cases text with
  | nil => exact nofun
  | cons c rest =>
    rw [pieces]
    split
    · exact nofun
    · split <;> exact nofun

section Uncut

variable {quoted middle quoted' : Bool} {text later : List Char}

theorem uncut_nil (quoted : Bool) : Uncut quoted [] quoted := by
  intro rest
  rw [List.nil_append]
  cases pieces quoted rest <;> rfl

theorem Uncut.append (first : Uncut quoted text middle) (second : Uncut middle later quoted') :
    Uncut quoted (text ++ later) quoted' := by
  intro rest
  rw [List.append_assoc, first, second, List.modifyHead_modifyHead]
  simp only [Function.comp_def, List.append_assoc]

/-- A comma cuts outside of quotes. No other character does. -/
theorem uncut_cons {c : Char} (inside : c = ',' → quoted = true)
    (uncut : Uncut (if c = '\'' then !quoted else quoted) text quoted') :
    Uncut quoted (c :: text) quoted' := by
  intro rest
  have cuts : (c = ',' && !quoted) = false := by
    by_cases comma : c = ','
    · simp [inside comma]
    · simp [comma]
  rw [List.cons_append, pieces, uncut rest]
  cases cut : pieces quoted' rest with
  | nil => exact absurd cut (pieces_ne_nil quoted' rest)
  | cons first more => simp [cuts]

theorem uncut_blanks {blanks : List Char} (blank : Text.allBlank blanks = true) (quoted : Bool) :
    Uncut quoted blanks quoted := by
  induction blanks with
  | nil => exact uncut_nil quoted
  | cons c rest ih =>
    obtain ⟨first, others⟩ := Bool.and_eq_true_iff.mp blank
    have other : c ≠ '\'' := by rintro rfl; cases first
    refine uncut_cons (by rintro rfl; cases first) ?_
    rw [if_neg other]
    exact ih others

theorem uncut_doubleQuotes (text : List Char) : Uncut true (Text.doubleQuotes text) true := by
  induction text with
  | nil => exact uncut_nil true
  | cons c rest ih =>
    rw [Text.doubleQuotes]
    split
    · exact uncut_cons (fun _ => rfl) (uncut_cons (by decide) ih)
    · rename_i other
      refine uncut_cons (fun _ => rfl) ?_
      rw [if_neg other]
      exact ih

end Uncut

theorem pieces_comma (rest : List Char) :
    pieces false (',' :: rest) = [] :: pieces false rest := by
  rw [pieces]
  cases cut : pieces false rest with
  | nil => exact absurd cut (pieces_ne_nil false rest)
  | cons first more => simp [cut]

/-- Texts that are not cut are found again between commas. -/
theorem pieces_intercalate {parts : List (List Char)}
    (uncut : ∀ part ∈ parts, Uncut false part false) (nonempty : parts ≠ []) :
    pieces false ([','].intercalate parts) = parts := by
  induction parts with
  | nil => contradiction
  | cons part parts ih =>
    obtain ⟨first, others⟩ := List.forall_mem_cons.mp uncut
    cases parts with
    | nil =>
      have whole := first []
      rw [List.append_nil] at whole
      rw [List.intercalate_singleton, whole, pieces, List.modifyHead_cons, List.append_nil]
    | cons next more =>
      rw [List.intercalate_cons_cons, List.append_assoc, first, List.singleton_append,
        pieces_comma, ih others nofun, List.modifyHead_cons, List.append_nil]

/-! ### Entries -/

/-- An entry as a text: its property between quotes, its own quotes doubled, behind a minus sign if
it falls. Around it and behind the sign stands what is given. -/
def Entry.written (entry : Entry) (before gap after : List Char) : List Char :=
  before ++ ((if entry.ascending then [] else '-' :: gap) ++ (Text.quoted entry.property).toList) ++
    after

/-- Pieces of an order-by text that are entries, with any blanks where an entry leaves room, or
blank. -/
inductive Spells : List (List Char) → List Entry → Prop where
  | nil : Spells [] []
  | blank {blanks : List Char} (blank : Text.allBlank blanks = true) {pieces : List (List Char)}
      {entries : List Entry} (rest : Spells pieces entries) : Spells (blanks :: pieces) entries
  | entry {entry : Entry} (nonempty : entry.property ≠ "") {before gap after : List Char}
      (blankBefore : Text.allBlank before = true) (blankGap : Text.allBlank gap = true)
      (blankAfter : Text.allBlank after = true) {pieces : List (List Char)} {entries : List Entry}
      (rest : Spells pieces entries) :
      Spells (entry.written before gap after :: pieces) (entry :: entries)

section Written

variable {entry : Entry} {before gap after : List Char}

theorem toList_quoted (property : String) :
    (Text.quoted property).toList = '\'' :: (Text.doubleQuotes property.toList ++ ['\'']) := by
  simp [Text.quoted]

theorem uncut_written (blankBefore : Text.allBlank before = true)
    (blankGap : Text.allBlank gap = true) (blankAfter : Text.allBlank after = true) :
    Uncut false (entry.written before gap after) false := by
  have quoted : Uncut false (Text.quoted entry.property).toList false := by
    rw [toList_quoted]
    have closing : Uncut true ['\''] false := uncut_cons nofun (uncut_nil false)
    exact uncut_cons nofun ((uncut_doubleQuotes _).append closing)
  have sign : Uncut false (if entry.ascending then [] else '-' :: gap) false := by
    split
    · exact uncut_nil false
    · exact uncut_cons nofun (uncut_blanks blankGap false)
  exact ((uncut_blanks blankBefore false).append (sign.append quoted)).append
    (uncut_blanks blankAfter false)

theorem trimStart_append (blank : Text.allBlank before = true) (text : List Char) :
    Text.trimStart (before ++ text) = Text.trimStart text :=
  List.dropWhile_append_of_pos (List.all_eq_true.mp blank)

theorem trimEnd_append {d : Char} {text : List Char} (last : Text.isBlank d = false)
    (ends : text.getLast? = some d) (blank : Text.allBlank after = true) :
    Text.trimEnd (text ++ after) = text := by
  obtain ⟨front, rfl⟩ := List.getLast?_eq_some_iff.mp ends
  have behind : ∀ c ∈ after.reverse, Text.isBlank c = true := fun c among =>
    List.all_eq_true.mp blank c (List.mem_reverse.mp among)
  rw [Text.trimEnd, List.reverse_append, List.dropWhile_append_of_pos behind,
    List.reverse_append, List.reverse_singleton, List.singleton_append,
    List.dropWhile_cons_of_neg (by simp [last]), List.reverse_cons, List.reverse_reverse]

/-- Trimming takes away the blanks around a text, and no more if the text begins and ends with other
characters. -/
theorem trim_append_append {c d : Char} {text : List Char} (first : Text.isBlank c = false)
    (last : Text.isBlank d = false) (ends : (c :: text).getLast? = some d)
    (blankBefore : Text.allBlank before = true) (blankAfter : Text.allBlank after = true) :
    Text.trim (before ++ (c :: text) ++ after) = c :: text := by
  have start : Text.trimStart (c :: (text ++ after)) = c :: (text ++ after) :=
    List.dropWhile_cons_of_neg (by simp [first])
  rw [Text.trim, List.append_assoc, trimStart_append blankBefore, List.cons_append, start,
    ← List.cons_append, trimEnd_append last ends blankAfter]

theorem unquote_quoted (property : String) :
    unquote (Text.quoted property).toList = property.toList := by
  rw [toList_quoted, unquote_opened, List.getLast?_concat, if_pos rfl, List.dropLast_concat,
    Text.undoubleQuotes_doubleQuotes]

theorem named_toList {property : String} (nonempty : property ≠ "") (ascending : Bool) :
    named ascending property.toList = some ⟨property, ascending⟩ := by
  have some : property.toList.isEmpty = false :=
    List.isEmpty_eq_false_iff.mpr (mt String.toList_eq_nil_iff.mp nonempty)
  simp [named, some]

theorem entry?_written (nonempty : entry.property ≠ "") (blankBefore : Text.allBlank before = true)
    (blankGap : Text.allBlank gap = true) (blankAfter : Text.allBlank after = true) :
    entry? (entry.written before gap after) = some entry := by
  obtain ⟨property, ascending⟩ := entry
  have ends (sign : List Char) :
      (sign ++ (Text.quoted property).toList).getLast? = some '\'' := by
    rw [toList_quoted, ← List.cons_append, ← List.append_assoc, List.getLast?_concat]
  have start : Text.trimStart (Text.quoted property).toList = (Text.quoted property).toList := by
    rw [toList_quoted]
    rfl
  cases ascending with
  | true =>
    have cut : Text.trim (Entry.written ⟨property, true⟩ before gap after) =
        (Text.quoted property).toList := by
      have last := ends []
      rw [List.nil_append, toList_quoted] at last
      rw [Entry.written, if_pos rfl, List.nil_append, toList_quoted]
      exact trim_append_append rfl rfl last blankBefore blankAfter
    have plain : ∀ rest, Text.trim (Entry.written ⟨property, true⟩ before gap after) ≠
        '-' :: rest := by
      rw [cut, toList_quoted]
      exact nofun
    rw [entry?_plain plain, cut, unquote_quoted]
    exact named_toList nonempty true
  | false =>
    have cut : Text.trim (Entry.written ⟨property, false⟩ before gap after) =
        '-' :: (gap ++ (Text.quoted property).toList) :=
      trim_append_append rfl rfl (ends ('-' :: gap)) blankBefore blankAfter
    rw [entry?_minus cut, trimStart_append blankGap, start, unquote_quoted]
    exact named_toList nonempty false

theorem entry?_blank {blanks : List Char} (blank : Text.allBlank blanks = true) :
    entry? blanks = none := by
  have cut : Text.trim blanks = [] := by
    have start := trimStart_append blank []
    rw [List.append_nil] at start
    rw [Text.trim, start]
    rfl
  rw [entry?_plain (by simp [cut]), cut]
  rfl

end Written

theorem Spells.uncut {pieces : List (List Char)} {entries : List Entry}
    (spells : Spells pieces entries) : ∀ piece ∈ pieces, Uncut false piece false := by
  induction spells with
  | nil => exact nofun
  | blank blank _ ih => exact List.forall_mem_cons.mpr ⟨uncut_blanks blank false, ih⟩
  | entry _ blankBefore blankGap blankAfter _ ih =>
    exact List.forall_mem_cons.mpr ⟨uncut_written blankBefore blankGap blankAfter, ih⟩

theorem Spells.filterMap_entry? {pieces : List (List Char)} {entries : List Entry}
    (spells : Spells pieces entries) : pieces.filterMap entry? = entries := by
  induction spells with
  | nil => rfl
  | blank blank _ ih => rw [List.filterMap_cons_none (entry?_blank blank), ih]
  | entry nonempty blankBefore blankGap blankAfter _ ih =>
    rw [List.filterMap_cons_some (entry?_written nonempty blankBefore blankGap blankAfter), ih]

/-- Entries that are written out are read again, in their order. -/
theorem written_entries_are_read_again {pieces : List (List Char)} {entries : List Entry}
    (spells : Spells pieces entries) :
    parse (String.ofList ([','].intercalate pieces)) = entries := by
  by_cases none : pieces = []
  · subst none
    cases spells
    rfl
  · rw [parse, String.toList_ofList, pieces_intercalate spells.uncut none]
    exact spells.filterMap_entry?

/-- Properties that hold what entries are cut and trimmed by. -/
def trickyEntries : List Entry :=
  [⟨"a,'-b", false⟩, ⟨" -'x' ", true⟩, ⟨"'", false⟩]

/-- They are read again, with blanks between and a blank piece among them. -/
theorem trickyEntries_are_read_again :
    (∃ pieces, Spells pieces trickyEntries ∧
      String.ofList ([','].intercalate pieces) = " - 'a,''-b',\t,' -''x'' ',-'''' ") ∧
    parse " - 'a,''-b',\t,' -''x'' ',-'''' " = trickyEntries := by
  have spells : Spells _ trickyEntries :=
    @Spells.entry _ (by decide) [' '] [' '] [] rfl rfl rfl _ _ <|
    @Spells.blank ['\t'] rfl _ _ <|
    @Spells.entry _ (by decide) [] [] [] rfl rfl rfl _ _ <|
    @Spells.entry _ (by decide) [] [] [' '] rfl rfl rfl _ _ .nil
  have text := written_entries_are_read_again spells
  exact ⟨⟨_, spells, by decide +kernel⟩, text⟩

end ListQuery.OrderBy
