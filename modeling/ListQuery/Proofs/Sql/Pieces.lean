import ListQuery.Proofs.Sql.Reader

/-! Statements in pieces. The text of a statement is put together from words of the language, names
between double quotes, constants and numbers. A reader finds in the text the identifiers of the
pieces and no others: whatever a name or a constant holds, it ends where it is closed. -/

namespace ListQuery.Sql

/-- A piece of a statement's text. -/
inductive Piece where
  /-- Words of the language, with the blanks and marks about them. -/
  | word (text : String)
  | name (identifier : String)
  /-- Texts and instants stand between single quotes, other constants as bare words and numerals. -/
  | constant (scalar : Scalar)
  | number (n : Nat)

namespace Piece

/-- The piece as text. -/
def written : Piece → String
  | word text => text
  | name held => identifier held
  | constant scalar => Sql.constant scalar
  | number n => toString n

/-- Pieces as one text. -/
def text (pieces : List Piece) : String :=
  String.join (pieces.map written)

/-- The identifier that a piece stands for. -/
def identifier? : Piece → Option Identifier
  | name held => some (.quoted held)
  | constant scalar => (bareWord? scalar).map .bare
  | _ => none

/-- The identifiers in pieces. -/
def identifiers (pieces : List Piece) : List Identifier :=
  pieces.filterMap identifier?

/-- Pieces with commas between them. -/
def separated (pieces : List (List Piece)) : List Piece :=
  [word ", "].intercalate pieces

/-- Parentheses, if asked for. -/
def enclosed (inside : Bool) (pieces : List Piece) : List Piece :=
  if inside then word "(" :: pieces ++ [word ")"] else pieces

@[simp] theorem text_nil : text [] = "" := rfl

@[simp] theorem text_cons (piece : Piece) (pieces : List Piece) :
    text (piece :: pieces) = piece.written ++ text pieces := by
  simp [text]

@[simp] theorem text_append (first second : List Piece) :
    text (first ++ second) = text first ++ text second := by
  simp [text]

theorem text_separated (pieces : List (List Piece)) :
    text (separated pieces) = ", ".intercalate (pieces.map text) := by
  induction pieces with
  | nil => rfl
  | cons first rest ih =>
    cases rest with
    | nil => simp [separated]
    | cons second rest =>
      simp_all [separated, List.intercalate, written, String.append_assoc]

/-- What lasts when pieces are joined by a comma holds of pieces with commas between them. -/
theorem separated_induction {holds : List Piece → Prop} {pieces : List (List Piece)}
    (nil : holds []) (each : ∀ part ∈ pieces, holds part)
    (join : ∀ first second, holds first → holds second → holds (first ++ word ", " :: second)) :
    holds (separated pieces) := by
  induction pieces with
  | nil => exact nil
  | cons part rest ih =>
    obtain ⟨here, later⟩ := List.forall_mem_cons.mp each
    cases rest with
    | nil => simpa [separated] using here
    | cons next rest => exact join _ _ here (ih later)

theorem text_enclosed (inside : Bool) (pieces : List Piece) :
    text (enclosed inside pieces) = Expr.enclosed inside (text pieces) := by
  cases inside <;> simp [enclosed, Expr.enclosed, written, String.append_assoc]

end Piece

/-- The pieces of a condition. -/
def Expr.pieces : Expr → List Piece
  | column depth name => [.name (aliasName depth), .word ".", .name name]
  | constant scalar => [.constant scalar]
  | lower value => .word "LOWER(" :: value.pieces ++ [.word ")"]
  | orFalse value => .word "COALESCE(" :: value.pieces ++ [.word ", FALSE)"]
  | compare comparison left right =>
    left.pieces ++ .word (" " ++ sign comparison ++ " ") :: right.pieces
  | isNull value => value.pieces ++ [.word " IS NULL"]
  | isNotNull value => value.pieces ++ [.word " IS NOT NULL"]
  | inList value constants =>
    value.pieces ++ .word " IN (" ::
      Piece.separated (constants.map fun scalar => [.constant scalar]) ++ [.word ")"]
  | like value pattern =>
    value.pieces ++ [.word " LIKE ", .constant (.text pattern), .word " ESCAPE E'\\\\'"]
  | and left right =>
    Piece.enclosed (left.isJoin && !left.isAnd) left.pieces
      ++ .word " AND " :: Piece.enclosed right.isJoin right.pieces
  | or left right =>
    Piece.enclosed (left.isJoin && !left.isOr) left.pieces
      ++ .word " OR " :: Piece.enclosed right.isJoin right.pieces
  | not value => .word "NOT " :: Piece.enclosed value.isJoin value.pieces
  | .exists table depth condition =>
    [.word "EXISTS(SELECT 1 FROM ", .name table, .word " AS ", .name (aliasName depth),
      .word " WHERE "] ++ condition.pieces ++ [.word ")"]

theorem Expr.written_eq_text (e : Expr) : e.written = Piece.text e.pieces := by
  induction e with
  | inList value constants ih =>
    unfold written
    simp [pieces, Piece.written, ih, Piece.text_separated, Function.comp_def, String.append_assoc]
  | _ =>
    unfold written
    simp_all [pieces, Piece.written, Piece.text_enclosed, tableAs, Sql.constant,
      String.append_assoc]

namespace Select

/-- The pieces of a column to order by. -/
def columnPieces (column : OrderColumn) : List Piece :=
  [.name (aliasName 0), .word ".", .name column.name,
    .word (if column.ascending then " ASC" else " DESC")]

/-- The pieces of the columns to order by. -/
def orderPieces (order : List OrderColumn) : List Piece :=
  if order.isEmpty then []
  else .word " ORDER BY " :: Piece.separated (order.map columnPieces)

/-- A bound behind its word, if there is one. -/
def boundPieces (words : String) : Option Nat → List Piece
  | some n => [.word words, .number n]
  | none => []

/-- The pieces of a selection. -/
def pieces (select : Select) : List Piece :=
  [.word "SELECT ", .word (match select.projection with | .rows => "*" | .count => "COUNT(*)"),
    .word " FROM ", .name select.table, .word " AS ", .name (aliasName 0)]
    ++ (match select.condition with | some c => .word " WHERE " :: c.pieces | none => [])
    ++ orderPieces select.order
    ++ boundPieces " LIMIT " select.limit ++ boundPieces " OFFSET " select.offset

theorem orderText_eq_text (order : List OrderColumn) :
    orderText order = Piece.text (orderPieces order) := by
  have column : Piece.text ∘ columnPieces = fun column =>
      identifier (aliasName 0) ++ "." ++ identifier column.name
        ++ if column.ascending then " ASC" else " DESC" := by
    funext column
    simp only [Function.comp_apply, columnPieces, Piece.text_cons, Piece.text_nil, Piece.written,
      String.append_empty, String.append_assoc]
  rw [orderText, orderPieces]
  split
  · rfl
  · rw [Piece.text_cons, Piece.text_separated, List.map_map, column]
    rfl

theorem written_eq_text (select : Select) : select.written = Piece.text select.pieces := by
  obtain ⟨projection, table, condition, order, limit, offset⟩ := select
  cases projection <;> cases condition <;> cases limit <;> cases offset <;>
    simp only [written, pieces, boundPieces, orderText_eq_text, Expr.written_eq_text,
      Piece.text_append, Piece.text_cons, Piece.text_nil, Piece.written, tableAs,
      String.append_empty, String.append_assoc]

end Select

/-! ### Pieces read back -/

namespace Piece

variable {first second : List Piece}

/-- The characters of pieces. -/
def chars (pieces : List Piece) : List Char :=
  pieces.flatMap fun piece => piece.written.toList

theorem toList_text (pieces : List Piece) : (text pieces).toList = chars pieces := by
  rw [text, String.toList_join, List.flatMap_map]
  rfl

theorem chars_append : chars (first ++ second) = chars first ++ chars second :=
  List.flatMap_append

theorem identifiers_append :
    identifiers (first ++ second) = identifiers first ++ identifiers second :=
  List.filterMap_append

/-- The text of pieces is read as their identifiers. -/
def Legible (pieces : List Piece) : Prop :=
  ReadsAs (chars pieces) (identifiers pieces)

theorem Legible.append (one : Legible first) (other : Legible second)
    (apart : Apart (chars second)) : Legible (first ++ second) := by
  rw [Legible, chars_append, identifiers_append]
  exact ReadsAs.append one other apart

theorem legible_piece {piece : Piece}
    (reads : ReadsAs piece.written.toList piece.identifier?.toList) : Legible [piece] := by
  have same : identifiers [piece] = piece.identifier?.toList := by
    cases named : piece.identifier? <;> simp [identifiers, named]
  rw [Legible, chars, List.flatMap_singleton, same]
  exact reads

/-- Words that keep pieces apart: a stop begins them, and the reader is outside of words and quotes
behind them. -/
structure Separates (words : String) : Prop where
  apart : Apart words.toList
  opens : Mode.blank.read words.toList = ([], .blank)

/-- Words that can stand behind pieces: a stop begins them, and no identifier is in them. -/
structure Trails (words : String) : Prop where
  apart : Apart words.toList
  reads : ReadsAs words.toList []

instance (words : String) : Decidable (Separates words) :=
  decidable_of_iff (Apart words.toList ∧ Mode.blank.read words.toList = ([], .blank))
    ⟨fun both => ⟨both.1, both.2⟩, fun separates => ⟨separates.apart, separates.opens⟩⟩

instance (words : String) : Decidable (Trails words) :=
  decidable_of_iff (Apart words.toList ∧ ReadsAs words.toList [])
    ⟨fun both => ⟨both.1, both.2⟩, fun trails => ⟨trails.apart, trails.reads⟩⟩

theorem apart_word {words : String} (apart : Apart words.toList) (rest : List Piece) :
    Apart (chars (word words :: rest)) := by
  rw [chars, List.flatMap_cons]
  exact apart.append _

/-- Words in front of pieces. -/
theorem Legible.word_cons {words : String} (other : Legible second)
    (opens : Mode.blank.read words.toList = ([], .blank)) : Legible (word words :: second) :=
  ReadsAs.behind other opens

/-- Words between pieces. -/
theorem Legible.between {words : String} (one : Legible first) (other : Legible second)
    (separates : Separates words) : Legible (first ++ word words :: second) :=
  one.append (other.word_cons separates.opens) (apart_word separates.apart second)

/-- Words behind pieces. -/
theorem Legible.before {words : String} (one : Legible first) (trails : Trails words) :
    Legible (first ++ [word words]) :=
  one.append (legible_piece trails.reads) (apart_word trails.apart [])

/-- Pieces that may follow others: none at all, or some behind words that separate them. -/
def Follows (pieces : List Piece) : Prop :=
  pieces = [] ∨ (Legible pieces ∧ Apart (chars pieces))

theorem Legible.follows {words : String} (other : Legible second) (separates : Separates words) :
    Follows (word words :: second) :=
  Or.inr ⟨other.word_cons separates.opens, apart_word separates.apart second⟩

theorem Legible.append_follows (one : Legible first) (follows : Follows second) :
    Legible (first ++ second) := by
  rcases follows with rfl | ⟨other, apart⟩
  · rwa [List.append_nil]
  · exact one.append other apart

theorem legible_name (held : String) : Legible [name held] :=
  legible_piece (readsAs_identifier held)

theorem legible_constant (scalar : Scalar) : Legible [constant scalar] :=
  legible_piece (readsAs_constant scalar)

theorem legible_number (n : Nat) : Legible [number n] :=
  legible_piece (readsAs_numeric (numeric_nat n))

theorem legible_column (table column : String) :
    Legible [name table, word ".", name column] := by
  have written : chars [name table, word ".", name column] =
      (identifier table).toList ++ (".".toList ++ (identifier column).toList) := by
    simp [chars, Piece.written]
  rw [Legible, written]
  exact readsAs_column table column

theorem legible_table (table asName : String) :
    Legible [name table, word " AS ", name asName] :=
  (legible_name table).between (legible_name asName) (by decide)

theorem Legible.enclosed (inside : Bool) (legible : Legible first) :
    Legible (enclosed inside first) := by
  cases inside with
  | false => exact legible
  | true => exact (legible.before (by decide)).word_cons (by decide)

theorem legible_separated {pieces : List (List Piece)} (each : ∀ part ∈ pieces, Legible part) :
    Legible (separated pieces) :=
  separated_induction ⟨rfl, rfl⟩ each fun _ _ one other => one.between other (by decide)

end Piece

/-- A condition's text is read as the identifiers of its pieces. -/
theorem Expr.legible (e : Expr) : Piece.Legible e.pieces := by
  induction e with
  | column depth held => exact Piece.legible_column _ held
  | constant scalar => exact Piece.legible_constant scalar
  | lower value ih | orFalse value ih =>
    exact (ih.before (by decide)).word_cons (by decide)
  | compare comparison left right ihLeft ihRight =>
    have separates : Piece.Separates (" " ++ sign comparison ++ " ") := by
      cases comparison <;> decide
    exact ihLeft.between ihRight separates
  | isNull value ih | isNotNull value ih => exact ih.before (by decide)
  | inList value constants ih =>
    have listed : Piece.Legible
        (Piece.separated (constants.map fun scalar => [.constant scalar])) := by
      refine Piece.legible_separated fun part among => ?_
      obtain ⟨scalar, -, rfl⟩ := List.mem_map.mp among
      exact Piece.legible_constant scalar
    exact (ih.between listed (by decide)).before (by decide)
  | like value pattern ih =>
    have escaped : Piece.Legible [.constant (.text pattern), .word " ESCAPE E'\\\\'"] :=
      (Piece.legible_constant (.text pattern)).before (by decide)
    exact ih.between escaped (by decide)
  | and left right ihLeft ihRight | or left right ihLeft ihRight =>
    exact (ihLeft.enclosed _).between (ihRight.enclosed _) (by decide)
  | not value ih => exact (ih.enclosed _).word_cons (by decide)
  | «exists» table depth condition ih =>
    have inside : Piece.Legible (condition.pieces ++ [.word ")"]) :=
      ih.before (by decide)
    exact ((Piece.legible_table table _).between inside (by decide)).word_cons (by decide)

namespace Select

theorem legible_columnPieces (column : OrderColumn) : Piece.Legible (columnPieces column) := by
  have trails : Piece.Trails (if column.ascending then " ASC" else " DESC") := by
    split <;> decide
  exact (Piece.legible_column (aliasName 0) column.name).before trails

theorem follows_boundPieces {words : String} (separates : Piece.Separates words)
    (bound : Option Nat) : Piece.Follows (boundPieces words bound) := by
  cases bound with
  | none => exact Or.inl rfl
  | some n => exact (Piece.legible_number n).follows separates

/-- A reader of a selection's text finds the identifiers of its pieces, and no other: no constant
and no name reaches out of its quotes. -/
theorem identifiers_written (select : Select) :
    identifiers select.written = Piece.identifiers select.pieces := by
  have word : Piece.Legible
      [.word (match select.projection with | .rows => "*" | .count => "COUNT(*)")] := by
    cases select.projection <;> exact Piece.legible_piece (by decide)
  have head : Piece.Legible ([.word "SELECT ",
      .word (match select.projection with | .rows => "*" | .count => "COUNT(*)"),
      .word " FROM ", .name select.table, .word " AS ", .name (aliasName 0)]) :=
    (word.between (Piece.legible_table select.table _) (by decide)).word_cons (by decide)
  have legible : Piece.Legible select.pieces := by
    refine (((head.append_follows ?condition).append_follows ?order).append_follows
      ?limit).append_follows ?offset
    case condition =>
      cases select.condition with
      | none => exact Or.inl rfl
      | some c => exact c.legible.follows (by decide)
    case order =>
      rw [orderPieces]
      split
      · exact Or.inl rfl
      · refine Piece.Legible.follows (Piece.legible_separated fun part among => ?_) (by decide)
        obtain ⟨column, -, rfl⟩ := List.mem_map.mp among
        exact legible_columnPieces column
    case limit => exact follows_boundPieces (by decide) select.limit
    case offset => exact follows_boundPieces (by decide) select.offset
  rw [identifiers, written_eq_text, Piece.toList_text]
  exact legible.found

/-- Between quotes and without them. -/
example :
    identifiers (Select.written
      { projection := .count
        table := "us\"ers"
        condition := some (.and
          (.compare .eq (.column 0 "name") (.constant (.text "O'Neill\"")))
          (.compare .lt (.column 0 "score") (.constant (.float (.infinity true))))) }) =
      [.quoted "us\"ers", .quoted "t0", .quoted "t0", .quoted "name", .quoted "t0",
        .quoted "score", .bare "inf"] := by
  decide +kernel

end Select

end ListQuery.Sql
