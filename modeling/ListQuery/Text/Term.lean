/-! Terms: values shown by their constructors, on one line or laid out over several. -/

namespace ListQuery.Text

/-- A value as a tree of named constructors, lists, sets and maps. -/
inductive Term where
  | word (text : String)
  | tuple (name : String) (arguments : List Term)
  | record (name : String) (fields : List (String × Term))
  | list (items : List Term)
  | set (items : List Term)
  | map (entries : List (String × Term))

namespace Term

/-- An absent value is `None`, a present one stands inside `Some`. -/
def ofOption : Option Term → Term
  | none => .word "None"
  | some term => .tuple "Some" [term]

/-- Truth values by their words. -/
def ofBool (b : Bool) : Term :=
  .word (if b then "true" else "false")

mutual

/-- The term on one line. -/
def compact : Term → String
  | word text => text
  | tuple name arguments => name ++ "(" ++ ", ".intercalate (compactAll arguments) ++ ")"
  | record name fields => name ++ " \x7b " ++ ", ".intercalate (compactFields fields) ++ " \x7d"
  | list items => "[" ++ ", ".intercalate (compactAll items) ++ "]"
  | set items => "\x7b" ++ ", ".intercalate (compactAll items) ++ "\x7d"
  | map entries => "\x7b" ++ ", ".intercalate (compactFields entries) ++ "\x7d"

private def compactAll : List Term → List String
  | [] => []
  | term :: rest => compact term :: compactAll rest

private def compactFields : List (String × Term) → List String
  | [] => []
  | (name, term) :: rest => (name ++ ": " ++ compact term) :: compactFields rest

end

/-- Four spaces for each level. -/
private def margin (depth : Nat) : String :=
  String.ofList (List.replicate (4 * depth) ' ')

/-- A bracketed block with one entry a line, each followed by a comma. -/
private def block (depth : Nat) (opening closing : String) (entries : List String) : String :=
  if entries.isEmpty then opening ++ closing
  else
    opening ++ "\n" ++ String.join (entries.map fun entry => margin (depth + 1) ++ entry ++ ",\n")
      ++ margin depth ++ closing

mutual

/-- The term over several lines, at a depth of indentation. -/
def indented (depth : Nat) : Term → String
  | word text => text
  | tuple name arguments => block depth (name ++ "(") ")" (indentedAll (depth + 1) arguments)
  | record name fields => block depth (name ++ " \x7b") "\x7d" (indentedFields (depth + 1) fields)
  | list items => block depth "[" "]" (indentedAll (depth + 1) items)
  | set items => block depth "\x7b" "\x7d" (indentedAll (depth + 1) items)
  | map entries => block depth "\x7b" "\x7d" (indentedFields (depth + 1) entries)

private def indentedAll (depth : Nat) : List Term → List String
  | [] => []
  | term :: rest => indented depth term :: indentedAll depth rest

private def indentedFields (depth : Nat) : List (String × Term) → List String
  | [] => []
  | (name, term) :: rest => (name ++ ": " ++ indented depth term) :: indentedFields depth rest

end

end Term

end ListQuery.Text
