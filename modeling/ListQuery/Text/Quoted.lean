/-! Single quotes inside a quoted text are written twice. -/

namespace ListQuery.Text

/-- Writes each quote twice. -/
def doubleQuotes : List Char → List Char
  | [] => []
  | c :: rest => if c = '\'' then '\'' :: '\'' :: doubleQuotes rest else c :: doubleQuotes rest

/-- Reads each pair of quotes, from the left, as one. A quote that stands alone is kept. -/
def undoubleQuotes : List Char → List Char
  | '\'' :: '\'' :: rest => '\'' :: undoubleQuotes rest
  | c :: rest => c :: undoubleQuotes rest
  | [] => []

theorem undoubleQuotes_doubleQuotes (text : List Char) :
    undoubleQuotes (doubleQuotes text) = text := by
  induction text with
  | nil => rfl
  | cons c rest ih =>
    by_cases quote : c = '\''
    · simp [doubleQuotes, quote, undoubleQuotes, ih]
    · simp [doubleQuotes, quote, undoubleQuotes, ih]

/-- A string between single quotes, its own quotes doubled. -/
def quoted (text : String) : String :=
  "'" ++ String.ofList (doubleQuotes text.toList) ++ "'"

end ListQuery.Text
