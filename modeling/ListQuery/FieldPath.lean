import ListQuery.Text.Escaped
import ListQuery.Text.Split
import ListQuery.Text.Term

/-! Paths from a record to a field in it. -/

namespace ListQuery

/-- The names of fields on the way from a record to a value. The empty path leads to the value
itself. -/
abbrev FieldPath := List String

namespace FieldPath

/-- The names between the points of a text; no text is the empty path. -/
def ofText (text : String) : FieldPath :=
  if text.isEmpty then [] else Text.splitAt '.' text

/-- The names with a separator between them. -/
def joined (separator : String) (path : FieldPath) : String :=
  separator.intercalate path

/-- The names with points between them. -/
def dotted (path : FieldPath) : String :=
  path.joined "."

/-- The path by its constructor. -/
def term (path : FieldPath) : Text.Term :=
  .tuple "FieldPath" [.list (path.map fun name => .word (Text.escaped name))]

end FieldPath

end ListQuery
