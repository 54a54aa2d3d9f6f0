import ListQuery.Text.Cluster
import ListQuery.Text.Size

/-! Lines with backspaces. A backspace takes back what the last key put there: a whole cluster of
characters, and not the last of them alone. -/

namespace ListQuery.Console

/-- A line so far, its last character first, with the sizes of its clusters. -/
structure Typed where
  kept : List Char := []
  sizes : List Nat := []

/-- The sizes that are told apart: the size of a cluster is kept in one byte. -/
def sizeLimit : Nat := 256

/-- What is left of a line when so many bytes at its end are taken back. -/
def dropBytes (count : Nat) : List Char → List Char
  | [] => []
  | c :: rest => if count = 0 then c :: rest else dropBytes (count - c.utf8Size) rest

namespace Typed

/-- The line with one more cluster, or with one less. At the start of a line a backspace does
nothing. -/
def add (typed : Typed) (cluster : List Char) : Typed :=
  if cluster = ['\x08'] then
    match typed.sizes with
    | [] => typed
    | size :: sizes => ⟨dropBytes size typed.kept, sizes⟩
  else ⟨cluster.reverse ++ typed.kept, Text.byteSize cluster % sizeLimit :: typed.sizes⟩

end Typed

/-- A line as it is meant, its backspaces carried out. -/
def erased (line : List Char) : List Char :=
  ((Text.clusters line).foldl Typed.add {}).kept.reverse

end ListQuery.Console
