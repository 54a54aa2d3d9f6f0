import ListQuery.Console.Backspace
import ListQuery.Console.Session

/-! What the command line prints: for a filter given with the command, or for lines read one
after the other. -/

namespace ListQuery.Console

/-- What a run prints, and how it ends. -/
structure Transcript where
  exit : Nat
  output : String
  errors : String
deriving DecidableEq

/-- The line before the first prompt. -/
def banner : String :=
  "queryx demo over " ++ toString users.length ++ " users, :help for commands\n"

/-- What is printed before each line is read. -/
def prompt : String :=
  "queryx> "

/-- What a fault in a number is called. -/
def notANumber (text : String) : String :=
  "not a number: " ++ text

/-- A line without its carriage return. -/
def withoutReturn (line : List Char) : List Char :=
  if line.getLast? = some '\r' then line.dropLast else line

/-- The lines of an input. What follows the last line feed is a line if it is not empty. -/
def lines (input : String) : List (List Char) :=
  let pieces := Text.pieces '\n' input.toList
  pieces.dropLast.map withoutReturn
    ++ match pieces.getLast? with
      | some (c :: rest) => [c :: rest]
      | _ => []

/-- What one line of an input leads to; blank lines lead to nothing. The new session is absent
at the end. -/
def answerLine (session : Session) (line : List Char) : Option Session × String :=
  let meant := Text.trim (erased line)
  if meant.isEmpty then (some session, "")
  else
    match session.handle (String.ofList meant) with
    | .next session output => (some session, output)
    | .quit => (none, "")
    | .notANumber text fault =>
      (some session, "error: " ++ notANumber text ++ ": " ++ fault.message ++ "\n")

/-- What is printed while lines are read. The prompt comes before each, and before the end of
the input. -/
def conversation (session : Session) : List (List Char) → String
  | [] => prompt
  | line :: rest =>
    match answerLine session line with
    | (some session, output) => prompt ++ output ++ conversation session rest
    | (none, output) => prompt ++ output

/-- One filter or command and an order, given with the command. -/
def oneShot (session : Session) (line orderBy : String) : Transcript :=
  match { session with query := { session.query with orderBy } }.handle line with
  | .next _ output => ⟨0, output, ""⟩
  | .quit => ⟨0, "", ""⟩
  | .notANumber text fault =>
    ⟨1, "", "Error: " ++ notANumber text ++ "\n\nCaused by:\n    " ++ fault.message ++ "\n"⟩

/-- A whole run: its arguments, its input and the mapping file. -/
def run (arguments : List String) (input : String) (mappingFile : FileContent) : Transcript :=
  let session := Session.start mappingFile
  match arguments with
  | line :: rest => oneShot session line (rest.head?.getD "")
  | [] => ⟨0, banner ++ conversation session (lines input), ""⟩

end ListQuery.Console
