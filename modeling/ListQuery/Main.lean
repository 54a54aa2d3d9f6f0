import ListQuery.Console.Transcript

/-! The command line: one filter given as an argument, or a session of lines from standard
input. -/

namespace ListQuery.Console

/-- What stands in a file. -/
def fileContent (path : String) : IO FileContent := do
  try return .text (← IO.FS.readFile path)
  catch _ => return .missing

/-- Reads and answers lines up to the end of the input. -/
partial def converse (input : IO.FS.Stream) (session : Session) : IO Unit := do
  IO.print prompt
  (← IO.getStdout).flush
  let line ← input.getLine
  unless line.isEmpty do
    let content := if line.endsWith "\n" then line.toList.dropLast else line.toList
    let (next, output) := answerLine session (withoutReturn content)
    IO.print output
    if let some session := next then converse input session

end ListQuery.Console

open ListQuery.Console

/-- Answers the filter that is given, or else the lines of standard input. -/
def main (arguments : List String) : IO UInt32 := do
  let mappingFile ← fileContent "queryx.json"
  match arguments with
  | [] =>
    IO.print banner
    converse (← IO.getStdin) (Session.start mappingFile)
    return 0
  | arguments =>
    let transcript := run arguments "" mappingFile
    IO.print transcript.output
    IO.eprint transcript.errors
    return UInt32.ofNat transcript.exit
