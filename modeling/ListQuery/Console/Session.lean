import ListQuery.Console.Demo
import ListQuery.MappingFile

/-! Sessions at the command line: each line is a command or a filter to run on the demonstration
data. -/

namespace ListQuery.Console

/-- The settings that lines are run with. -/
structure Session where
  config : Config DemoModel
  catalog : Sql.Catalog
  query : Query := {}

/-- What a line leads to. -/
inductive Reply where
  /-- Text to print, and the settings from now on. -/
  | next (session : Session) (output : String)
  /-- The end of the session. -/
  | quit
  /-- A number was asked for. -/
  | notANumber (text : String) (fault : NumeralFault)

namespace Session

/-- A session under a mapping file, or under the built-in rules if there is none that can be
used. -/
def start (mappingFile : FileContent) : Session :=
  match (MappingFile.load "queryx.json" mappingFile).result with
  | .ok file =>
    { config := (file.configure .user builtInConfig).2, catalog := file.catalog "User" }
  | .error _ => { config := builtInConfig, catalog := builtInCatalog }

/-- A text with spaces before it up to a width. -/
private def alignRight (width : Nat) (text : String) : String :=
  String.ofList (List.replicate (width - text.length) ' ') ++ text

/-- A text with spaces behind it up to a width. -/
private def alignLeft (width : Nat) (text : String) : String :=
  text ++ String.ofList (List.replicate (width - text.length) ' ')

/-- A user on one line. -/
private def rowLine (user : User) : String :=
  let tags : Text.Term := .list (user.tags.map fun tag => .word (Text.escaped tag))
  "  " ++ alignRight 2 (toString user.id.toInt) ++ " " ++ alignLeft 5 user.name ++ " "
    ++ alignRight 3 (toString user.age.toInt) ++ " " ++ tags.compact ++ "\n"

/-- The statements of a plan, or why it has none. -/
private def statementLines (catalog : Sql.Catalog) (plan : Plan) : String :=
  match (Sql.compile catalog plan "User").result with
  | .ok statements =>
    "sql:   " ++ statements.rows.written ++ "\ncount: " ++ statements.count.written ++ "\n"
      ++ String.join (statements.steps.map fun step => "  applied " ++ step.term.compact ++ "\n")
  | .error error => "sql: unavailable (" ++ error.message ++ ")\n"

/-- Runs the filter: its tokens, its tree, its statements and the rows. The first error ends
it. -/
def runFilter (session : Session) : String :=
  let tokens : Text.Term :=
    .list ((Filter.tokens session.query.filter).map fun token => token.kind.term)
  let failure (error : QueryError) : String := "error: " ++ error.message ++ "\n"
  "tokens: " ++ tokens.compact ++ "\n" ++
    match Filter.parse session.query.filter with
    | .error error => failure error
    | .ok filter =>
      "ast: " ++ (Text.Term.ofOption (filter.map Filter.term)).indented 0 ++ "\n" ++
        match (Plan.compile session.config .user session.query).result with
        | .error error => failure error
        | .ok plan =>
          let rows := plan.apply users
          statementLines session.catalog plan ++ toString rows.length ++ " row(s):\n"
            ++ String.join (rows.map rowLine)

/-- The commands. -/
def help : String :=
  "enter a filter, e.g. name=-*'jo'|age>=30\n"
    ++ "  :order <expr>   set ordering, e.g. -age,name\n"
    ++ "  :offset <n>     skip n rows (empty to clear)\n"
    ++ "  :limit <n>      keep n rows (empty to clear)\n"
    ++ "  :strict on|off  fail on unknown properties\n"
    ++ "  :show           print the current query\n"
    ++ "  :quit\n"

/-- A number, or nothing for no text. -/
private def number? (text : String) : Except NumeralFault (Option Int64) :=
  if text.isEmpty then .ok none else (Numeral.int64 text).map some

/-- What a line leads to. The word before the first space is the command; what is no command is
a filter. -/
def handle (session : Session) (line : String) : Reply :=
  let (command, argument) :=
    match Text.cutAt ' ' line.toList with
    | some (command, rest) => (String.ofList command, String.ofList (Text.trim rest))
    | none => (line, "")
  let setNumber (set : Option Int64 → Query) : Reply :=
    match number? argument with
    | .ok n => .next { session with query := set n } ""
    | .error fault => .notANumber argument fault
  if command = ":quit" || command = ":q" then .quit
  else if command = ":help" then .next session help
  else if command = ":order" then
    .next { session with query := { session.query with orderBy := argument } } ""
  else if command = ":offset" then setNumber fun n => { session.query with offset := n }
  else if command = ":limit" then setNumber fun n => { session.query with limit := n }
  else if command = ":strict" then
    let strict := argument = "on" || argument = "true" || argument = "1"
    .next { session with config := { session.config with strict } } ""
  else if command = ":show" then
    .next session
      (session.query.term.compact ++ " strict="
        ++ (if session.config.strict then "true" else "false") ++ "\n")
  else if ":".isPrefixOf command then
    .next session ("unknown command " ++ command ++ ", try :help\n")
  else
    let session := { session with query := { session.query with filter := line } }
    .next session session.runFilter

end Session

end ListQuery.Console
