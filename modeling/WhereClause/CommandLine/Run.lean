import WhereClause.CommandLine.Arguments
import WhereClause.CommandLine.Explanation
import WhereClause.CommandLine.Reference
import WhereClause.Document.Load
import WhereClause.Document.Save
import WhereClause.Render
import WhereClause.Settings
import WhereClause.Shorthand.Parse

/-!
# The program

What the program prints and how it ends, as a function of its arguments and of the files it finds.

Main definitions:

* `FileState`, `Surroundings`: what the program finds around it;
* `Outcome`: what it prints and its exit code;
* `Failure`: why it fails;
* `loadSettings`: the settings in force;
* `run`: a whole run.

The settings are loaded first, whatever is asked for, so that a broken settings file never passes
unnoticed.
-/

set_option autoImplicit false

namespace WhereClause.CommandLine

/-- What there is at a path. -/
inductive FileState where
  | missing (reason : Text)
  | unreadable (reason : Text)
  | file (content : Text)
deriving DecidableEq

/-- What the program finds around it. -/
structure Surroundings where
  files : Text → FileState
  /-- The directory for settings of the user. -/
  userDirectory : Option Text
  /-- The dialect that the environment asks for. -/
  dialect : Option Text

/-- Why a run fails. -/
inductive Failure where
  | noSettings (path : Text)
  | unreadableSettings (reason : Text)
  | badSettings
  | unreadableDocument (path reason : Text)
  | document (e : LoadError)
  | expression (e : Shorthand.ParseError)
  | render (e : RenderError)

/-- The message of a failure, with its cause behind it where the failure passes one on; what refuses
a document is told in the message and as its cause.  The place of a fault in a document and the
details of one in a settings file are left out.  There is no message where a keyword ends inside a
character: the run breaks off there. -/
def Failure.message : Failure → Option Text
  | noSettings path => some ("Configuration error: config file not found: " ++ path)
  | unreadableSettings reason => some ("IO error: " ++ reason ++ ": " ++ reason)
  | badSettings => some "Configuration error: TOML parse error"
  | unreadableDocument path reason => some ("reading " ++ path ++ ": " ++ reason)
  | document e => some ("Document error: " ++ e.message ++ ": " ++ e.message)
  | expression (.malformed position fault) =>
    some ("Parse error at position " ++ Numeral.ofNat position ++ ": " ++ fault.message)
  | expression (.invalid e) => some ("Invalid argument: " ++ e.message)
  | expression .insideChar => none
  | render (.escape e) => some ("Escape error: " ++ e.message)
  | render e => some ("Invalid argument: " ++ e.message)

def Failure.report (failure : Failure) : Option Text :=
  failure.message.map fun message => "Error: " ++ message

def Failure.exitCode : Failure → Nat
  | expression .insideChar => 101
  | _ => 1

/-- How a run ends. -/
structure Outcome where
  exitCode : Nat
  output : Text
  /-- What is reported on the way, if reports were asked for. -/
  report : Text := []
  /-- What is said about an error, without the line break at its end.  What the system says where a
  run breaks off is left out. -/
  error : Option Text := none
deriving DecidableEq

/-- The outcome after the given output, with a failure or without one. -/
def Outcome.ofFailure (output : Text) : Option Failure → Outcome
  | none => { exitCode := 0, output }
  | some failure =>
    { exitCode := failure.exitCode, output, error := failure.report }

/-! ### Settings -/

def localSettings : Text := "wherekit.toml"

def userSettings (directory : Text) : Text :=
  directory ++ "/wherekit/config.toml"

/-- The settings in what there is at a path, if there is anything. -/
def settingsAt? : FileState → Option (Except Failure Settings)
  | .missing _ => none
  | .unreadable reason => some (.error (.unreadableSettings reason))
  | .file content =>
    match Settings.ofToml? content with
    | some settings => some (.ok settings)
    | none => some (.error .badSettings)

/-- The settings in force: those of the file that was named, else of the first that is there, else
the defaults. -/
def loadSettings (here : Surroundings) : (named : Option Text) → Except Failure Settings
  | some path => (settingsAt? (here.files path)).getD (.error (.noSettings path))
  | none =>
    let user := here.userDirectory.bind fun directory =>
      settingsAt? (here.files (userSettings directory))
    (settingsAt? (here.files localSettings) <|> user).getD (.ok {})

/-! ### Printing conditions -/

def loadNodes (here : Surroundings) (path : Text) : Except Failure (List Node) :=
  match here.files path with
  | .missing reason => .error (.unreadableDocument path reason)
  | .unreadable reason => .error (.unreadableDocument path reason)
  | .file content => (Document.load content).mapError .document

def parseNodes (expression : Text) : Except Failure (List Node) :=
  (Shorthand.parse expression).mapError .expression

/-- The nodes as they are printed. -/
def printNodes (dialect : Dialect) (format : OutputFormat) (nodes : List Node) :
    Except Failure Text :=
  match format with
  | .json => .ok (line ((Json.array (Node.toJsonAll nodes)).pretty 0))
  | .sql => do
    let sql ← (Node.joinAll dialect.escaper nodes).mapError .render
    return line (if sql = [] then "(no condition)" else sql)

/-- What is printed for the given nodes, all or nothing. -/
def outcomeOf (result : Except Failure Text) : Outcome :=
  match result with
  | .ok output => .ofFailure output none
  | .error failure => .ofFailure [] (some failure)

/-! ### Explaining an expression -/

def explanationHead (expression : Text) : Text :=
  "Condition Explanation\n\nInput: " ++ expression ++ "\n\n"

/-- The outline of the nodes, and the heading of the SQL. -/
def explanationBody (dialect : Dialect) (nodes : List Node) : Text :=
  "Nodes:\n" ++ (Node.outlineAll 1 true nodes).flatMap line ++
    "\nGenerated SQL: (" ++ dialect.escaper.name ++ ")\n"

/-- An explanation.  What comes before a failure is printed all the same. -/
def explain (dialect : Dialect) (expression : Text) : Outcome :=
  let head := explanationHead expression
  match parseNodes expression with
  | .error failure => .ofFailure head (some failure)
  | .ok nodes =>
    let body := head ++ explanationBody dialect nodes
    match Node.joinAll dialect.escaper nodes with
    | .error e => .ofFailure body (some (.render e))
    | .ok sql => .ofFailure (body ++ line ("  " ++ sql)) none

/-! ### Whole runs -/

/-- The outcome where the arguments end the program at once.  What is wrong with arguments that are
not understood is not told. -/
def refuse : Refusal → Outcome
  | .usage =>
    { exitCode := 2, output := [], error := some "error: the arguments are not understood" }
  | .help => { exitCode := 0, output := helpText }
  | .version => { exitCode := 0, output := line "wherekit 0.3.0" }

/-- The nodes that the arguments name, in a document or as an expression, if they name any. -/
def nodesOf (here : Surroundings) (a : Arguments) : Option (Except Failure (List Node)) :=
  match a.file, a.expression with
  | some path, _ => some (loadNodes here path)
  | none, some expression => some (parseNodes expression)
  | none, none => none

/-- What is reported before an expression is read. -/
def reportOf (a : Arguments) : Text :=
  match a.verbose, a.file, a.expression with
  | true, none, some expression => line ("Input: " ++ expression)
  | _, _, _ => []

/-- The outcome for arguments that are understood, under the given settings. -/
def perform (here : Surroundings) (a : Arguments) (settings : Settings) : Outcome :=
  let dialect := a.dialect.getD settings.dialect
  match a.command with
  | some (.explain expression) => explain dialect expression
  | some .operators => .ofFailure reference none
  | none =>
    match nodesOf here a with
    | none => .ofFailure greeting none
    | some nodes =>
      { outcomeOf (nodes.bind (printNodes dialect (a.format.getD .sql))) with
        report := reportOf a }

def run (here : Surroundings) (args : List Text) : Outcome :=
  match Arguments.ofList here.dialect args with
  | .error refusal => refuse refusal
  | .ok a =>
    match loadSettings here a.config with
    | .error failure => .ofFailure [] (some failure)
    | .ok settings => perform here a settings

end WhereClause.CommandLine
