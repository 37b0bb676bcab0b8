import WhereClause.Dialect

/-!
# Command line arguments

Options may stand before and after the expression.  A short option may share its hyphen with
others, and a value may follow its option directly, behind an equals sign, or as the next
argument.  The name of a command ends the options.

Main definitions:

* `Arguments`: what the arguments ask for;
* `Refusal`: the ways in which the arguments end the program at once;
* `Arguments.ofList`: reads the arguments, with the dialect named by the environment.

Every option may be given once.  The first argument that ends the program decides how it ends.
-/

set_option autoImplicit false

namespace WhereClause

inductive OutputFormat where
  | sql
  | json
deriving DecidableEq, Repr

def OutputFormat.name : OutputFormat → Text
  | sql => "sql"
  | json => "json"

def OutputFormat.ofName? (s : Text) : Option OutputFormat :=
  [sql, json].find? fun f => f.name == s

/-- What to do other than to print conditions. -/
inductive Command where
  | explain (expression : Text)
  | operators
deriving DecidableEq, Repr

/-- What the arguments ask for. -/
structure Arguments where
  expression : Option Text := none
  /-- The file that holds a document. -/
  file : Option Text := none
  dialect : Option Dialect := none
  format : Option OutputFormat := none
  /-- The settings file. -/
  config : Option Text := none
  verbose : Bool := false
  command : Option Command := none
deriving DecidableEq, Repr

/-- How the arguments end the program before it does anything. -/
inductive Refusal where
  | usage
  | help
  | version
deriving DecidableEq, Repr

namespace Arguments

/-- An option that has a value. -/
inductive Key where
  | file
  | dialect
  | format
  | config
deriving DecidableEq, Repr

/-- What the name of an option stands for. -/
inductive Meaning where
  | key (k : Key)
  | verbose
  | refuse (r : Refusal)
deriving DecidableEq, Repr

def longNames : List (Text × Meaning) :=
  [("file", .key .file), ("dialect", .key .dialect), ("format", .key .format),
    ("config", .key .config), ("verbose", .verbose), ("help", .refuse .help),
    ("version", .refuse .version)]

def letters : List (Char × Meaning) :=
  [('f', .key .file), ('d', .key .dialect), ('c', .key .config), ('v', .verbose),
    ('h', .refuse .help), ('V', .refuse .version)]

/-- One step in the meaning of an argument. -/
inductive Item where
  /-- Anything but an option. -/
  | positional (s : Text)
  /-- An option with its value, or with a value that is still to come. -/
  | setting (k : Key) (value : Option Text)
  | verbose
  | refuse (r : Refusal)
deriving DecidableEq, Repr

/-- Holds of arguments that are never the value of the option before them. -/
def isOptionLike (s : Text) : Bool :=
  s.head? == some '-' && s.length != 1

/-- The value behind the letter of an option; an equals sign between them does not count. -/
def attached : Text → Option Text
  | [] => none
  | '=' :: s => some s
  | s => some s

/-- The steps in the meaning of letters behind one hyphen. -/
def itemsOfLetters : Text → List Item
  | [] => []
  | c :: s =>
    match letters.lookup c with
    | some (.key k) => [.setting k (attached s)]
    | some .verbose => .verbose :: itemsOfLetters s
    | some (.refuse r) => [.refuse r]
    | none => [.refuse .usage]

/-- The step in the meaning of a long option. -/
def itemOfLong (s : Text) : Item :=
  let name := s.takeWhile (· != '=')
  let value : Option Text := match s.dropWhile (· != '=') with
    | _ :: value => some value
    | [] => none
  match longNames.lookup name, value with
  | some (.key k), value => .setting k value
  | some .verbose, none => .verbose
  | some (.refuse r), none => .refuse r
  | _, _ => .refuse .usage

def itemsOf : Text → List Item
  | '-' :: '-' :: s => [itemOfLong s]
  | '-' :: c :: s => itemsOfLetters (c :: s)
  | s => [.positional s]

def set (a : Arguments) (value : Text) : Key → Except Refusal Arguments
  | .file =>
    if a.file.isSome ∨ value = [] then .error .usage else .ok { a with file := some value }
  | .config =>
    if a.config.isSome ∨ value = [] then .error .usage else .ok { a with config := some value }
  | .dialect =>
    match a.dialect, Dialect.ofName? value with
    | none, some d => .ok { a with dialect := some d }
    | _, _ => .error .usage
  | .format =>
    match a.format, OutputFormat.ofName? value with
    | none, some f => .ok { a with format := some f }
    | _, _ => .error .usage

def addPositional (a : Arguments) (s : Text) : Except Refusal Arguments :=
  if a.expression.isSome then .error .usage else .ok { a with expression := some s }

/-- The arguments after some steps, and the option whose value is still to come. -/
def addItems (a : Arguments) : List Item → Except Refusal (Arguments × Option Key)
  | [] => .ok (a, none)
  | .positional s :: items => do
    let a ← a.addPositional s
    a.addItems items
  | .setting k none :: _ => .ok (a, some k)
  | .setting k (some value) :: items => do
    let a ← a.set value k
    a.addItems items
  | .verbose :: items =>
    if a.verbose then .error .usage else addItems { a with verbose := true } items
  | .refuse r :: _ => .error r

/-! ### Commands -/

/-- Holds of the arguments that ask a command for help. -/
def asksForHelp (s : Text) : Bool :=
  s == "--help".toList || s.take 2 == "-h".toList

/-- The arguments of a command that takes at most `count` of them and has no options.  Behind `--`
everything is an argument. -/
def positionalsOf (count : Nat) : List Text → Except Refusal (List Text)
  | [] => .ok []
  | arg :: args =>
    if arg = "--".toList then (if args.length ≤ count then .ok args else .error .usage)
    else if asksForHelp arg then .error .help
    else if isOptionLike arg then .error .usage
    else
      match count with
      | 0 => .error .usage
      | count + 1 => (positionalsOf count args).map (arg :: ·)

def commandNames : List Text := ["explain", "operators", "help"]

def commandOf (name : Text) (args : List Text) : Except Refusal Command :=
  if name = "help".toList then
    match args with
    | [] => .error .help
    | [topic] => if commandNames.contains topic then .error .help else .error .usage
    | _ => .error .usage
  else if name = "explain".toList then
    match positionalsOf 1 args with
    | .error r => .error r
    | .ok [expression] => .ok (.explain expression)
    | .ok _ => .error .usage
  else (positionalsOf 0 args).map fun _ => .operators

/-! ### All arguments -/

def addPositionals (a : Arguments) : List Text → Except Refusal Arguments
  | [] => .ok a
  | s :: args => do
    let a ← a.addPositional s
    a.addPositionals args

/-- The arguments after all that are left. -/
def addAll (a : Arguments) : List Text → Except Refusal Arguments
  | [] => .ok a
  | arg :: args =>
    if arg = "--".toList then a.addPositionals args
    else if commandNames.contains arg then
      (commandOf arg args).map fun command => { a with command := some command }
    else
      match a.addItems (itemsOf arg) with
      | .error r => .error r
      | .ok (a, none) => a.addAll args
      | .ok (a, some k) =>
        match args with
        | [] => .error .usage
        | value :: args =>
          if isOptionLike value then .error .usage
          else
            match a.set value k with
            | .error r => .error r
            | .ok a => a.addAll args

/-- The arguments with the dialect of the environment where they name none themselves. -/
def withEnvironment (a : Arguments) (dialect : Option Text) : Except Refusal Arguments :=
  match a.dialect, dialect with
  | none, some name => a.set name .dialect
  | _, _ => .ok a

/-- What the arguments ask for.  A document and an expression exclude each other. -/
def ofList (environment : Option Text) (args : List Text) : Except Refusal Arguments := do
  let a ← addAll {} args
  let a ← a.withEnvironment environment
  if a.file.isSome ∧ a.expression.isSome then throw .usage
  return a

end Arguments

end WhereClause
