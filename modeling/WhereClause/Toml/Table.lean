import WhereClause.Toml.Value

/-!
# TOML documents

A document is a list of lines that give values to keys, in sections opened by headers.  It is kept
as the list of its definitions: every key with its full path, and every table that a line opens or
passes through.

Main definitions:

* `Definition`, `Content`: what stands at a path;
* `Toml.assign?`, `Toml.openTable?`, `Toml.openElement?`: the three kinds of line, each refused
  where it would define something twice;
* `Toml.readDocument`: the definitions of a whole text.
-/

set_option autoImplicit false

namespace WhereClause.Toml

/-- What stands at a path of a document. -/
inductive Content where
  | value (v : Toml)
  /-- A table with a header of its own. -/
  | header
  /-- A table that a longer header passes through. -/
  | implied
  /-- A table that a dotted key passes through. -/
  | dotted
  /-- The tables of an array, of which the last is open. -/
  | elements

/-- A path of a document, and what stands there. -/
structure Definition where
  path : List Text
  content : Content

def contentAt? (path : List Text) (definitions : List Definition) : Option Content :=
  (definitions.find? fun d => d.path == path).map (·.content)

/-- The definitions with `content` at `path`, whatever stood there. -/
def define (path : List Text) (content : Content) (definitions : List Definition) :
    List Definition :=
  definitions.filter (fun d => d.path != path) ++ [⟨path, content⟩]

/-- Opens the tables between the section `base` and the last part of the key.  A dotted key goes
through no table that has a header of its own. -/
def passKey? (base : List Text) : List Text → List Definition → Option (List Definition)
  | [], definitions => some definitions
  | [_], definitions => some definitions
  | part :: parts, definitions =>
    let path := base ++ [part]
    match contentAt? path definitions with
    | none => passKey? path parts (define path .dotted definitions)
    | some .header => none
    | some (.value _) => none
    | some _ => passKey? path parts definitions

/-- Holds if the last part of a key may be defined in the section `base`: it stands in the section
itself or in a table of dotted keys. -/
def isWritable (base key : List Text) (definitions : List Definition) : Bool :=
  key.length ≤ 1 ||
    match contentAt? (base ++ key.dropLast) definitions with
    | some .dotted => true
    | _ => false

/-- Gives a value to a key in the section `base`. -/
def assign? (base key : List Text) (v : Toml) (definitions : List Definition) :
    Option (List Definition) := do
  let definitions ← passKey? base key definitions
  if isWritable base key definitions && (contentAt? (base ++ key) definitions).isNone then
    some (define (base ++ key) (.value v) definitions)
  else none

/-- Opens the tables between `base` and the last part of a header. -/
def passHeader? (base : List Text) : List Text → List Definition → Option (List Definition)
  | [], definitions => some definitions
  | [_], definitions => some definitions
  | part :: parts, definitions =>
    let path := base ++ [part]
    match contentAt? path definitions with
    | none => passHeader? path parts (define path .implied definitions)
    | some (.value _) => none
    | some _ => passHeader? path parts definitions

/-- Opens the section of a table. -/
def openTable? (path : List Text) (definitions : List Definition) : Option (List Definition) := do
  let definitions ← passHeader? [] path definitions
  match contentAt? path definitions with
  | none => some (define path .header definitions)
  | some .implied => some (define path .header definitions)
  | some _ => none

/-- Opens the section of a further table in an array of tables; what was defined in the table before
it does not count any more. -/
def openElement? (path : List Text) (definitions : List Definition) :
    Option (List Definition) := do
  let definitions ← passHeader? [] path definitions
  match contentAt? path definitions with
  | none => some (define path .elements definitions)
  | some .elements => some (define path .elements
      (definitions.filter fun d => !path.isPrefixOf d.path))
  | some _ => none

/-- Reads one line: the section that is open after it, the definitions with what it adds, and the
text after it. -/
def readLine (base : List Text) (definitions : List Definition) (s : Text) :
    Option (List Text × List Definition × Text) :=
  match s with
  | '[' :: '[' :: s => do
    let (path, rest) ← readKey (skipBlanks s)
    match rest with
    | ']' :: ']' :: rest => return (path, ← openElement? path definitions, ← endOfLine? rest)
    | _ => none
  | '[' :: s => do
    let (path, rest) ← readKey (skipBlanks s)
    match rest with
    | ']' :: rest => return (path, ← openTable? path definitions, ← endOfLine? rest)
    | _ => none
  | s => do
    let ((key, value), rest) ← readEntry (readValue maxDepth) s
    return (base, ← assign? base key value definitions, ← endOfLine? rest)

/-- Reads lines to the end of the text, in the section `base`. -/
def readLines (base : List Text) (definitions : List Definition) (s : Text) :
    Option (List Definition) :=
  match skipLines s with
  | [] => some definitions
  | start =>
    match readLine base definitions start with
    | none => none
    | some (base, definitions, rest) =>
      if rest.length < s.length then readLines base definitions rest else none
termination_by s.length

/-- The text without a byte order mark at its start. -/
def skipMark : Text → Text
  | '\ufeff' :: s => s
  | s => s

def readDocument (s : Text) : Option (List Definition) :=
  readLines [] [] (skipMark s)

end WhereClause.Toml
