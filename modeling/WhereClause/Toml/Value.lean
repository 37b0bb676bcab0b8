import WhereClause.Toml.Key
import WhereClause.Toml.Moment
import WhereClause.Toml.Number

/-!
# TOML values

Values as they stand behind an equals sign.

Main definitions:

* `Toml`: a value; a table is the list of its dotted keys with their values;
* `Toml.readEntry`: a key with its value;
* `Toml.readValue`: a value, with arrays and tables nested at most a given number of levels deep.
-/

set_option autoImplicit false

namespace WhereClause

inductive Toml where
  | string (s : Text)
  | bool (b : Bool)
  /-- A number, a date or a time, whichever it is. -/
  | other
  | array (items : List Toml)
  /-- A table in braces. -/
  | table (entries : List (List Text × Toml))

namespace Toml

/-! ### Single values -/

def isTokenChar (c : Char) : Bool :=
  c.isAlphanum || c == '+' || c == '-' || c == '_' || c == '.'

/-- Reads a truth value or a number. -/
def readToken (s : Text) : Option (Toml × Text) :=
  let token := s.takeWhile isTokenChar
  let rest := s.dropWhile isTokenChar
  if token == "true".toList then some (.bool true, rest)
  else if token == "false".toList then some (.bool false, rest)
  else if isNumber token then some (.other, rest)
  else none

/-- Reads a value that holds no others. -/
def readSingle (s : Text) : Option (Toml × Text) :=
  match readString s with
  | some (t, rest) => some (.string t, rest)
  | none =>
    match dropMoment? s with
    | some rest => some (.other, rest)
    | none => readToken s

/-! ### Arrays and tables -/

/-- Reads the items of an array up to and with its closing bracket. -/
def readItems (item : Text → Option (Toml × Text)) (s : Text) : Option (List Toml × Text) :=
  match skipLines s with
  | ']' :: rest => some ([], rest)
  | start =>
    match item start with
    | none => none
    | some (value, rest) =>
      match skipLines rest with
      | ',' :: rest =>
        if rest.length < s.length then
          (readItems item rest).map fun (values, rest) => (value :: values, rest)
        else none
      | ']' :: rest => some ([value], rest)
      | _ => none
termination_by s.length

/-- Reads a key, an equals sign and a value. -/
def readEntry (item : Text → Option (Toml × Text)) (s : Text) :
    Option ((List Text × Toml) × Text) := do
  let (key, rest) ← readKey s
  match skipBlanks rest with
  | '=' :: rest =>
    let (value, rest) ← item (skipBlanks rest)
    return ((key, value), rest)
  | _ => none

/-- Reads the entries of a table in braces, of which there is at least one, up to and with its
closing brace. -/
def readEntries (item : Text → Option (Toml × Text)) (s : Text) :
    Option (List (List Text × Toml) × Text) :=
  match readEntry item (skipBlanks s) with
  | none => none
  | some (entry, rest) =>
    match skipBlanks rest with
    | ',' :: rest =>
      if rest.length < s.length then
        (readEntries item rest).map fun (entries, rest) => (entry :: entries, rest)
      else none
    | '\x7d' :: rest => some ([entry], rest)
    | _ => none
termination_by s.length

/-- Holds of two keys of which one begins with the other: they cannot both be given a value. -/
def keysClash (a b : List Text) : Bool :=
  a.isPrefixOf b || b.isPrefixOf a

def keysAgree : List (List Text) → Bool
  | [] => true
  | key :: keys => !keys.any (keysClash key) && keysAgree keys

/-- Reads a table behind its opening brace. -/
def readTable (item : Text → Option (Toml × Text)) (s : Text) : Option (Toml × Text) :=
  match skipBlanks s with
  | '\x7d' :: rest => some (.table [], rest)
  | start => do
    let (entries, rest) ← readEntries item start
    if keysAgree (entries.map (·.1)) then some (.table entries, rest) else none

/-- Reads a value, with arrays and tables nested at most `levels` deep. -/
def readValue (levels : Nat) (s : Text) : Option (Toml × Text) :=
  match levels, s with
  | levels + 1, '[' :: s => (readItems (readValue levels) s).map fun (items, rest) =>
      (.array items, rest)
  | levels + 1, '\x7b' :: s => readTable (readValue levels) s
  | _, s => readSingle s

end Toml

end WhereClause
