import WhereClause.Value
import WhereClause.Column

/-!
# Escapers

An escaper knows how one dialect of SQL writes names, texts and casts.  Rendering asks it for
everything that depends on the dialect, and it may refuse.

Main definitions:

* `EscapeError`: why an escaper refuses;
* `Escaper`, `Escaper.literal`: a value as a complete literal;
* `quoteIdentifier`: a dotted name, quoted part by part;
* `doubleSingleQuotes`: the contents of a text in standard SQL.
-/

set_option autoImplicit false

namespace WhereClause

/-- Why an escaper refuses. -/
inductive EscapeError where
  /-- A part of the dotted name is empty. -/
  | emptyIdentifier (name : Text)
  | nulInIdentifier
  | nulInString
  | notFinite (x : Binary64)
  /-- The escaper has a reason of its own. -/
  | refused (reason : Text)
deriving DecidableEq

def EscapeError.message : EscapeError → Text
  | emptyIdentifier name => "empty identifier in '" ++ name ++ "'"
  | nulInIdentifier => "identifier contains a NUL byte"
  | nulInString => "string literal contains a NUL byte"
  | notFinite x => "cannot render float " ++ x.plainText ++ " as SQL"
  | refused reason => reason

/-- What rendering needs to know about a dialect.  An escaper refuses with an `EscapeError` and with
no error of another kind, and it cannot replace `Escaper.literal`. -/
structure Escaper where
  name : Text
  /-- A column name, quoted. -/
  column : Text → Except EscapeError Text
  /-- The contents of a text literal, without the quotes around it. -/
  string : Text → Except EscapeError Text
  cast : Text → CastKind → Except EscapeError Text
  bool : Bool → Text := fun b => if b then "TRUE" else "FALSE"

def inQuotes (s : Text) : Text :=
  '\'' :: (s ++ ['\''])

namespace Escaper

/-- The value as a complete literal, quotes included. -/
def literal (e : Escaper) : Value → Except EscapeError Text
  | .null => .ok "NULL"
  | .bool b => .ok (e.bool b)
  | .int n => .ok (Numeral.ofInt n.toInt)
  | .float x => if x.isFinite then .ok x.plainText else .error (.notFinite x)
  | .string s => (e.string s).map inQuotes
  | .date d => .ok (inQuotes d.text)
  | .dateTime t => .ok (inQuotes t.text)

end Escaper

def nul : Char := '\x00'

/-- One part of the dotted name `name`, quoted. -/
def quotePart (quote : Char) (name part : Text) : Except EscapeError Text :=
  if part = [] then .error (.emptyIdentifier name)
  else if nul ∈ part then .error .nulInIdentifier
  else .ok (Quoted.write quote part)

/-- The name with each of its dotted parts quoted, and a quote inside a part written twice. -/
def quoteIdentifier (quote : Char) (name : Text) : Except EscapeError Text :=
  ((Text.pieces '.' name).mapM (quotePart quote name)).map (Text.joinWith ".")

/-- The contents of a text literal in standard SQL: a single quote is written twice. -/
def doubleSingleQuotes (s : Text) : Except EscapeError Text :=
  if nul ∈ s then .error .nulInString else .ok (Quoted.double '\'' s)

end WhereClause
