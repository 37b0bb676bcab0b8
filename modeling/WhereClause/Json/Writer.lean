import WhereClause.Json.Basic
import WhereClause.Number.Layout
import WhereClause.Text.Printable

/-!
# JSON as text

Main definitions:

* `Json.quote`: a text as a JSON string;
* `Json.compact`: a value without any white space;
* `Json.pretty`: a value with one item or member per line, indented by two spaces a level.

Characters beyond ASCII stand for themselves.  A number that is not finite is written as `null`.
-/

set_option autoImplicit false

namespace WhereClause.Json

/-- A character inside a JSON string: the quote, the backslash and control characters are
escaped, by a letter where there is one. -/
def escapeChar (c : Char) : Text :=
  if c = '"' then ['\\', '"']
  else if c = '\\' then ['\\', '\\']
  else if c = '\x08' then ['\\', 'b']
  else if c = '\x0c' then ['\\', 'f']
  else if c = '\n' then ['\\', 'n']
  else if c = '\r' then ['\\', 'r']
  else if c = '\t' then ['\\', 't']
  else if c.toNat < 32 then ['\\', 'u'] ++ Text.padStart '0' 4 (Text.hexNumeral c.toNat)
  else [c]

def escape (s : Text) : Text :=
  s.flatMap escapeChar

def quote (s : Text) : Text :=
  '"' :: (escape s ++ ['"'])

def floatText (x : Binary64) : Text :=
  x.jsonText?.getD "null"

mutual

/-- The value without any white space. -/
def compact : Json → Text
  | null => "null"
  | bool true => "true"
  | bool false => "false"
  | int n => Numeral.ofInt n
  | float x => floatText x
  | string s => quote s
  | array items => '[' :: (compactItems items ++ "]")
  | object members => '\x7b' :: (compactMembers members ++ ['\x7d'])

def compactItems : List Json → Text
  | [] => []
  | [item] => compact item
  | item :: items => compact item ++ ',' :: compactItems items

def compactMembers : List (Text × Json) → Text
  | [] => []
  | [(key, value)] => quote key ++ ':' :: compact value
  | (key, value) :: members => quote key ++ ':' :: compact value ++ ',' :: compactMembers members

end

def lineBreak (level : Nat) : Text :=
  '\n' :: List.replicate (2 * level) ' '

mutual

/-- The value with one item or member per line, at the given level of indentation. -/
def pretty (level : Nat) : Json → Text
  | array (item :: items) =>
    '[' :: (prettyItems (level + 1) (item :: items) ++ lineBreak level ++ "]")
  | object (member :: members) =>
    '\x7b' :: (prettyMembers (level + 1) (member :: members) ++ lineBreak level ++ ['\x7d'])
  | array [] => "[]"
  | object [] => ['\x7b', '\x7d']
  | null => "null"
  | bool true => "true"
  | bool false => "false"
  | int n => Numeral.ofInt n
  | float x => floatText x
  | string s => quote s

def prettyItems (level : Nat) : List Json → Text
  | [] => []
  | [item] => lineBreak level ++ pretty level item
  | item :: items => lineBreak level ++ pretty level item ++ ',' :: prettyItems level items

def prettyMembers (level : Nat) : List (Text × Json) → Text
  | [] => []
  | [(key, value)] => lineBreak level ++ quote key ++ ": " ++ pretty level value
  | (key, value) :: members =>
    lineBreak level ++ quote key ++ ": " ++ pretty level value ++ ',' :: prettyMembers level members

end

end WhereClause.Json
