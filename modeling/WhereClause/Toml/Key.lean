import WhereClause.Toml.Strings

/-!
# TOML keys

A key is a list of parts with dots between them.  A part is a bare word or a string on one line.

Main definitions:

* `maxDepth`: the greatest number of parts of a key;
* `readKey`: a key, dotted or not.
-/

set_option autoImplicit false

namespace WhereClause.Toml

/-- The number of parts that a key may have, and of levels that arrays and tables may be
nested. -/
def maxDepth : Nat := 79

def isKeyChar (c : Char) : Bool :=
  c.isAlphanum || c == '-' || c == '_'

def readKeyPart : Text → Option (Text × Text)
  | '"' :: s => readBasic s
  | '\'' :: s => readLiteral s
  | s =>
    match s.takeWhile isKeyChar with
    | [] => none
    | part => some (part, s.dropWhile isKeyChar)

def readKeyParts (s : Text) : Option (List Text × Text) :=
  match readKeyPart s with
  | none => none
  | some (part, rest) =>
    match skipBlanks rest with
    | '.' :: rest =>
      if (skipBlanks rest).length < s.length then
        (readKeyParts (skipBlanks rest)).map fun (parts, rest) => (part :: parts, rest)
      else none
    | rest => some ([part], rest)
termination_by s.length

def readKey (s : Text) : Option (List Text × Text) := do
  let (parts, rest) ← readKeyParts s
  if parts.length ≤ maxDepth then some (parts, rest) else none

end WhereClause.Toml
