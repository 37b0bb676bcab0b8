import WhereClause.Shorthand.Draft

/-!
# The shorthand

A filter on one line, such as `(name = 'a' OR name = 'b') AND integer:code|ref >= 100`.

Main definitions:

* `ParseFault`, `ParseFault.message`, `ParseError`: what may be wrong with a text;
* `parse`: the nodes that a text stands for.

A fault in the form of the text is told with its position, in bytes from the start of the text.
-/

set_option autoImplicit false

namespace WhereClause.Shorthand

/-- What is wrong with the form of a text, and the text that follows the place. -/
inductive ParseFault where
  | trailing (rest : Text)
  | tooDeep
  | unmatched (rest : Text) (expected : Expected)
deriving DecidableEq

/-- Why a text stands for no nodes. -/
inductive ParseError where
  | malformed (position : Nat) (fault : ParseFault)
  | invalid (e : BuildError)
  /-- A keyword ends inside a character, at which no text can be cut. -/
  | insideChar
deriving DecidableEq

/-- The number of groups that may lie inside each other. -/
def maxDepth : Nat := 128

def ParseFault.message : ParseFault → Text
  | trailing rest => "Unexpected trailing content: '" ++ rest ++ "'"
  | tooDeep => "Groups nested deeper than " ++ Numeral.ofNat maxDepth ++ " levels"
  | unmatched rest expected => "Parse failed near '" ++ rest ++ "' (" ++ expected.code ++ ")"

/-- The error for a fault in `s` in front of `rest`, which `s` ends with but for white space. -/
def malformed (s rest : Text) (fault : ParseFault) : ParseError :=
  .malformed (Text.byteLength (Text.trimEnd s) - Text.byteLength rest) fault

/-- The nodes that a text stands for; there are none in a blank text. -/
def parse (s : Text) : Except ParseError (List Node) :=
  let trimmed := Text.trim s
  if trimmed = [] then .ok []
  else
    match sequence (term maxDepth) trimmed with
    | .done drafts rest =>
      match Text.trimStart rest with
      | [] => (Draft.buildAll drafts).mapError .invalid
      | c :: rest => .error (malformed s (c :: rest) (.trailing (c :: rest)))
    | .unmatched expected rest => .error (malformed s rest (.unmatched rest expected))
    | .tooDeep rest => .error (malformed s rest .tooDeep)
    | .insideChar => .error .insideChar

end WhereClause.Shorthand
