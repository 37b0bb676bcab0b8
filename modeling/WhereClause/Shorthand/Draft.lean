import WhereClause.Node.Basic
import WhereClause.Shorthand.Comparison

/-!
# Drafts

A draft is an expression of the shorthand as it was read, before its conditions are checked.  The
whole text is read first, so that a fault in its form is told before one in its content.

Main definitions:

* `Draft`: a term as read;
* `sequence`: reads terms with joiners between them;
* `term`: reads a condition or a group, with groups nested at most a given number of levels deep;
* `Draft.build`: the node that a draft stands for, or what is wrong with it.
-/

set_option autoImplicit false

namespace WhereClause.Shorthand

/-- A term as it was read, with the joiner in front of it. -/
inductive Draft where
  | condition (joiner : Joiner) (fields : Text) (op : Operator) (operand : Operand)
  | group (joiner : Joiner) (children : List Draft)

def joiner : Reader Joiner :=
  (keyword "AND" *> pure .and) <|> (keyword "OR" *> pure .or)

def isFieldChar (c : Char) : Bool :=
  isWordChar c || c == '.' || c == ':' || c == '|'

def condition (j : Joiner) : Reader Draft := do
  let fields ← run isFieldChar
  blanks
  let (op, operand) ← comparison
  return .condition j fields op operand

/-- Reads a sequence of terms.  The first has nothing before it and counts as joined with AND. -/
def sequence (term : Joiner → Reader Draft) : Reader (List Draft) := do
  let first ← term .and
  let others ← Reader.many (do
    blanks
    let j ← joiner
    blanks
    term j)
  return first :: others

def group (j : Joiner) (inner : Reader (List Draft)) : Reader Draft := do
  mark '('
  blanks
  let children ← inner
  blanks
  mark ')'
  return .group j children

/-- Stops for good at an opening bracket. -/
def noGroup : Reader Draft := fun s =>
  match s with
  | '(' :: _ => .tooDeep s
  | _ => .unmatched .mark s

/-- Reads a term, with at most `levels` groups inside each other. -/
def term (levels : Nat) (j : Joiner) : Reader Draft :=
  match levels with
  | 0 => noGroup <|> condition j
  | levels + 1 => group j (sequence (term levels)) <|> condition j

namespace Draft

mutual

/-- The node that the draft stands for. -/
def build : Draft → Except BuildError Node
  | condition j fields op operand => Node.ofParts fields op operand j
  | group j children => do
    let nodes ← buildAll children
    Node.enclose nodes j

/-- The nodes that the drafts stand for, or the first fault among them. -/
def buildAll : List Draft → Except BuildError (List Node)
  | [] => return []
  | draft :: drafts => do
    let node ← build draft
    let nodes ← buildAll drafts
    return node :: nodes

end

end Draft

end WhereClause.Shorthand
