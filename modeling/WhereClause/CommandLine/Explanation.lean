import WhereClause.Node.Basic

/-!
# Explanations

The tree of nodes as an indented outline, one line for a condition and two for a group.

Main definitions:

* `Operand.outline`, `Condition.outline`: a right-hand side and a condition as they are shown;
* `Node.outline`: the lines of a sequence of nodes.
-/

set_option autoImplicit false

namespace WhereClause

def Operand.outline : Operand → Text
  | .none => []
  | .scalar v => v.display
  | .range low high => low.display ++ " .. " ++ high.display
  | .list values => '[' :: (Text.joinWith ", " (values.map Value.display) ++ "]")
  | .subquery query => "<subquery> " ++ query

def Condition.outline (c : Condition) : Text :=
  Text.joinWith " | " (c.columns.map Column.text) ++ ' ' :: c.operator.symbol ++ ' ' ::
    c.operand.outline

namespace Node

/-- What stands before a node: its joiner, or as many spaces for the first of a sequence. -/
def margin (first : Bool) (node : Node) : Text :=
  Text.padEnd 4 (if first then [] else node.joiner.keyword)

def indent (depth : Nat) : Text :=
  List.replicate (2 * depth) ' '

mutual

/-- The lines of a node at a level; `first` tells whether it begins its sequence. -/
def outline (depth : Nat) (first : Bool) : Node → List Text
  | condition j c => [indent depth ++ margin first (condition j c) ++ ' ' :: c.outline]
  | group j children =>
    (indent depth ++ margin first (group j children) ++ " ( group") ::
      (outlineAll (depth + 2) true children ++ [indent depth ++ "     )"])

def outlineAll (depth : Nat) (first : Bool) : List Node → List Text
  | [] => []
  | node :: nodes => outline depth first node ++ outlineAll depth false nodes

end

end Node

end WhereClause
