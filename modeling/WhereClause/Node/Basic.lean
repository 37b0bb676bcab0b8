import WhereClause.Condition

/-!
# Nodes

A node is a condition or a group of nodes, with the joiner that connects it to the node before
it.  A filter is a sequence of nodes.

Main definitions:

* `Node`, `Node.joiner`, `Node.withJoiner`;
* `Node.ofParts`, `Node.ofSymbol`: a node that holds a condition;
* `Node.enclose`: a node that holds a group, which must not be empty;
* `Node.equal`: equality of what is meant.
-/

set_option autoImplicit false

namespace WhereClause

/-- A condition or a group, with the joiner that connects it to the node before it. -/
inductive Node where
  | condition (joiner : Joiner) (c : Condition)
  | group (joiner : Joiner) (children : List Node)

namespace Node

def joiner : Node → Joiner
  | condition j _ => j
  | group j _ => j

def withJoiner (j : Joiner) : Node → Node
  | condition _ c => condition j c
  | group _ children => group j children

@[simp] theorem joiner_withJoiner (j : Joiner) (node : Node) : (node.withJoiner j).joiner = j := by
  cases node <;> rfl

/-- A node that holds the condition with the given parts. -/
def ofParts (fields : Text) (op : Operator) (operand : Operand) (j : Joiner) :
    Except BuildError Node :=
  (Condition.ofParts fields op operand).map (condition j)

/-- A node that holds a condition whose operator is given as text. -/
def ofSymbol (fields : Text) (operand : Operand) (symbol : Text) (j : Joiner) :
    Except BuildError Node :=
  match Operator.ofText? symbol with
  | some op => ofParts fields op operand j
  | none => .error (.unknownOperator symbol)

/-- A node that holds the given nodes as a group. -/
def enclose (children : List Node) (j : Joiner) : Except BuildError Node :=
  if children.isEmpty then .error .emptyGroup else .ok (group j children)

mutual

/-- Equality of what is meant, by recursion on the tree. -/
def equal : Node → Node → Bool
  | condition j c, condition k d => j == k && c.equal d
  | group j children, group k others => j == k && equalAll children others
  | _, _ => false

def equalAll : List Node → List Node → Bool
  | [], [] => true
  | node :: nodes, other :: others => equal node other && equalAll nodes others
  | _, _ => false

end

end Node

end WhereClause
