import WhereClause.Json.Writer
import WhereClause.Node.Basic

/-!
# Saving nodes

Nodes as JSON values, in the form in which documents are read.

Main definitions:

* `Value.toJson`, `Condition.toJson`, `Node.toJson`;
* `Node.save`: a sequence of nodes as the text of a document.
-/

set_option autoImplicit false

namespace WhereClause

/-- The value in JSON; days and times become texts. -/
def Value.toJson : Value → Json
  | .null => .null
  | .bool b => .bool b
  | .int n => .int n.toInt
  | .float x => .float x
  | .string s => .string s
  | .date d => .string d.text
  | .dateTime t => .string t.isoText

/-- The members of a condition's object that hold the operand. -/
def Operand.toMembers : Operand → List (Text × Json)
  | .none => []
  | .scalar v => [("value", v.toJson)]
  | .range low high => [("value", .array [low.toJson, high.toJson])]
  | .list values => [("value", .array (values.map Value.toJson))]
  | .subquery query => [("subquery", .string query)]

def Joiner.toMember (j : Joiner) : Text × Json :=
  ("joiner", .string j.keyword)

/-- The object of a condition joined by `j`. -/
def Condition.toJson (j : Joiner) (c : Condition) : Json :=
  .object (("fields", .string c.fields) :: ("operator", .string c.operator.symbol) ::
    (c.operand.toMembers ++ [j.toMember]))

namespace Node

mutual

def toJson : Node → Json
  | condition j c => c.toJson j
  | group j children => .object [j.toMember, ("group", .array (toJsonAll children))]

def toJsonAll : List Node → List Json
  | [] => []
  | node :: nodes => toJson node :: toJsonAll nodes

end

/-- A sequence of nodes as the text of a document. -/
def save (nodes : List Node) : Text :=
  (Json.array (toJsonAll nodes)).compact

end Node

end WhereClause
