import WhereClause.Json.Basic
import WhereClause.Node.Basic

/-!
# Documents

A document is a node as it is stored in JSON, before it is checked: an object with the key
`fields` for a condition, and one with the key `group` for a group.

Main definitions:

* `StoredValue`, `Document`: what an object may hold;
* `Document.ofJson?`: the document in a JSON value, if the value has the right shape;
* `Document.build`: the node that a document stands for, or what is wrong with it.

An object that would do for a group is never read as a condition.  A key that the kind of node
does not know is passed over, and one that it knows must not occur twice.
-/

set_option autoImplicit false

namespace WhereClause

/-- The right-hand side stored under the key `value`. -/
inductive StoredValue where
  | scalar (v : Value)
  | list (values : List Value)
deriving DecidableEq

/-- A stored node. -/
inductive Document where
  | group (joiner : Joiner) (members : List Document)
  | condition (joiner : Joiner) (fields symbol : Text) (value : Option StoredValue)
      (subquery : Option Text)

/-! ### The parts of an object -/

def Json.valuesOf (key : Text) (members : List (Text × Json)) : List Json :=
  members.filterMap fun (k, value) => if k = key then some value else none

/-- What `read` makes of the value under a key, or `missing` if there is none; a key must not occur
twice. -/
def Json.field? {α : Type} (key : Text) (missing : Option α) (read : Json → Option α)
    (members : List (Text × Json)) : Option α :=
  match valuesOf key members with
  | [] => missing
  | [value] => read value
  | _ => none

def Json.text? : Json → Option Text
  | .string s => some s
  | _ => none

/-- The joiner in a JSON value: its keyword, or an object with the keyword as its only key and
null under it. -/
def Joiner.ofJson? : Json → Option Joiner
  | .string s => ofKeyword? s
  | .object [(key, .null)] => ofKeyword? key
  | _ => none

/-- The scalar in a JSON value.  A whole number beyond 64 bits with a sign becomes a floating point
number. -/
def Value.ofJson? : Json → Option Value
  | .null => some .null
  | .bool b => some (.bool b)
  | .int n => some (((int64OfInt? n).map Value.int).getD (.float (Binary64.ofInt n)))
  | .float x => some (.float x)
  | .string s => some (.string s)
  | _ => none

/-- The right-hand side in a JSON value; null stands for none. -/
def StoredValue.ofJson? : Json → Option (Option StoredValue)
  | .null => some none
  | .array items => (items.mapM Value.ofJson?).map fun values => some (.list values)
  | value => (Value.ofJson? value).map fun v => some (.scalar v)

/-- The query in a JSON value; null stands for none. -/
def Json.subquery? : Json → Option (Option Text)
  | .null => some none
  | .string s => some (some s)
  | _ => none

namespace Document

/-- The joiner among the members of an object, AND if there is none. -/
def joiner? (members : List (Text × Json)) : Option Joiner :=
  Json.field? "joiner" (some .and) Joiner.ofJson? members

def condition? (members : List (Text × Json)) : Option Document := do
  let fields ← Json.field? "fields" none Json.text? members
  let symbol ← Json.field? "operator" (some "=".toList) Json.text? members
  let value ← Json.field? "value" (some none) StoredValue.ofJson? members
  let subquery ← Json.field? "subquery" (some none) Json.subquery? members
  let joiner ← joiner? members
  return condition joiner fields symbol value subquery

/-- The group that the members of an object make up, given what stands under its keys `group`. -/
def group? (found : List (Option (List Document))) (members : List (Text × Json)) :
    Option Document :=
  match found with
  | [some documents] => (joiner? members).map fun joiner => group joiner documents
  | _ => none

mutual

/-- The document in a JSON value: a group if the value has the shape of one, else a condition. -/
def ofJson? : Json → Option Document
  | .object members => group? (groupsIn members) members <|> condition? members
  | _ => none

/-- What stands under the keys `group` of an object, in order. -/
def groupsIn : List (Text × Json) → List (Option (List Document))
  | [] => []
  | (key, value) :: members =>
    if key = "group".toList then listOfJson? value :: groupsIn members else groupsIn members

def listOfJson? : Json → Option (List Document)
  | .array items => allOfJson? items
  | _ => none

def allOfJson? : List Json → Option (List Document)
  | [] => some []
  | item :: items => do
    let document ← ofJson? item
    let documents ← allOfJson? items
    return document :: documents

end

/-- The operand of a stored condition, which may be given in one way only. -/
def operand (fields : Text) : Option StoredValue → Option Text → Except BuildError Operand
  | some _, some _ => .error (.valueAndSubquery fields)
  | none, some query => .ok (.subquery query)
  | none, none => .ok .none
  | some (.scalar v), none => .ok (.scalar v)
  | some (.list values), none => .ok (.list values)

mutual

/-- The node that the document stands for.  The members of a group are built before the group. -/
def build : Document → Except BuildError Node
  | group joiner members => do
    let nodes ← buildAll members
    Node.enclose nodes joiner
  | condition joiner fields symbol value subquery => do
    let operand ← operand fields value subquery
    Node.ofSymbol fields operand symbol joiner

/-- The nodes that the documents stand for, or the first fault among them. -/
def buildAll : List Document → Except BuildError (List Node)
  | [] => return []
  | document :: documents => do
    let node ← build document
    let nodes ← buildAll documents
    return node :: nodes

end

end Document

end WhereClause
