import WhereClause.Column
import WhereClause.Operator
import WhereClause.Value

/-!
# Conditions

A condition compares one or more columns with an operand.  Whatever operand it is built from, a
condition holds it in the one shape that its operator has: two bounds, a list of alternatives or a
query, a single value, or nothing.

Main definitions:

* `Condition`: the list of columns as given and as read, the operator and the operand;
* `isSubquery`: tells the text of a query from other text;
* `Operand.fit`: brings an operand into the shape of an operator, or says why it does not fit;
* `Condition.ofParts`: builds a condition.
-/

set_option autoImplicit false

namespace WhereClause

/-- One or more columns, an operator and an operand. -/
structure Condition where
  /-- The list of columns as given. -/
  fields : Text
  /-- The columns it names. -/
  columns : List Column
  operator : Operator
  /-- The operand, in the shape of the operator. -/
  operand : Operand
deriving DecidableEq

/-- Why a condition or a group is refused. -/
inductive BuildError where
  | columns (e : ColumnError)
  | unknownOperator (symbol : Text)
  /-- The operand of BETWEEN is neither a range nor a list. -/
  | boundsMissing
  /-- The operand of BETWEEN is a list of another length than two. -/
  | boundsCount (n : Nat)
  | noAlternative
  | blankSubquery
  | noPattern
  | notOnePattern
  | notOneValue (op : Operator)
  /-- A stored condition gives its operand in two ways. -/
  | valueAndSubquery (fields : Text)
  | emptyGroup
deriving DecidableEq, Repr

def BuildError.message : BuildError → Text
  | columns e => e.message
  | unknownOperator symbol => "unknown operator '" ++ symbol ++ "'"
  | boundsMissing => "BETWEEN needs exactly two bounds"
  | boundsCount n => "BETWEEN needs exactly two bounds, got " ++ Numeral.ofNat n
  | noAlternative => "IN needs at least one value"
  | blankSubquery => "IN subquery must not be empty"
  | noPattern => "LIKE needs a pattern"
  | notOnePattern => "LIKE needs a single pattern"
  | notOneValue op => "operator " ++ op.symbol ++ " needs a single value"
  | valueAndSubquery fields =>
    "condition on '" ++ fields ++ "' has both a value and a subquery"
  | emptyGroup => "sub-group must contain at least one node"

/-- Holds of a text that, after any white space, begins with SELECT in any case and a white space
character. -/
def isSubquery (s : Text) : Bool :=
  let query := Text.trimStart s
  Text.toLower (query.take 6) == "select".toList && (query[6]?).any isBlank

namespace Operand

/-- The alternatives that a text names, with commas between them. -/
def alternatives (s : Text) : Operand :=
  list ((Text.pieces ',' s).map fun piece => .string (Text.trim piece))

/-- The operand in the shape of BETWEEN: two bounds. -/
def fitBetween : Operand → Except BuildError Operand
  | range low high => .ok (range low high)
  | list [low, high] => .ok (range low high)
  | list values => .error (.boundsCount values.length)
  | _ => .error .boundsMissing

/-- The operand in the shape of IN: a list with a member, or a query. -/
def fitIn : Operand → Except BuildError Operand
  | list [] => .error .noAlternative
  | list (v :: vs) => .ok (list (v :: vs))
  | range low high => .ok (list [low, high])
  | subquery query => if Text.trim query = [] then .error .blankSubquery else .ok (subquery query)
  | scalar (.string s) =>
    if Text.trim s = [] then .error .noAlternative
    else if isSubquery s then .ok (subquery s)
    else .ok (alternatives s)
  | scalar .null => .error .noAlternative
  | scalar v => .ok (list [v])
  | none => .error .noAlternative

/-- The operand in the shape of LIKE: a value that is there. -/
def fitLike : Operand → Except BuildError Operand
  | scalar .null => .error .noPattern
  | none => .error .noPattern
  | scalar v => .ok (scalar v)
  | _ => .error .notOnePattern

/-- The operand in the shape of the comparison `op`: a value, null if none is given. -/
def fitPlain (op : Operator) : Operand → Except BuildError Operand
  | none => .ok (scalar .null)
  | scalar v => .ok (scalar v)
  | _ => .error (.notOneValue op)

def fit : Operator → Operand → Except BuildError Operand
  | .isNull, _ => .ok none
  | .isNotNull, _ => .ok none
  | .between, operand => fitBetween operand
  | .isIn, operand => fitIn operand
  | .like, operand => fitLike operand
  | op, operand => fitPlain op operand

end Operand

namespace Condition

/-- The condition with the given parts.  A fault in the list of columns is told before one in the
operand. -/
def ofParts (fields : Text) (op : Operator) (operand : Operand) : Except BuildError Condition :=
  match Column.listOfText fields with
  | .error e => .error (.columns e)
  | .ok columns =>
    match operand.fit op with
    | .error e => .error e
    | .ok operand => .ok ⟨fields, columns, op, operand⟩

/-- Equality of what is meant: operands compare value by value. -/
def equal (a b : Condition) : Bool :=
  a.fields == b.fields && a.columns == b.columns && a.operator == b.operator
    && a.operand.equal b.operand

end Condition

end WhereClause
