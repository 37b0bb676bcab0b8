import WhereClause.Text.Basic

/-!
# Operators and joiners

The eleven comparison operators, and the two keywords that connect a condition to the one before
it.

Main definitions:

* `Operator`, `Operator.all`, `Operator.symbol`;
* `Operator.ofText?`: reads a symbol, in any case and with any white space around its words;
* `Joiner`, `Joiner.keyword`.

Main statements:

* `Operator.ofText?_symbol`: every symbol is read as its operator.
-/

set_option autoImplicit false

namespace WhereClause

inductive Operator where
  | equal
  | notEqual
  | greater
  | less
  | greaterOrEqual
  | lessOrEqual
  | between
  | isIn
  | like
  | isNull
  | isNotNull
deriving DecidableEq, Repr

namespace Operator

def all : List Operator :=
  [equal, notEqual, greater, less, greaterOrEqual, lessOrEqual, between, isIn, like, isNull,
    isNotNull]

/-- The operator in SQL. -/
def symbol : Operator → Text
  | equal => "="
  | notEqual => "!="
  | greater => ">"
  | less => "<"
  | greaterOrEqual => ">="
  | lessOrEqual => "<="
  | between => "BETWEEN"
  | isIn => "IN"
  | like => "LIKE"
  | isNull => "IS NULL"
  | isNotNull => "IS NOT NULL"

/-- Holds of the two operators that have no right-hand side. -/
def isNullCheck : Operator → Bool
  | isNull | isNotNull => true
  | _ => false

/-- The operator with the given symbol, where case and the amount of white space do not count. -/
def ofText? (s : Text) : Option Operator :=
  let written := Text.toUpper (Text.joinWith " " (Text.words s))
  all.find? fun op => op.symbol == written

/-- Every symbol is read as its operator. -/
theorem ofText?_symbol (op : Operator) : ofText? op.symbol = some op := by
  cases op <;> decide

end Operator

/-- The keyword that connects a condition to the one before it. -/
inductive Joiner where
  | and
  | or
deriving DecidableEq, Repr

namespace Joiner

def all : List Joiner := [and, or]

/-- The joiner in SQL. -/
def keyword : Joiner → Text
  | and => "AND"
  | or => "OR"

def ofKeyword? (s : Text) : Option Joiner :=
  all.find? fun j => j.keyword == s

@[simp] theorem ofKeyword?_keyword (j : Joiner) : ofKeyword? j.keyword = some j := by
  cases j <;> decide

end Joiner

end WhereClause
