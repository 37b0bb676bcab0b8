import WhereClause.Condition
import WhereClause.Shorthand.Value

/-!
# Comparisons in the shorthand

What follows the columns of a condition: an operator and its right-hand side.

Main definitions:

* `bracketed?`: the text between two brackets that belong together;
* `nullCheck`, `between`, `membership`, `pattern`, `plainComparison`: the five forms;
* `comparison`: any of them, tried in that order.
-/

set_option autoImplicit false

namespace WhereClause.Shorthand

def nullCheck : Reader (Operator × Operand) := do
  keyword "IS"
  blanks₁
  let negation ← Reader.optional (do keyword "NOT"; blanks₁)
  keyword "NULL"
  return (if negation.isSome then .isNotNull else .isNull, .none)

def between : Reader (Operator × Operand) := do
  keyword "BETWEEN"
  blanks
  let low ← value
  blanks₁
  keyword "AND"
  blanks
  let high ← value
  return (.between, .range low high)

/-- The text up to the bracket that closes `depth` open brackets and one more, and what follows
that bracket.  Brackets in single quotes do not count; `quoted` tells whether a quote is open. -/
def bracketBody? (depth : Nat) (quoted : Bool) : Text → Option (Text × Text)
  | [] => none
  | c :: s =>
    let keep (inner : Option (Text × Text)) := inner.map fun (body, rest) => (c :: body, rest)
    if c = '\'' then keep (bracketBody? depth (!quoted) s)
    else if quoted then keep (bracketBody? depth quoted s)
    else if c = '(' then keep (bracketBody? (depth + 1) quoted s)
    else if c = ')' then
      match depth with
      | 0 => some ([], s)
      | depth + 1 => keep (bracketBody? depth quoted s)
    else keep (bracketBody? depth quoted s)

/-- The text between the bracket at the start and the one that closes it, and what follows. -/
def bracketed? : Text → Option (Text × Text)
  | '(' :: s => bracketBody? 0 false s
  | _ => none

/-- Reads values with commas between them, to the end of the text. -/
def valueList : Reader (List Value) := do
  blanks
  let first ← value
  let others ← Reader.many (do blanks; mark ','; blanks; value)
  blanks
  finish
  return first :: others

/-- The right-hand side of IN inside its brackets: a query, or a list of values. -/
def alternatives (body : Text) : Reader Operand := fun rest =>
  if isSubquery body then .done (.subquery (Text.trim body)) rest
  else
    match valueList body with
    | .done values _ => .done (.list values) rest
    | .unmatched e s => .unmatched e s
    | .tooDeep s => .tooDeep s
    | .insideChar => .insideChar

def membership : Reader (Operator × Operand) := do
  keyword "IN"
  blanks
  let body ← Reader.ofOption .mark bracketed?
  let operand ← alternatives body
  return (.isIn, operand)

def pattern : Reader (Operator × Operand) := do
  keyword "LIKE"
  blanks
  let v ← value
  return (.like, .scalar v)

/-- The symbols of plain comparisons.  One that begins another stands after it. -/
def symbols : List (Text × Operator) :=
  [(">=", .greaterOrEqual), ("<=", .lessOrEqual), ("!=", .notEqual), ("<>", .notEqual),
    (">", .greater), ("<", .less), ("=", .equal)]

/-- The operator whose symbol the text begins with, and what follows it. -/
def symbol? (s : Text) : Option (Operator × Text) :=
  symbols.findSome? fun (symbol, op) => (Text.dropStart? symbol s).map fun rest => (op, rest)

/-- Reads a symbol and the value it compares with. -/
def plainComparison : Reader (Operator × Operand) := do
  let op ← Reader.ofOption .symbol symbol?
  blanks
  let v ← value
  return (op, .scalar v)

def comparison : Reader (Operator × Operand) :=
  nullCheck <|> between <|> membership <|> pattern <|> plainComparison

end WhereClause.Shorthand
