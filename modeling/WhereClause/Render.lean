import WhereClause.Escaper
import WhereClause.Node.Basic

/-!
# Rendering

Nodes as the text of a WHERE clause, with everything that depends on the dialect left to an
escaper.

Main definitions:

* `Condition.render`, `Node.render`, `Node.joinAll`: a condition, a node, a sequence of nodes;
* `likePattern`: the pattern of LIKE, which matches anywhere if it has no `%` of its own.

Main statements:

* `Node.joinAll_cons`, `Node.renderRest_cons`: a sequence renders node by node, and the joiner of
  its first node is left out.
-/

set_option autoImplicit false

namespace WhereClause

/-- Why a node cannot be rendered. -/
inductive RenderError where
  | escape (e : EscapeError)
  /-- The operand has another shape than the operator `op`.  Conditions that were built have no
  such operand. -/
  | operandMismatch (operand : Operand) (op : Operator)
deriving DecidableEq

def RenderError.message : RenderError → Text
  | escape e => e.message
  | operandMismatch operand op =>
    "operand " ++ operand.inspect ++ " cannot be used with " ++ op.symbol

/-- What an escaper answers, as an answer of rendering. -/
def escaped {α : Type} : Except EscapeError α → Except RenderError α :=
  Except.mapError .escape

/-- The column, in its cast if it has one. -/
def Column.render (e : Escaper) (column : Column) : Except RenderError Text :=
  match column.cast with
  | some kind => escaped (e.cast column.name kind)
  | none => escaped (e.column column.name)

/-- The value as a literal, or the column that it refers to. -/
def Value.render (e : Escaper) (v : Value) : Except RenderError Text :=
  match v.fieldReference? with
  | some identifier => (Column.ofIdentifier identifier).render e
  | none => escaped (e.literal v)

/-- The contents of the pattern for LIKE: a pattern without `%` gets one at both ends. -/
def likePattern (e : Escaper) (v : Value) : Except RenderError Text := do
  let pattern ← escaped (e.string v.plainText)
  return if '%' ∈ v.plainText then pattern else '%' :: (pattern ++ ['%'])

/-- The comparison of one column, whose rendering is `column`. -/
def renderComparison (e : Escaper) (column : Text) :
    Operator → Operand → Except RenderError Text
  | .isNull, _ => .ok (column ++ ' ' :: Operator.isNull.symbol)
  | .isNotNull, _ => .ok (column ++ ' ' :: Operator.isNotNull.symbol)
  | .between, .range low high => do
    let low ← low.render e
    let high ← high.render e
    return column ++ " BETWEEN " ++ low ++ " AND " ++ high
  | .between, operand => .error (.operandMismatch operand .between)
  | .isIn, .subquery query => .ok (column ++ " IN (" ++ query ++ ")")
  | .isIn, .list values => do
    let items ← values.mapM (Value.render e)
    return column ++ " IN (" ++ Text.joinWith ", " items ++ ")"
  | .isIn, operand => .error (.operandMismatch operand .isIn)
  | .like, .scalar v => do
    let pattern ← likePattern e v
    return "LOWER(" ++ column ++ ") LIKE LOWER(" ++ inQuotes pattern ++ ")"
  | .like, operand => .error (.operandMismatch operand .like)
  | op, .scalar v => do
    let v ← v.render e
    return column ++ ' ' :: op.symbol ++ ' ' :: v
  | op, operand => .error (.operandMismatch operand op)

namespace Condition

def renderColumn (e : Escaper) (c : Condition) (column : Column) : Except RenderError Text := do
  let column ← column.render e
  renderComparison e column c.operator c.operand

/-- The condition as SQL.  Several columns become alternatives in brackets. -/
def render (e : Escaper) (c : Condition) : Except RenderError Text := do
  match ← c.columns.mapM (c.renderColumn e) with
  | [comparison] => return comparison
  | comparisons => return '(' :: (Text.joinWith " OR " comparisons ++ ")")

end Condition

namespace Node

mutual

/-- The node as SQL, without its joiner. -/
def render (e : Escaper) : Node → Except RenderError Text
  | condition _ c => c.render e
  | group _ children => do
    let inner ← joinAll e children
    return '(' :: (inner ++ ")")

/-- A sequence of nodes as SQL, each but the first behind its joiner. -/
def joinAll (e : Escaper) : List Node → Except RenderError Text
  | [] => return []
  | node :: nodes => do
    let first ← render e node
    let rest ← renderRest e nodes
    return first ++ rest

/-- The nodes of a sequence after its first, each behind its joiner. -/
def renderRest (e : Escaper) : List Node → Except RenderError Text
  | [] => return []
  | node :: nodes => do
    let next ← render e node
    let rest ← renderRest e nodes
    return ' ' :: node.joiner.keyword ++ ' ' :: next ++ rest

end

theorem joinAll_cons (e : Escaper) (node : Node) (nodes : List Node) :
    joinAll e (node :: nodes) = (do
      let first ← render e node
      let rest ← renderRest e nodes
      return first ++ rest) := by
  rw [joinAll]

theorem renderRest_cons (e : Escaper) (node : Node) (nodes : List Node) :
    renderRest e (node :: nodes) = (do
      let next ← render e node
      let rest ← renderRest e nodes
      return ' ' :: node.joiner.keyword ++ ' ' :: next ++ rest) := by
  rw [renderRest]

end Node

end WhereClause
