import WhereClause.Document.Basic
import WhereClause.Json.Reader
import WhereClause.Number.Layout
import WhereClause.Text.Printable

/-!
# Loading nodes

A document is a JSON array of nodes.  Its items are read, matched against the shapes of a node and
checked one after the other, so that a node which is refused is told before a fault further on in
the text.

Main definitions:

* `LoadError`, `LoadError.message`: why a text is refused;
* `Document.load`: the nodes in a text.
-/

set_option autoImplicit false

namespace WhereClause

/-- Why no nodes can be loaded from a text. -/
inductive LoadError where
  | fault (f : Json.Fault)
  | notAList (found : Json)
  /-- An item has neither the shape of a group nor that of a condition. -/
  | noMatch
  | invalid (e : BuildError)

/-- The kind of a JSON value, and the value itself if it is a scalar. -/
def Json.describe : Json → Text
  | .null => "null"
  | .bool true => "boolean `true`"
  | .bool false => "boolean `false`"
  | .int n => "integer `" ++ Numeral.ofInt n ++ "`"
  | .float x => "floating point `" ++ x.jsonText?.getD [] ++ "`"
  | .string s => "string " ++ Text.inspect s
  | .array _ => "sequence"
  | .object _ => "map"

/-- The wording of the refusal, without the place in the text.  Of a text that is no JSON it only
tells whether it ends too early. -/
def LoadError.message : LoadError → Text
  | fault .incomplete => "the text ends too early"
  | fault .malformed => "the text is not JSON"
  | notAList found => "invalid type: " ++ found.describe ++ ", expected a sequence"
  | noMatch => "data did not match any variant of untagged enum WhereDocument"
  | invalid e => "Invalid argument: " ++ e.message

namespace Document

def loadItem (item : Json) : Except LoadError Node :=
  match ofJson? item with
  | some document => document.build.mapError .invalid
  | none => .error .noMatch

def load (s : Text) : Except LoadError (List Node) :=
  match Json.skipGap s with
  | [] => .error (.fault .incomplete)
  | c :: s =>
    if c = '[' then do
      let (items, outcome) := Json.readList s
      let nodes ← items.mapM loadItem
      outcome.mapError .fault
      return nodes
    else if c = '\x7b' then .error (.notAList (.object []))
    else
      match Json.readScalar c s with
      | .error f => .error (.fault f)
      | .ok (found, _) => .error (.notAList found)

end Document

end WhereClause
