import WhereClause.Calendar
import WhereClause.Number.Layout
import WhereClause.Text.Printable
import WhereClause.Text.Quoted

/-!
# Values and operands

A value is a scalar that a column is compared with; an operand is the whole right-hand side of a
comparison.

Main definitions:

* `Value`, `Operand`;
* `Value.display`: the value as messages and explanations show it, with text in quotes;
* `Value.plainText`: the value without quotes;
* `Value.inspect`, `Operand.inspect`: what is meant, with the kind of every value;
* `Value.fieldReference?`: the column that a text value beginning with `field:` refers to;
* `Value.equal`, `Operand.equal`: equality of what is meant, in which floating point numbers
  compare as numbers.
-/

set_option autoImplicit false

namespace WhereClause

inductive Value where
  | null
  | bool (b : Bool)
  | int (n : Int64)
  | float (x : Binary64)
  | string (s : Text)
  | date (d : Date)
  | dateTime (t : DateTime)
deriving DecidableEq

/-- The right-hand side of a comparison. -/
inductive Operand where
  | none
  | scalar (v : Value)
  | range (low high : Value)
  | list (values : List Value)
  /-- A query in SQL, taken word for word. -/
  | subquery (query : Text)
deriving DecidableEq

/-- The whole number `n` as a value of 64 bits, if it is in range. -/
def int64OfInt? (n : Int) : Option Int64 :=
  if -9223372036854775808 ≤ n ∧ n < 9223372036854775808 then some (Int64.ofInt n) else none

theorem int64OfInt?_toInt (n : Int64) : int64OfInt? n.toInt = some n := by
  simp only [int64OfInt?]
  rw [if_pos ⟨n.le_toInt, n.toInt_lt⟩, Int64.ofInt_toInt]

theorem toInt_of_int64OfInt? {n : Int} {k : Int64} (h : int64OfInt? n = some k) :
    k.toInt = n := by
  simp only [int64OfInt?] at h
  split at h
  · rename_i hn
    obtain rfl := Option.some.inj h
    exact Int64.toInt_ofInt_of_le hn.1 hn.2
  · contradiction

namespace Value

/-- What a text value begins with when it refers to a column. -/
def fieldMark : Text := "field:"

/-- The identifier of the column that the value refers to, if it is such a reference. -/
def fieldReference? : Value → Option Text
  | string s => Text.dropStart? fieldMark s
  | _ => Option.none

/-- The value as messages show it: text stands in single quotes. -/
def display : Value → Text
  | null => "NULL"
  | bool true => "true"
  | bool false => "false"
  | int n => Numeral.ofInt n.toInt
  | float x => x.plainText
  | string s => Quoted.write '\'' s
  | date d => d.text
  | dateTime t => t.text

/-- The value without any quotes. -/
def plainText : Value → Text
  | string s => s
  | v => v.display

/-- Equality of what is meant: as `=`, save that floating point numbers compare as numbers. -/
def equal : Value → Value → Bool
  | float x, float y => x.equal y
  | v, w => v == w

/-- The kind of a value or an operand, and what it holds in brackets. -/
def inspectAs (kind contents : Text) : Text :=
  kind ++ '(' :: (contents ++ [')'])

def inspect : Value → Text
  | null => "Null"
  | bool b => inspectAs "Bool" (if b then "true" else "false")
  | int n => inspectAs "Int" (Numeral.ofInt n.toInt)
  | float x => inspectAs "Float" x.inspect
  | string s => inspectAs "String" (Text.inspect s)
  | date d => inspectAs "Date" d.text
  | dateTime t => inspectAs "DateTime" t.isoText

end Value

namespace Operand

def inspect : Operand → Text
  | none => "None"
  | scalar v => Value.inspectAs "Scalar" v.inspect
  | range low high => Value.inspectAs "Range" (low.inspect ++ ", " ++ high.inspect)
  | list values =>
    Value.inspectAs "List" ('[' :: (Text.joinWith ", " (values.map Value.inspect) ++ [']']))
  | subquery query => Value.inspectAs "Subquery" (Text.inspect query)

/-- Equality of operands, value by value. -/
def equal : Operand → Operand → Bool
  | scalar v, scalar w => v.equal w
  | range a b, range c d => a.equal c && b.equal d
  | list vs, list ws => vs.length == ws.length && (vs.zip ws).all fun (v, w) => v.equal w
  | a, b => a == b

end Operand

end WhereClause
