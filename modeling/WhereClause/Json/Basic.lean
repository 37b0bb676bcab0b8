import WhereClause.Number.Binary64
import WhereClause.Text.Basic

/-!
# JSON values

Whole numbers are kept apart from other numbers, and an object keeps its members in the order in
which they were written, repeated keys included.
-/

set_option autoImplicit false

namespace WhereClause

inductive Json where
  | null
  | bool (b : Bool)
  /-- A number without point and exponent that fits 64 bits, signed or unsigned. -/
  | int (n : Int)
  /-- Any other number. -/
  | float (x : Binary64)
  | string (s : Text)
  | array (items : List Json)
  | object (members : List (Text × Json))

end WhereClause
