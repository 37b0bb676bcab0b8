import WhereClause.Number.Binary64

/-!
# Shortest decimal forms

The text of a floating point number is built from the decimal number with the fewest digits that
reads back as the same magnitude; of several such decimals, the nearest one.

For each count of digits the two neighbours of the exact value on that decimal grid are tried, the
nearer one first, and the first that reads back is taken.  Seventeen digits always suffice; the
exact decimal value stands behind them all the same, so that the result reads back without
appeal to that bound.

Main definitions:

* `Tie`: which of two equally near neighbours goes first;
* `Magnitude.shortest`: the decimal number.

Main statements:

* `Magnitude.ofDecimal?_nearest?`: what is found at any count of digits reads back.
-/

set_option autoImplicit false

namespace WhereClause

/-- How a tie between the two decimal neighbours of a value is broken. -/
inductive Tie where
  /-- The larger neighbour goes first. -/
  | up
  /-- The neighbour with the even last digit goes first. -/
  | even
deriving DecidableEq, Repr

/-- The two neighbours of `value` on the grid of multiples of `unit`, in units, the nearer one
first. -/
def Tie.neighbours (tie : Tie) (value unit : Nat) : List Nat :=
  let below := value / unit
  let excess := 2 * (value % unit)
  let belowFirst := excess < unit ∨ (excess = unit ∧ tie = .even ∧ below % 2 = 0)
  if belowFirst then [below, below + 1] else [below + 1, below]

namespace Magnitude

/-- The neighbour of `m` that leaves out the last `dropped` digits of its exact value and reads back
as `m`, if there is one. -/
def nearest? (tie : Tie) (m : Magnitude) (dropped : Nat) : Option Decimal :=
  let value := m.toDecimal
  let candidates := (tie.neighbours value.digits (Nat.pow 10 dropped)).map fun digits =>
    Decimal.normalize ⟨digits, value.exponent + dropped⟩
  candidates.find? fun d => ofDecimal? d == some m

/-- The decimal number with the fewest digits that reads back as `m`. -/
def shortest (tie : Tie) (m : Magnitude) : Decimal :=
  let size := (Numeral.ofNat m.toDecimal.digits).length
  ((List.range' 1 17).findSome? fun count => nearest? tie m (size - count)).getD m.toDecimal

theorem ofDecimal?_nearest? {tie : Tie} {m : Magnitude} {dropped : Nat} {d : Decimal}
    (h : nearest? tie m dropped = some d) : ofDecimal? d = some m := by
  have := List.find?_some h
  simpa using this

end Magnitude

end WhereClause
