import WhereClause.Number.Shortest

/-!
# Floating point numbers as text

Layouts of the shortest digits.  SQL and messages write every number positionally and leave a whole
number without a point.  JSON always writes a point or an exponent, so that a number keeps its kind
when it is read again, and goes over to an exponent far away from one.  So does a number that is
inspected, but nearer to one and without a plus sign.

Main definitions:

* `Decimal.positional`: a decimal number without an exponent;
* `Decimal.pointed`: a decimal number with a point or an exponent;
* `Binary64.plainText`: the layout of SQL and messages;
* `Binary64.jsonText?`: the layout of JSON, which has no text for infinities and NaN;
* `Binary64.inspect`: the layout in which a number can be told from a whole one.
-/

set_option autoImplicit false

namespace WhereClause

namespace Decimal

/-- The number written without an exponent. -/
def positional (d : Decimal) : Text :=
  let digits := Numeral.ofNat d.digits
  let places := (-d.exponent).toNat
  if 0 ≤ d.exponent then digits ++ List.replicate d.exponent.toNat '0'
  else if places < digits.length then
    digits.take (digits.length - places) ++ '.' :: digits.drop (digits.length - places)
  else '0' :: '.' :: (List.replicate (places - digits.length) '0' ++ digits)

/-- The exponent of the first digit. -/
def order (d : Decimal) : Int :=
  d.exponent + (Numeral.ofNat d.digits).length - 1

/-- The number written with one digit before the point and an exponent, which stands behind a minus
sign or behind `plus`. -/
def scientific (plus : Text) (d : Decimal) : Text :=
  let exponent := (if d.order < 0 then ['-'] else plus) ++ Numeral.ofNat d.order.natAbs
  match Numeral.ofNat d.digits with
  | first :: second :: digits => first :: '.' :: second :: digits ++ 'e' :: exponent
  | digits => digits ++ 'e' :: exponent

/-- The number with a point or an exponent in it: positional for orders from `least` to 15, and with
an exponent elsewhere. -/
def pointed (least : Int) (plus : Text) (d : Decimal) : Text :=
  if least ≤ d.order ∧ d.order ≤ 15 then
    if 0 ≤ d.exponent then d.positional ++ ".0" else d.positional
  else d.scientific plus

end Decimal

namespace Binary64

/-- The text with a minus sign in front if `negative` holds. -/
def withSign (negative : Bool) (s : Text) : Text :=
  if negative then '-' :: s else s

theorem withSign_append (negative : Bool) (s t : Text) :
    withSign negative (s ++ t) = withSign negative s ++ t := by
  cases negative <;> rfl

/-- The text of a number in SQL and in messages. -/
def plainText : Binary64 → Text
  | nan => "NaN"
  | infinite negative => withSign negative "inf"
  | finite negative m => withSign negative (m.shortest .up).positional

def jsonText? : Binary64 → Option Text
  | finite negative m => some (withSign negative ((m.shortest .even).pointed (-5) ['+']))
  | _ => none

def inspect : Binary64 → Text
  | nan => "NaN"
  | infinite negative => withSign negative "inf"
  | finite negative m => withSign negative ((m.shortest .up).pointed (-4) [])

end Binary64

end WhereClause
