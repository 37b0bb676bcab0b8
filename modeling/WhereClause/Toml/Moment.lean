import WhereClause.Calendar

/-!
# Dates and times in TOML

A moment is a day, a time of day, or a day with a time and perhaps its offset.  No setting is a
moment, so they are checked and not kept: every function here returns the text behind what it
names.

Main definitions:

* `dropDay?`, `dropTime?`: the two parts of a moment;
* `dropMoment?`: the whole.
-/

set_option autoImplicit false

namespace WhereClause.Toml

def dropDay? : Text → Option Text
  | a :: b :: c :: d :: '-' :: e :: f :: '-' :: g :: h :: s =>
    if [a, b, c, d, e, f, g, h].all Char.isDigit
        && (Date.ofYmd? (Numeral.toNat [a, b, c, d]) (Numeral.toNat [e, f])
          (Numeral.toNat [g, h])).isSome
    then some s else none
  | _ => none

/-- The text behind the fraction of a second, which may be missing. -/
def dropFraction : Text → Text
  | '.' :: c :: s => if c.isDigit then s.dropWhile Char.isDigit else '.' :: c :: s
  | s => s

/-- The text behind a time of day, in which a minute may have a second 60. -/
def dropTime? : Text → Option Text
  | a :: b :: ':' :: c :: d :: ':' :: e :: f :: s =>
    if [a, b, c, d, e, f].all Char.isDigit && Numeral.toNat [a, b] < 24
        && Numeral.toNat [c, d] < 60 && Numeral.toNat [e, f] ≤ 60
    then some (dropFraction s) else none
  | _ => none

/-- The text behind an offset from universal time, which may be missing. -/
def dropOffset : Text → Text
  | 'Z' :: s => s
  | 'z' :: s => s
  | sign :: a :: b :: ':' :: c :: d :: s =>
    if (sign == '+' || sign == '-') && [a, b, c, d].all Char.isDigit
        && Numeral.toNat [a, b] < 24 && Numeral.toNat [c, d] < 60
    then s else sign :: a :: b :: ':' :: c :: d :: s
  | s => s

/-- The text behind the time that may follow a day, after a `T` or a space. -/
def dropTimeOfDay : Text → Text
  | c :: s =>
    if c == 'T' || c == 't' || c == ' ' then
      match dropTime? s with
      | some rest => dropOffset rest
      | none => c :: s
    else c :: s
  | [] => []

def dropMoment? (s : Text) : Option Text :=
  match dropDay? s with
  | some rest => some (dropTimeOfDay rest)
  | none => dropTime? s

end WhereClause.Toml
