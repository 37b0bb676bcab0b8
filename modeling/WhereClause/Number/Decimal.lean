import WhereClause.Text.Basic

/-!
# Decimal numbers

Numerals in base ten, and the decimal numbers `digits * 10 ^ exponent` they are built from.

Main definitions:

* `Numeral.ofNat`, `Numeral.ofInt`: the numeral of a number, without leading zeros;
* `Numeral.toNat`: the number that a run of digits stands for;
* `Numeral.ofHex?`: the number that hexadecimal digits stand for;
* `Numeral.span`: the longest run of digits at the start of a text, and the rest;
* `Decimal`: an unsigned decimal number; `Decimal.normalize` leaves no zero at its end.

Main statements:

* `Numeral.toNat_ofNat`: a numeral stands for the number it was made from.
-/

set_option autoImplicit false

namespace WhereClause

namespace Numeral

def ofNat (n : Nat) : Text :=
  Nat.toDigits 10 n

/-- The numeral of an integer, with a minus sign in front if it is negative. -/
def ofInt (n : Int) : Text :=
  if n < 0 then '-' :: ofNat n.natAbs else ofNat n.natAbs

/-- The number that a run of digits stands for. -/
def toNat (digits : Text) : Nat :=
  Nat.ofDigitChars 10 digits 0

/-- The longest run of digits at the start of a text, and what follows it. -/
def span (s : Text) : Text × Text :=
  (s.takeWhile Char.isDigit, s.dropWhile Char.isDigit)

def hexDigit? (c : Char) : Option Nat :=
  if c.isDigit then some (c.toNat - '0'.toNat)
  else if 'a' ≤ c ∧ c ≤ 'f' then some (c.toNat - 'a'.toNat + 10)
  else if 'A' ≤ c ∧ c ≤ 'F' then some (c.toNat - 'A'.toNat + 10)
  else none

def ofHex? (digits : Text) : Option Nat :=
  (digits.mapM hexDigit?).map fun values => values.foldl (fun n d => n * 16 + d) 0

@[simp] theorem toNat_ofNat (n : Nat) : toNat (ofNat n) = n :=
  Nat.ofDigitChars_toDigits (by decide) (by decide)

theorem isDigit_of_mem_ofNat {n : Nat} {c : Char} (h : c ∈ ofNat n) : c.isDigit = true :=
  Nat.isDigit_of_mem_toDigits (by decide) (by decide) h

theorem ofNat_ne_nil (n : Nat) : ofNat n ≠ [] :=
  List.ne_nil_of_length_pos Nat.length_toDigits_pos

/-- Nothing is lost between the run and the rest. -/
theorem span_append (s : Text) : (span s).1 ++ (span s).2 = s := by
  simp [span]

theorem isDigit_of_mem_span {s : Text} {c : Char} (h : c ∈ (span s).1) : c.isDigit = true := by
  have := List.all_takeWhile (p := Char.isDigit) (l := s)
  exact List.all_eq_true.1 this c h

end Numeral

/-- The unsigned decimal number `digits * 10 ^ exponent`. -/
structure Decimal where
  digits : Nat
  exponent : Int
deriving DecidableEq, Repr

namespace Decimal

/-- The number written as `whole`, a point, `fraction` and a scale by `10 ^ exponent`. -/
def ofNumerals (whole fraction : Text) (exponent : Int) : Decimal where
  digits := Numeral.toNat (whole ++ fraction)
  exponent := exponent - fraction.length

/-- The same number without zeros at the end of its digits; zero has the exponent zero. -/
def normalize (d : Decimal) : Decimal :=
  if _h : d.digits = 0 then ⟨0, 0⟩
  else if d.digits % 10 = 0 then normalize ⟨d.digits / 10, d.exponent + 1⟩
  else d
termination_by d.digits
decreasing_by exact Nat.div_lt_self (Nat.pos_of_ne_zero _h) (by decide)

end Decimal

end WhereClause
