import WhereClause.Number.Binary64

/-!
# Decimal numbers by floating point arithmetic

The number nearest to a decimal one takes arithmetic on long numbers.  JSON is read without it: the
leading digits that fit 64 bits are kept, and the number nearest to them is multiplied with a power
of ten or divided by one.  Each of these steps rounds.  What comes out may be a neighbour of the
nearest number, and next to the largest numbers there is none at all.

Main definitions:

* `Magnitude.times?`, `Magnitude.over?`: products and quotients;
* `Magnitude.powerOfTen`: the powers of ten from `1` to `10 ^ 308`;
* `Magnitude.scale?`: a magnitude times a power of ten;
* `Numeral.accumulate`: the digits that fit 64 bits;
* `Magnitude.ofNumerals?`: the magnitude of digits with a point and an exponent.

Main statements:

* `Magnitude.isSome_powerOfTen`: no power in the table is beyond the largest number.
-/

set_option autoImplicit false

namespace WhereClause

namespace Magnitude

def units (m : Magnitude) : Nat :=
  m.significand * Nat.pow 2 m.shift

def unitsOfOne : Nat := Nat.pow 2 1074

/-- The product, a tie going to the even significand, or `none` beyond the largest. -/
def times? (m n : Magnitude) : Option Magnitude :=
  ofRatio? (m.units * n.units) (unitsOfOne * unitsOfOne)

/-- The quotient, a tie going to the even significand, or `none` beyond the largest. -/
def over? (m n : Magnitude) : Option Magnitude :=
  ofRatio? m.units n.units

theorem isSome_powerOfTen (n : Fin 309) : (ofDecimal? ⟨1, (n : Nat)⟩).isSome = true := by
  rcases Nat.lt_or_ge n 308 with hlt | hge
  · unfold ofDecimal?
    dsimp only
    rw [if_neg (by decide), if_neg (by omega), if_neg (by omega)]
    have hneg : (-((n : Nat) : Int)).toNat = 0 := by omega
    rw [hneg, Int.toNat_natCast, Nat.one_mul]
    refine isSome_ofRatio? (Nat.pow_pos (by decide)) ?_
    refine Nat.lt_of_le_of_lt (Nat.pow_le_pow_right (by decide) (Nat.le_of_lt_succ hlt)) ?_
    decide +kernel
  · -- the last power is above `2 ^ 1023`
    obtain rfl : n = 308 := Fin.ext (by omega)
    decide +kernel

def powerOfTen (n : Fin 309) : Magnitude :=
  (ofDecimal? ⟨1, (n : Nat)⟩).get (isSome_powerOfTen n)

/-- The magnitude times `10 ^ exponent`, or `none` beyond the largest.  Below the table of powers
the magnitude is divided by the last power of it first. -/
def scale? (m : Magnitude) (exponent : Int) : Option Magnitude :=
  if h : exponent.natAbs < 309 then
    if 0 ≤ exponent then m.times? (powerOfTen ⟨exponent.natAbs, h⟩)
    else m.over? (powerOfTen ⟨exponent.natAbs, h⟩)
  else if m.significand = 0 then some m
  else if 0 ≤ exponent then none
  else (m.over? (powerOfTen 308)).bind fun quotient => scale? quotient (exponent + 308)
termination_by exponent.natAbs
decreasing_by omega

end Magnitude

/-- Reads digits behind the number `n` as long as the result is below `2 ^ 64`.  The digits that are
left follow the result. -/
def Numeral.accumulate (n : Nat) : Text → Nat × Text
  | [] => (n, [])
  | c :: s =>
    let next := 10 * n + (c.toNat - '0'.toNat)
    if next < 18446744073709551616 then accumulate next s else (n, c :: s)

/-- The magnitude of the number written as `whole`, a point, `fraction` and a scale by
`10 ^ exponent`, or `none` beyond the largest.  Digits that do not fit count as zeros; a digit of
the fraction may fit again where one in front of the point did not. -/
def Magnitude.ofNumerals? (whole fraction : Text) (exponent : Int) : Option Magnitude := do
  let (n, left) := Numeral.accumulate 0 whole
  let (n, unread) := Numeral.accumulate n fraction
  let m ← ofDecimal? ⟨n, 0⟩
  m.scale? (exponent + left.length - (fraction.length - unread.length : Nat))

end WhereClause
