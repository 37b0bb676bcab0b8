import WhereClause.Number.Decimal

/-!
# Binary floating point numbers of 64 bits

A finite number is a sign and a magnitude, and a magnitude is a significand of at most 53 bits
scaled by a power of two.  The scale is counted from the smallest positive number, so that all
magnitudes are whole multiples of one unit, `2 ^ -1074`.

Main definitions:

* `Magnitude`, `Binary64`: the numbers, each in exactly one form;
* `Magnitude.ofRatio?`: the magnitude nearest to a quotient of naturals, a tie going to the even
  significand, or `none` beyond the largest;
* `Binary64.ofDecimal`: the number nearest to a decimal number;
* `Binary64.equal`: equality of the numbers meant, in which the two zeros agree and no NaN
  equals anything.

Main statements:

* `Magnitude.isSome_ofRatio?`: small quotients are not beyond the largest magnitude.
-/

set_option autoImplicit false

namespace WhereClause

/-- The finite magnitude `significand * 2 ^ shift`, in units of `2 ^ -1074`. -/
structure Magnitude where
  significand : Nat
  /-- The power of two above the unit. -/
  shift : Nat
  /-- The significand has at most 53 bits: it is below `2 ^ 53`. -/
  significand_lt : significand < 9007199254740992
  shift_le : shift ≤ 2045
  /-- Above the smallest scale the significand has all of its 53 bits: it is `2 ^ 52` at least. -/
  normal : shift = 0 ∨ 4503599627370496 ≤ significand
deriving DecidableEq, Repr

/-- A number of the 64-bit binary floating point format. -/
inductive Binary64 where
  | nan
  | infinite (negative : Bool)
  /-- A finite number; zero has a sign too. -/
  | finite (negative : Bool) (magnitude : Magnitude)
deriving DecidableEq, Repr

namespace Magnitude

def zero : Magnitude where
  significand := 0
  shift := 0
  significand_lt := by decide
  shift_le := by decide
  normal := .inl rfl

def ofParts? (significand shift : Nat) : Option Magnitude :=
  if h : significand < 9007199254740992 ∧ shift ≤ 2045 ∧
      (shift = 0 ∨ 4503599627370496 ≤ significand) then
    some ⟨significand, shift, h.1, h.2.1, h.2.2⟩
  else none

/-- The whole number nearest to `num / den`, a tie going to the even one. -/
def roundToEven (num den : Nat) : Nat :=
  let below := num / den
  let excess := 2 * (num % den)
  if excess < den ∨ (excess = den ∧ below % 2 = 0) then below else below + 1

/-- The magnitude nearest to `num / den`, a tie going to the even significand, or `none` if that
is beyond the largest. -/
def ofRatio? (num den : Nat) : Option Magnitude :=
  let units := num * Nat.pow 2 1074
  let shift := Nat.log2 (units / den) - 52
  let significand := roundToEven units (den * Nat.pow 2 shift)
  if significand = 9007199254740992 then ofParts? 4503599627370496 (shift + 1)
  else ofParts? significand shift

/-- The magnitude as a decimal number, digit for digit.  Of the two differences of the scales at
most one is above zero: a negative power of two needs as many decimal places. -/
def toDecimal (m : Magnitude) : Decimal where
  digits := m.significand * Nat.pow 2 (m.shift - 1074) * Nat.pow 5 (1074 - m.shift)
  exponent := -((1074 - m.shift : Nat) : Int)

/-- The magnitude nearest to a decimal number, or `none` beyond the largest.  Exponents far out
of range are settled without the power of ten. -/
def ofDecimal? (d : Decimal) : Option Magnitude :=
  if d.digits = 0 then some zero
  else if 400 < d.exponent then none
  else if d.exponent < -(1100 + (Nat.log2 d.digits : Int)) then some zero
  else ofRatio? (d.digits * Nat.pow 10 d.exponent.toNat) (Nat.pow 10 (-d.exponent).toNat)

/-! ### Range -/

theorem le_roundToEven (num den : Nat) : num / den ≤ roundToEven num den := by
  unfold roundToEven
  dsimp only
  split <;> omega

theorem roundToEven_le (num den : Nat) : roundToEven num den ≤ num / den + 1 := by
  unfold roundToEven
  dsimp only
  split <;> omega

theorem isSome_ofParts? {significand shift : Nat} (hlt : significand < 9007199254740992)
    (hle : shift ≤ 2045) (hnormal : shift = 0 ∨ 4503599627370496 ≤ significand) :
    (ofParts? significand shift).isSome = true := by
  rw [ofParts?, dif_pos ⟨hlt, hle, hnormal⟩]
  rfl

/-- The leading bits of a number of units are a significand, and leave room for one more bit. -/
theorem leading_bits {q a : Nat} (ha : a ≤ 1023 + 1074) (h : q < Nat.pow 2 a) :
    q / Nat.pow 2 (q.log2 - 52) < 9007199254740992 ∧ q.log2 - 52 ≤ 2044 ∧
      (q.log2 - 52 = 0 ∨ 4503599627370496 ≤ q / Nat.pow 2 (q.log2 - 52)) := by
  rcases Nat.eq_zero_or_pos q with rfl | hpos
  · decide
  have hne : q ≠ 0 := Nat.pos_iff_ne_zero.1 hpos
  have hlog : q.log2 < a := (Nat.log2_lt hne).2 h
  have hbelow : Nat.pow 2 q.log2 ≤ q := Nat.log2_self_le hne
  have habove : q < Nat.pow 2 (q.log2 + 1) := Nat.lt_log2_self
  rcases Nat.le_total q.log2 52 with hsmall | hlarge
  · have hq : q < Nat.pow 2 53 :=
      Nat.lt_of_lt_of_le habove (Nat.pow_le_pow_right (by decide) (by omega))
    have hone : q / Nat.pow 2 0 = q := Nat.div_one q
    rw [Nat.sub_eq_zero_of_le hsmall, hone]
    exact ⟨hq, by omega, .inl rfl⟩
  · obtain ⟨shift, hshift⟩ := Nat.exists_eq_add_of_le hlarge
    have hsplit (k : Nat) : Nat.pow 2 (k + shift) = Nat.pow 2 k * Nat.pow 2 shift :=
      Nat.pow_add 2 k shift
    rw [hshift, hsplit] at hbelow
    rw [hshift, Nat.add_right_comm, hsplit] at habove
    rw [hshift, Nat.add_sub_cancel_left]
    exact ⟨(Nat.div_lt_iff_lt_mul (Nat.two_pow_pos _)).2 habove, by omega,
      .inr ((Nat.le_div_iff_mul_le (Nat.two_pow_pos _)).2 hbelow)⟩

theorem scaled_lt {num den a : Nat} (hden : 0 < den) (h : num < Nat.pow 2 a * den) (b : Nat) :
    num * Nat.pow 2 b / den < Nat.pow 2 (a + b) := by
  have hsplit : Nat.pow 2 (a + b) = Nat.pow 2 a * Nat.pow 2 b := Nat.pow_add 2 a b
  rw [Nat.div_lt_iff_lt_mul hden, hsplit, Nat.mul_right_comm]
  exact Nat.mul_lt_mul_of_pos_right h (Nat.two_pow_pos b)

/-- Some magnitude is nearest to a quotient below `2 ^ 1023`. -/
theorem isSome_ofRatio? {num den : Nat} (hden : 0 < den) (h : num < Nat.pow 2 1023 * den) :
    (ofRatio? num den).isSome = true := by
  unfold ofRatio?
  dsimp only
  obtain ⟨bias, hbias⟩ : ∃ bias, bias = 1074 := ⟨1074, rfl⟩
  rw [← hbias]
  obtain ⟨hlt, hshift, hnormal⟩ :=
    leading_bits (Nat.add_le_add_left (Nat.le_of_eq hbias) 1023) (scaled_lt hden h bias)
  have hquotient (shift : Nat) :
      num * Nat.pow 2 bias / (den * Nat.pow 2 shift) =
        num * Nat.pow 2 bias / den / Nat.pow 2 shift :=
    (Nat.div_div_eq_div_mul ..).symm
  have hle := le_roundToEven (num * Nat.pow 2 bias)
    (den * Nat.pow 2 ((num * Nat.pow 2 bias / den).log2 - 52))
  have hge := roundToEven_le (num * Nat.pow 2 bias)
    (den * Nat.pow 2 ((num * Nat.pow 2 bias / den).log2 - 52))
  rw [hquotient] at hle hge
  -- rounding may carry into a bit of its own, which shifts the significand once more
  split
  · exact isSome_ofParts? (by decide) (by omega) (.inr (Nat.le_refl _))
  · exact isSome_ofParts? (by omega) (by omega) (hnormal.imp_right fun h => Nat.le_trans h hle)

end Magnitude

namespace Binary64

/-- The number nearest to a decimal number with a sign. -/
def ofDecimal (negative : Bool) (d : Decimal) : Binary64 :=
  match Magnitude.ofDecimal? d with
  | some m => finite negative m
  | none => infinite negative

def ofInt (n : Int) : Binary64 :=
  ofDecimal (n < 0) ⟨n.natAbs, 0⟩

def isFinite : Binary64 → Bool
  | finite _ _ => true
  | _ => false

/-- Equality of the numbers meant: the two zeros agree, and NaN equals nothing. -/
def equal : Binary64 → Binary64 → Bool
  | nan, _ => false
  | infinite a, infinite b => a == b
  | finite a m, finite b n => m == n && (a == b || m.significand == 0)
  | _, _ => false

end Binary64

end WhereClause
