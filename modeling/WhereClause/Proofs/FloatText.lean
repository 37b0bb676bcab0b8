import Mathlib.Tactic.Ring
import WhereClause.Number.Layout

/-!
# Decimal texts read back as the same number

The text of a floating point number in JSON is made from the shortest decimal number that reads
back as the same magnitude.  The layout may append zeros to its digits, which does not change the
magnitude that is nearest to it.

Main results:

* `Magnitude.ofDecimal?_toDecimal`: **the exact decimal value of a magnitude reads back**;
* `Magnitude.ofDecimal?_shortest`: so does its shortest decimal form;
* `Magnitude.ofDecimal?_appendZeros`: zeros behind the digits do not matter.
-/

set_option autoImplicit false

namespace WhereClause

namespace Magnitude

/-! ### Rounding -/

/-- A whole quotient is not rounded. -/
theorem roundToEven_mul_right (q : Nat) {den : Nat} (h : 0 < den) :
    roundToEven (q * den) den = q := by
  unfold roundToEven
  dsimp only
  rw [Nat.mul_div_cancel _ h, Nat.mul_mod_left, if_pos (.inl (by simpa using h))]

/-- A common factor does not change the quotient. -/
theorem roundToEven_mul_left {c : Nat} (hc : 0 < c) (num den : Nat) :
    roundToEven (c * num) (c * den) = roundToEven num den := by
  unfold roundToEven
  dsimp only
  rw [Nat.mul_div_mul_left _ _ hc, Nat.mul_mod_mul_left, Nat.mul_left_comm]
  simp only [Nat.mul_lt_mul_left hc, Nat.mul_right_inj (Nat.ne_of_gt hc)]

theorem ofRatio?_mul_left {c : Nat} (hc : 0 < c) (num den : Nat) :
    ofRatio? (c * num) (c * den) = ofRatio? num den := by
  unfold ofRatio?
  dsimp only
  rw [Nat.mul_assoc, Nat.mul_div_mul_left _ _ hc, Nat.mul_assoc, roundToEven_mul_left hc]

/-- The scale of a magnitude can be read off the size of its value in units. -/
theorem log2_units (m : Magnitude) : Nat.log2 (m.significand * 2 ^ m.shift) - 52 = m.shift := by
  rcases m.normal with hshift | hnormal
  · -- below the normal range there are at most 53 digits, and the difference is cut off at zero
    rw [hshift, Nat.pow_zero, Nat.mul_one]
    rcases Nat.eq_zero_or_pos m.significand with hzero | hpos
    · rw [hzero]
      decide
    · have hlt : m.significand.log2 < 53 := (Nat.log2_lt (by omega)).2 m.significand_lt
      omega
  · have hpos : m.significand * 2 ^ m.shift ≠ 0 :=
      Nat.mul_ne_zero (by omega) (Nat.two_pow_pos _).ne'
    have hle : 52 + m.shift ≤ (m.significand * 2 ^ m.shift).log2 := by
      rw [Nat.le_log2 hpos, Nat.pow_add]
      exact Nat.mul_le_mul_right _ hnormal
    have hlt : (m.significand * 2 ^ m.shift).log2 < 53 + m.shift := by
      rw [Nat.log2_lt hpos, Nat.pow_add]
      exact Nat.mul_lt_mul_of_pos_right m.significand_lt (Nat.pow_pos (by decide))
    omega

/-- A quotient that is a magnitude is not rounded. -/
theorem ofRatio?_exact (m : Magnitude) {num den : Nat} (hden : 0 < den)
    (h : num * Nat.pow 2 1074 = m.significand * 2 ^ m.shift * den) :
    ofRatio? num den = some m := by
  have hround : m.significand * 2 ^ m.shift * den =
      m.significand * (den * Nat.pow 2 m.shift) := by
    rw [Nat.mul_assoc, Nat.mul_comm (2 ^ m.shift)]
    rfl
  have hpos : 0 < den * Nat.pow 2 m.shift := Nat.mul_pos hden (Nat.pow_pos (by decide))
  have hlt := m.significand_lt
  unfold ofRatio?
  dsimp only
  rw [h, Nat.mul_div_cancel _ hden, log2_units, hround, roundToEven_mul_right _ hpos,
    if_neg (by omega), ofParts?, dif_pos ⟨m.significand_lt, m.shift_le, m.normal⟩]

/-! ### Decimal forms -/

theorem eq_zero_of_significand {m : Magnitude} (h : m.significand = 0) : m = zero := by
  have hshift : m.shift = 0 := by
    have := m.normal
    omega
  cases m
  simp_all [zero]

theorem toDecimal_digits (m : Magnitude) :
    m.toDecimal.digits =
      m.significand * Nat.pow 2 (m.shift - 1074) * Nat.pow 5 (1074 - m.shift) := rfl

theorem zero_toDecimal_digits : zero.toDecimal.digits = 0 := by
  rw [toDecimal_digits, show zero.significand = 0 from rfl, Nat.zero_mul, Nat.zero_mul]

theorem toDecimal_digits_ne_zero {m : Magnitude} (h : m.significand ≠ 0) :
    m.toDecimal.digits ≠ 0 :=
  Nat.mul_ne_zero (Nat.mul_ne_zero h (Nat.two_pow_pos _).ne')
    (Nat.pow_pos (by decide : 0 < 5)).ne'

/-- The exact decimal value, in units: a negative power of two is a power of five with as many
decimal places. -/
theorem exact_units (significand shift bias : Nat) :
    significand * Nat.pow 2 (shift - bias) * Nat.pow 5 (bias - shift) * Nat.pow 2 bias =
      significand * 2 ^ shift * Nat.pow 10 (bias - shift) := by
  have hpow : 2 ^ (shift - bias) * 2 ^ bias = 2 ^ shift * 2 ^ (bias - shift) := by
    rw [← Nat.pow_add, ← Nat.pow_add]
    congr 1
    omega
  have hten : 10 ^ (bias - shift) = 2 ^ (bias - shift) * 5 ^ (bias - shift) :=
    Nat.mul_pow 2 5 _
  change significand * 2 ^ (shift - bias) * 5 ^ (bias - shift) * 2 ^ bias =
    significand * 2 ^ shift * 10 ^ (bias - shift)
  calc significand * 2 ^ (shift - bias) * 5 ^ (bias - shift) * 2 ^ bias
      = significand * (2 ^ (shift - bias) * 2 ^ bias) * 5 ^ (bias - shift) := by ring
    _ = significand * 2 ^ shift * 10 ^ (bias - shift) := by
        rw [hpow, hten]
        ring

/-- The exact decimal value of a magnitude reads back. -/
theorem ofDecimal?_toDecimal (m : Magnitude) : ofDecimal? m.toDecimal = some m := by
  by_cases hzero : m.significand = 0
  · obtain rfl := eq_zero_of_significand hzero
    rw [ofDecimal?, if_pos zero_toDecimal_digits]
  · have hexponent : m.toDecimal.exponent = -((1074 - m.shift : Nat) : Int) := rfl
    have htoNat : m.toDecimal.exponent.toNat = 0 := by omega
    have hneg : (-m.toDecimal.exponent).toNat = 1074 - m.shift := by omega
    rw [ofDecimal?, if_neg (toDecimal_digits_ne_zero hzero), if_neg (by omega), if_neg (by omega),
      htoNat, hneg]
    refine ofRatio?_exact m (Nat.pow_pos (by decide)) ?_
    have hone : Nat.pow 10 0 = 1 := rfl
    rw [hone, Nat.mul_one, toDecimal_digits]
    generalize 1074 = bias
    exact exact_units m.significand m.shift bias

/-- The shortest decimal form of a magnitude reads back. -/
theorem ofDecimal?_shortest (tie : Tie) (m : Magnitude) :
    ofDecimal? (m.shortest tie) = some m := by
  unfold shortest
  dsimp only
  cases h : (List.range' 1 17).findSome? fun count =>
      nearest? tie m ((Numeral.ofNat m.toDecimal.digits).length - count) with
  | none => exact ofDecimal?_toDecimal m
  | some d =>
      -- a candidate is taken only if it reads back
      obtain ⟨count, -, hd⟩ := List.exists_of_findSome?_eq_some h
      exact ofDecimal?_nearest? hd

/-- The shortest decimal form of zero is found at the first try. -/
theorem shortest_zero (tie : Tie) : zero.shortest tie = ⟨0, 0⟩ := by
  have hread : ofDecimal? ⟨0, 0⟩ = some zero := by rw [ofDecimal?, if_pos rfl]
  have hnormal : ∀ e : Int, Decimal.normalize ⟨0, e⟩ = ⟨0, 0⟩ := fun e => by
    rw [Decimal.normalize, dif_pos rfl]
  have hneighbours : tie.neighbours 0 (Nat.pow 10 0) = [0, 1] := by
    cases tie <;> rfl
  have hfirst : nearest? tie zero 0 = some ⟨0, 0⟩ := by
    unfold nearest?
    dsimp only
    rw [zero_toDecimal_digits, hneighbours, List.map_cons, hnormal,
      List.find?_cons_of_pos (by simp [hread])]
  have hsize : (Numeral.ofNat zero.toDecimal.digits).length = 1 := by
    rw [zero_toDecimal_digits]
    rfl
  unfold shortest
  dsimp only
  rw [hsize, List.range'_succ, List.findSome?_cons, Nat.sub_self, hfirst, Option.getD_some]

/-- A shortest decimal form without digits is the one of zero. -/
theorem shortest_exponent (tie : Tie) (m : Magnitude) (h : (m.shortest tie).digits = 0) :
    (m.shortest tie).exponent = 0 := by
  have hm := ofDecimal?_shortest tie m
  rw [ofDecimal?, if_pos h] at hm
  rw [← Option.some.inj hm, shortest_zero]

/-- Zeros behind the digits do not change the magnitude: a point and a zero may stand behind a
whole number that is not too large. -/
theorem ofDecimal?_appendZeros {n k : Nat} (hk : k ≤ 400) :
    ofDecimal? ⟨n * 10 ^ (k + 1), -1⟩ = ofDecimal? ⟨n, k⟩ := by
  by_cases hn : n = 0
  · rw [hn, Nat.zero_mul, ofDecimal?, ofDecimal?, if_pos rfl, if_pos rfl]
  · have hdigits : n * 10 ^ (k + 1) ≠ 0 := Nat.mul_ne_zero hn (Nat.pow_pos (by decide)).ne'
    unfold ofDecimal?
    dsimp only
    rw [if_neg hn, if_neg hdigits, if_neg (by omega), if_neg (by omega), if_neg (by omega),
      if_neg (by omega)]
    have hnum : n * 10 ^ (k + 1) * Nat.pow 10 (-1 : Int).toNat = 10 * (n * Nat.pow 10 k) := by
      change n * 10 ^ (k + 1) * 1 = 10 * (n * 10 ^ k)
      ring
    have hk : (-(k : Int)).toNat = 0 := by omega
    have hden : Nat.pow 10 (-(-1) : Int).toNat = 10 * 1 := rfl
    have hone : Nat.pow 10 0 = 1 := rfl
    rw [hnum, hden, Int.toNat_natCast, hk, hone, ofRatio?_mul_left (by decide)]

end Magnitude

end WhereClause
