import WhereClause.Number.Scaling
import WhereClause.Proofs.FloatText
import WhereClause.Proofs.Numerals

/-!
# Short numbers are scaled exactly

Scaling by a power of ten rounds three times: the digits, the power, and their product or quotient.
For a short number the first two are exact.  Its digits fit a significand, and so does the odd part
of a power of ten up to `10 ^ 22`.  What is left is one rounding of the true value, and that is how
the nearest magnitude is defined.

Main results:

* `Numeral.accumulate_of_lt`: digits that fit 64 bits are all kept;
* `Magnitude.exists_natural`: a number of at most 53 bits is a magnitude;
* `Magnitude.scale?_eq_nearest`: **a short number is scaled to the nearest magnitude**;
* `Magnitude.ofNumerals?_eq_nearest`: so are digits with a point and an exponent.
-/

set_option autoImplicit false

namespace WhereClause

namespace Numeral

theorem le_ofDigitChars (s : Text) (n : Nat) : n ≤ Nat.ofDigitChars 10 s n := by
  rw [Nat.ofDigitChars_eq_ofDigitChars_zero]
  exact Nat.le_add_right_of_le (Nat.le_mul_of_pos_left n (Nat.pow_pos (by decide)))

/-- Digits that fit are all kept. -/
theorem accumulate_of_lt {n : Nat} {s : Text}
    (h : Nat.ofDigitChars 10 s n < 18446744073709551616) :
    accumulate n s = (Nat.ofDigitChars 10 s n, []) := by
  induction s generalizing n with
  | nil => rfl
  | cons c s ih =>
      rw [Nat.ofDigitChars_cons] at h ⊢
      have hnext := Nat.lt_of_le_of_lt (le_ofDigitChars s _) h
      rw [accumulate, if_pos hnext, ih h]

end Numeral

namespace Magnitude

/-! ### Decimal numbers -/

/-- Without an exponent far out of range the nearest magnitude is the one to a quotient. -/
theorem ofDecimal?_eq_ofRatio? {n : Nat} {e : Int} (h : e.natAbs ≤ 400) :
    ofDecimal? ⟨n, e⟩ = ofRatio? (n * 10 ^ e.toNat) (10 ^ (-e).toNat) := by
  unfold ofDecimal?
  dsimp only
  split
  · rename_i hzero
    have hsignificand : zero.significand = 0 := rfl
    rw [hzero, Nat.zero_mul]
    refine (ofRatio?_exact zero (Nat.pow_pos (by decide)) ?_).symm
    generalize 1074 = bias
    rw [hsignificand, Nat.zero_mul, Nat.zero_mul, Nat.zero_mul]
  · rw [if_neg (by omega), if_neg (by omega)]
    rfl

theorem unitsOfOne_pos : 0 < unitsOfOne := by
  unfold unitsOfOne
  generalize 1074 = bias
  exact Nat.two_pow_pos bias

/-- A quotient of units that is a magnitude is not rounded. -/
theorem ofRatio?_units (m : Magnitude) {n : Nat} (h : m.units = n * unitsOfOne) :
    ofRatio? n 1 = some m := by
  refine ofRatio?_exact m Nat.one_pos ?_
  unfold unitsOfOne at h
  generalize 1074 = bias at h ⊢
  rw [Nat.mul_one, ← h]
  rfl

/-- A number of at most 53 bits is a magnitude. -/
theorem exists_natural {n : Nat} (h : n < 9007199254740992) :
    ∃ m, ofDecimal? ⟨n, 0⟩ = some m ∧ m.units = n * unitsOfOne := by
  suffices hm : ∃ m : Magnitude, m.units = n * unitsOfOne by
    obtain ⟨m, hunits⟩ := hm
    refine ⟨m, ?_, hunits⟩
    rw [ofDecimal?_eq_ofRatio? (by decide), ← ofRatio?_units m hunits]
    exact congrArg (ofRatio? · 1) (Nat.mul_one n)
  rcases Nat.eq_zero_or_pos n with rfl | hpos
  · exact ⟨zero, by simp [units, zero]⟩
  have hne : n ≠ 0 := Nat.pos_iff_ne_zero.1 hpos
  have hlog : n.log2 < 53 := (Nat.log2_lt hne).2 h
  obtain ⟨spare, hspare⟩ := Nat.exists_eq_add_of_le (Nat.le_of_lt_succ hlog)
  have hbelow := Nat.mul_le_mul_right (2 ^ spare) (Nat.log2_self_le hne)
  have habove := Nat.mul_lt_mul_of_pos_right (@Nat.lt_log2_self n) (Nat.two_pow_pos spare)
  rw [← Nat.pow_add, ← hspare] at hbelow
  rw [← Nat.pow_add, Nat.add_right_comm, ← hspare] at habove
  have hscale (bias : Nat) (hle : spare ≤ bias) :
      n * 2 ^ spare * Nat.pow 2 (bias - spare) = n * Nat.pow 2 bias := by
    have hpow := Nat.pow_add 2 spare (bias - spare)
    rw [Nat.add_sub_cancel' hle] at hpow
    exact (Nat.mul_assoc ..).trans (congrArg (n * ·) hpow.symm)
  -- the spare bits of the significand are taken from the scale of the unit
  refine ⟨⟨n * 2 ^ spare, 1074 - spare, habove, by omega, .inr hbelow⟩, ?_⟩
  have hle : spare ≤ 1074 := by omega
  unfold units unitsOfOne
  dsimp only
  generalize 1074 = bias at hle ⊢
  exact hscale bias hle

theorem units_powerOfTen : ∀ k : Nat, (h : k < 23) →
    (powerOfTen ⟨k, by omega⟩).units = 10 ^ k * unitsOfOne := by
  decide +kernel

/-! ### Scaling -/

theorem over?_eq {m n : Magnitude} {num den : Nat} (hm : m.units = num * unitsOfOne)
    (hn : n.units = den * unitsOfOne) : m.over? n = ofRatio? num den := by
  rw [over?, hm, hn, Nat.mul_comm num, Nat.mul_comm den, ofRatio?_mul_left unitsOfOne_pos]

theorem times?_eq {m n : Magnitude} {a b : Nat} (hm : m.units = a * unitsOfOne)
    (hn : n.units = b * unitsOfOne) : m.times? n = ofRatio? (a * b) 1 := by
  have hpos := Nat.mul_pos unitsOfOne_pos unitsOfOne_pos
  rw [times?, hm, hn, Nat.mul_mul_mul_comm, Nat.mul_comm (a * b),
    ← ofRatio?_mul_left hpos (a * b) 1, Nat.mul_one]

/-- A short number is scaled to the nearest magnitude. -/
theorem scale?_eq_nearest {n : Nat} (hn : n < 9007199254740992) {e : Int} (he : e.natAbs ≤ 22) :
    (ofDecimal? ⟨n, 0⟩).bind (fun m => m.scale? e) = ofDecimal? ⟨n, e⟩ := by
  obtain ⟨m, hm, hunits⟩ := exists_natural hn
  have hpower := units_powerOfTen e.natAbs (by omega)
  rw [hm, Option.bind_some, scale?, dif_pos (by omega), ofDecimal?_eq_ofRatio? (by omega)]
  split
  · have hneg : (-e).toNat = 0 := by omega
    have hexponent : e.natAbs = e.toNat := by omega
    rw [times?_eq hunits hpower, hneg, Nat.pow_zero, hexponent]
  · have hpos : e.toNat = 0 := by omega
    have hexponent : e.natAbs = (-e).toNat := by omega
    rw [over?_eq hunits hpower, hpos, Nat.pow_zero, Nat.mul_one, hexponent]

/-- So are the digits of a short number with a point and an exponent. -/
theorem ofNumerals?_eq_nearest {whole fraction : Text} {exponent : Int}
    (hdigits : Numeral.toNat (whole ++ fraction) < 9007199254740992)
    (hexponent : (exponent - fraction.length).natAbs ≤ 22) :
    ofNumerals? whole fraction exponent =
      ofDecimal? (Decimal.ofNumerals whole fraction exponent) := by
  rw [Numeral.toNat, Nat.ofDigitChars_append] at hdigits
  have hfits := Nat.lt_trans hdigits (by decide : _ < 18446744073709551616)
  have hwhole := Numeral.accumulate_of_lt (Nat.lt_of_le_of_lt (Numeral.le_ofDigitChars _ _) hfits)
  have hfraction := Numeral.accumulate_of_lt hfits
  have hscaled := scale?_eq_nearest hdigits hexponent
  rw [ofNumerals?, hwhole]
  dsimp only
  rw [hfraction, Decimal.ofNumerals, Numeral.toNat, Nat.ofDigitChars_append, ← hscaled]
  simp

end Magnitude

end WhereClause
