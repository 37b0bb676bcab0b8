import Mathlib.Algebra.Group.Nat.Defs
import Mathlib.Data.List.Basic
import WhereClause.Number.Decimal
import WhereClause.Proofs.Runs

/-!
# Numerals among other text

Digits in front of and behind a numeral, and the numeral at the start of a text.

Main results:

* `Numeral.toNat_appendZeros`, `Numeral.toNat_zeros_append`: zeros behind and in front;
* `Numeral.eq_zero_of_head?`: only the numeral of zero begins with a zero;
* `Numeral.span_append_of_stops`: the digits at the start of a text are taken, and no more.
-/

set_option autoImplicit false

namespace WhereClause

namespace Numeral

theorem toNat_append (s t : Text) : toNat (s ++ t) = 10 ^ t.length * toNat s + toNat t := by
  unfold toNat
  rw [Nat.ofDigitChars_append, Nat.ofDigitChars_eq_ofDigitChars_zero]

@[simp] theorem toNat_replicate_zero (k : Nat) : toNat (List.replicate k '0') = 0 := by
  unfold toNat
  rw [Nat.ofDigitChars_replicate_zero, Nat.mul_zero]

/-- Zeros behind the digits. -/
theorem toNat_appendZeros (n k : Nat) :
    toNat (ofNat n ++ List.replicate k '0') = n * 10 ^ k := by
  rw [toNat_append, toNat_ofNat, toNat_replicate_zero, List.length_replicate, Nat.add_zero,
    Nat.mul_comm]

/-- Zeros in front of the digits. -/
theorem toNat_zeros_append (k n : Nat) :
    toNat (List.replicate k '0' ++ ofNat n) = n := by
  rw [toNat_append, toNat_ofNat, toNat_replicate_zero, Nat.mul_zero, Nat.zero_add]

theorem digitChar_ne_zero {d : Nat} (h : d < 10) (hd : d ≠ 0) : Nat.digitChar d ≠ '0' := by
  revert d
  decide

/-- Only the numeral of zero begins with a zero. -/
theorem eq_zero_of_head? {n : Nat} (h : (ofNat n).head? = some '0') : n = 0 := by
  induction n using Nat.strongRecOn with
  | _ n ih =>
      rcases Nat.lt_or_ge n 10 with hlt | hge
      · rw [ofNat, Nat.toDigits_of_lt_base hlt, List.head?_cons, Option.some.injEq] at h
        exact Decidable.byContradiction fun hn => digitChar_ne_zero hlt hn h
      · have hne : Nat.toDigits 10 (n / 10) ≠ [] := ofNat_ne_nil (n / 10)
        rw [ofNat, Nat.toDigits_of_base_le (by decide) hge, List.head?_append_of_ne_nil _ hne] at h
        have := ih (n / 10) (Nat.div_lt_self (by omega) (by decide)) h
        omega

theorem span_append_of_stops {digits rest : Text} (hdigits : ∀ c ∈ digits, c.isDigit = true)
    (h : Stops Char.isDigit rest) : span (digits ++ rest) = (digits, rest) := by
  rw [span, takeWhile_append_of_stops hdigits h, dropWhile_append_of_stops hdigits h]

theorem span_append_stops (s : Text) {rest : Text} (h : Stops Char.isDigit rest) :
    span (s ++ rest) = ((span s).1, (span s).2 ++ rest) := by
  rw [span, takeWhile_append_stops s h, dropWhile_append_stops s h]
  rfl

end Numeral

end WhereClause
