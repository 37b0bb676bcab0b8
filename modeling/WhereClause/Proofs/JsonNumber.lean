import WhereClause.Json.Writer
import WhereClause.Json.Reader
import WhereClause.Proofs.ExactScaling
import WhereClause.Proofs.Outcome

/-!
# Numbers of JSON in parts

The number reader takes digits, a fraction and an exponent as long as they go on, so what stands
behind a number must not look like more of it.  Every layout of a floating point number has a
fraction or an exponent, by which it is told apart from a whole number, and none of them has a
zero in front that the reader refuses.

Main definitions:

* `Json.IsDigits`: a run of digits;
* `Json.NumberParts`: the parts of a number with a point or an exponent.

Main results:

* `Json.readNumber_parts`: **how a number made of such parts is read**;
* `Json.exists_parts`: the layout of a decimal number is made of such parts;
* `Json.magnitude?_eq_nearest`: a short number is read as what it stands for;
* `Json.readNumber_ofNat`: how the numeral of a whole number is read.
-/

set_option autoImplicit false

namespace WhereClause

namespace Json

def IsDigits (s : Text) : Prop :=
  s ≠ [] ∧ ∀ c ∈ s, c.isDigit = true

theorem isDigits_ofNat (n : Nat) : IsDigits (Numeral.ofNat n) :=
  ⟨Numeral.ofNat_ne_nil n, fun _ h => Numeral.isDigit_of_mem_ofNat h⟩

theorem readDigits_append {digits rest : Text} (hdigits : IsDigits digits)
    (h : Stops Char.isDigit rest) : readDigits (digits ++ rest) = .ok (digits, rest) := by
  obtain ⟨d, ds, rfl⟩ := List.exists_cons_of_ne_nil hdigits.1
  rw [readDigits, Numeral.span_append_of_stops hdigits.2 h]

/-! ### Parts of numbers -/

/-- Holds of the characters that may go on a number behind its first digit. -/
def isNumberChar (c : Char) : Bool :=
  c.isDigit || c == '.' || c == 'e' || c == 'E'

def fractionText : Option Text → Text
  | none => []
  | some digits => '.' :: digits

def exponentText : Option Int → Text
  | none => []
  | some n => 'e' :: (if n < 0 then '-' else '+') :: Numeral.ofNat n.natAbs

variable {rest : Text}

theorem readFraction_append {fraction : Option Text} (hdigits : ∀ ds ∈ fraction, IsDigits ds)
    (hdigit : Stops Char.isDigit rest) (hpoint : Stops (· == '.') rest) :
    readFraction (fractionText fraction ++ rest) = .ok (fraction, rest) := by
  cases fraction with
  | none =>
      cases rest with
      | nil => rfl
      | cons c rest =>
          have hc : c ≠ '.' := by simpa using hpoint
          simp [fractionText, readFraction, hc]
  | some ds =>
      simp [fractionText, readFraction, readDigits_append (hdigits ds rfl) hdigit, Except.map]

theorem readSigned_append (n : Int) (h : Stops Char.isDigit rest) :
    readSigned ((if n < 0 then '-' else '+') :: Numeral.ofNat n.natAbs ++ rest) =
      .ok (n, rest) := by
  have hread := readDigits_append (isDigits_ofNat n.natAbs) h
  rw [List.cons_append]
  split
  · have hn : -(n.natAbs : Int) = n := by omega
    rw [readSigned, hread]
    dsimp only [Except.map]
    rw [Numeral.toNat_ofNat, hn]
  · have hn : (n.natAbs : Int) = n := by omega
    rw [readSigned, hread]
    dsimp only [Except.map]
    rw [Numeral.toNat_ofNat, hn]

theorem readExponent_append {exponent : Option Int} (h : Stops isNumberChar rest) :
    readExponent (exponentText exponent ++ rest) = .ok (exponent, rest) := by
  cases exponent with
  | none =>
      cases rest with
      | nil => rfl
      | cons c rest =>
          have hc : (c ≠ 'e') ∧ (c ≠ 'E') := by
            constructor <;> (rintro rfl; exact absurd h (by simp [isNumberChar]))
          simp [exponentText, readExponent, hc.1, hc.2]
  | some n =>
      have hdigit := h.mono (q := Char.isDigit) fun c hc => by simp [isNumberChar, hc]
      rw [exponentText, List.cons_append, readExponent, readSigned_append n hdigit]
      rfl

/-- The parts of a number with a fraction or an exponent. -/
structure NumberParts where
  whole : Text
  fraction : Option Text
  exponent : Option Int
  whole_digits : IsDigits whole
  fraction_digits : ∀ ds ∈ fraction, IsDigits ds
  /-- A zero in front stands alone. -/
  zero_alone : whole.head? = some '0' → whole.length = 1
  /-- There is a fraction or an exponent. -/
  marked : fraction.isSome ∨ exponent.isSome

namespace NumberParts

def text (p : NumberParts) : Text :=
  p.whole ++ fractionText p.fraction ++ exponentText p.exponent

def decimal (p : NumberParts) : Decimal :=
  Decimal.ofNumerals p.whole (p.fraction.getD []) (p.exponent.getD 0)

/-- The magnitude that the parts are read as. -/
def magnitude? (p : NumberParts) : Option Magnitude :=
  Magnitude.ofNumerals? p.whole (p.fraction.getD []) (p.exponent.getD 0)

end NumberParts

theorem stops_exponentText (h : Stops isNumberChar rest) (exponent : Option Int) :
    Stops Char.isDigit (exponentText exponent ++ rest) ∧
      Stops (· == '.') (exponentText exponent ++ rest) := by
  cases exponent with
  | none =>
      rw [exponentText, List.nil_append]
      exact ⟨h.mono fun c hc => by simp [isNumberChar, hc],
        h.mono fun c hc => by simp_all [isNumberChar]⟩
  | some n => exact ⟨by simp [exponentText], by simp [exponentText]⟩

theorem stops_fractionText {rest : Text} (h : Stops Char.isDigit rest) (fraction : Option Text) :
    Stops Char.isDigit (fractionText fraction ++ rest) := by
  cases fraction with
  | none => exact h
  | some ds => simp [fractionText]

/-- A number made of such parts is read as a floating point number. -/
theorem readNumber_parts (negative : Bool) (p : NumberParts) (h : Stops isNumberChar rest) :
    readNumber negative (p.text ++ rest) =
      (ofMagnitude negative p.magnitude?).map fun value => (value, rest) := by
  obtain ⟨hdigit, hpoint⟩ := stops_exponentText h p.exponent
  have hwhole : ¬(p.whole.head? = some '0' ∧ 1 < p.whole.length) := fun hzero => by
    have := p.zero_alone hzero.1
    omega
  have hmarked : ¬(p.fraction.isNone = true ∧ p.exponent.isNone = true) := by
    have := p.marked
    simp only [Option.isNone_iff_eq_none, Option.isSome_iff_ne_none] at this ⊢
    tauto
  rw [NumberParts.text, List.append_assoc, List.append_assoc, readNumber,
    readDigits_append p.whole_digits (stops_fractionText hdigit _), ok_bind]
  dsimp only
  rw [if_neg hwhole, readFraction_append p.fraction_digits hdigit hpoint]
  simp only [ok_bind, readExponent_append h, if_neg hmarked]
  rw [← NumberParts.magnitude?]
  cases ofMagnitude negative p.magnitude? <;> rfl

/-! ### Layouts of floating point numbers -/

/-- A whole number of `k` more zeros is laid out with a zero behind its point. -/
theorem exists_parts_whole {n k : Nat} (hzero : n = 0 → k = 0) :
    ∃ p : NumberParts, p.text = Numeral.ofNat n ++ List.replicate k '0' ++ ".0".toList ∧
      p.decimal = ⟨n * 10 ^ (k + 1), -1⟩ := by
  refine ⟨⟨Numeral.ofNat n ++ List.replicate k '0', some ['0'], none, ?_, ?_, ?_, .inl rfl⟩,
    ?_, ?_⟩
  · refine ⟨by simp [Numeral.ofNat_ne_nil], fun c hc => ?_⟩
    rcases List.mem_append.1 hc with hc | hc
    · exact Numeral.isDigit_of_mem_ofNat hc
    · rw [List.eq_of_mem_replicate hc]
      decide
  · rintro ds ⟨⟩
    exact ⟨by decide, by simp⟩
  · -- a numeral that begins with zero is zero, which gets no more zeros
    rw [List.head?_append_of_ne_nil _ (Numeral.ofNat_ne_nil n)]
    intro hhead
    obtain rfl := Numeral.eq_zero_of_head? hhead
    rw [hzero rfl]
    rfl
  · exact List.append_nil _
  · -- the digits gain the zero behind the point
    have hdigits : Numeral.toNat (Numeral.ofNat n ++ List.replicate k '0' ++ ['0']) =
        n * 10 ^ (k + 1) := by
      rw [List.append_assoc, ← List.replicate_succ', Numeral.toNat_appendZeros]
    rw [← hdigits]
    rfl

/-- A point among the digits. -/
theorem exists_parts_inside {n places : Nat} (hpos : 0 < places)
    (hlt : places < (Numeral.ofNat n).length) :
    ∃ p : NumberParts,
      p.text = (Numeral.ofNat n).take ((Numeral.ofNat n).length - places) ++
        '.' :: (Numeral.ofNat n).drop ((Numeral.ofNat n).length - places) ∧
      p.decimal = ⟨n, -(places : Int)⟩ := by
  have hne : n ≠ 0 := by
    rintro rfl
    exact absurd hlt (by rw [show (Numeral.ofNat 0).length = 1 from rfl]; omega)
  have hmem : ∀ c ∈ Numeral.ofNat n, c.isDigit = true := fun c hc =>
    Numeral.isDigit_of_mem_ofNat hc
  refine ⟨⟨(Numeral.ofNat n).take ((Numeral.ofNat n).length - places),
    some ((Numeral.ofNat n).drop ((Numeral.ofNat n).length - places)), none, ?_, ?_, ?_,
    .inl rfl⟩, ?_, ?_⟩
  · refine ⟨?_, fun c hc => hmem c (List.mem_of_mem_take hc)⟩
    rw [Ne, List.take_eq_nil_iff]
    have := Numeral.ofNat_ne_nil n
    simp only [this, or_false]
    omega
  · rintro ds ⟨⟩
    refine ⟨?_, fun c hc => hmem c (List.mem_of_mem_drop hc)⟩
    rw [Ne, List.drop_eq_nil_iff]
    omega
  · rw [List.head?_take, if_neg (by omega)]
    exact fun hhead => absurd (Numeral.eq_zero_of_head? hhead) hne
  · exact List.append_nil _
  · rw [NumberParts.decimal, Decimal.ofNumerals]
    simp only [Option.getD_some, Option.getD_none, List.take_append_drop, Numeral.toNat_ofNat,
      List.length_drop, Decimal.mk.injEq, true_and]
    omega

/-- Zeros between the point and the digits. -/
theorem exists_parts_below {n places : Nat} (hle : (Numeral.ofNat n).length ≤ places) :
    ∃ p : NumberParts,
      p.text = '0' :: '.' :: (List.replicate (places - (Numeral.ofNat n).length) '0' ++
        Numeral.ofNat n) ∧
      p.decimal = ⟨n, -(places : Int)⟩ := by
  refine ⟨⟨['0'], some (List.replicate (places - (Numeral.ofNat n).length) '0' ++
    Numeral.ofNat n), none, ⟨by decide, by simp⟩, ?_, fun _ => rfl, .inl rfl⟩, ?_, ?_⟩
  · rintro ds ⟨⟩
    refine ⟨by simp [Numeral.ofNat_ne_nil], fun c hc => ?_⟩
    rcases List.mem_append.1 hc with hc | hc
    · rw [List.eq_of_mem_replicate hc]
      decide
    · exact Numeral.isDigit_of_mem_ofNat hc
  · exact List.append_nil _
  · rw [NumberParts.decimal, Decimal.ofNumerals]
    have hdigits := Numeral.toNat_zeros_append (places - (Numeral.ofNat n).length + 1) n
    rw [List.replicate_succ, List.cons_append] at hdigits
    simp only [Option.getD_some, Option.getD_none, List.cons_append, List.nil_append, hdigits,
      List.length_append, List.length_replicate, Decimal.mk.injEq, true_and]
    omega

/-- An exponent behind the digits. -/
theorem exists_parts_scientific (d : Decimal) :
    ∃ p : NumberParts, p.text = d.scientific ['+'] ∧ p.decimal = d := by
  have hmem : ∀ c ∈ Numeral.ofNat d.digits, c.isDigit = true := fun c hc =>
    Numeral.isDigit_of_mem_ofNat hc
  have hvalue := Numeral.toNat_ofNat d.digits
  have horder : d.order = d.exponent + (Numeral.ofNat d.digits).length - 1 := rfl
  have hsign : exponentText (some d.order) =
      'e' :: ((if d.order < 0 then ['-'] else ['+']) ++ Numeral.ofNat d.order.natAbs) := by
    rw [exponentText]
    split <;> rfl
  unfold Decimal.scientific
  dsimp only
  rw [← hsign]
  cases hdigits : Numeral.ofNat d.digits with
  | nil => exact absurd hdigits (Numeral.ofNat_ne_nil _)
  | cons first digits =>
      rw [hdigits] at hmem hvalue horder
      cases digits with
      | nil =>
          refine ⟨⟨[first], none, some d.order, ⟨by simp, hmem⟩, by simp, fun _ => rfl,
            .inr rfl⟩, rfl, ?_⟩
          simp only [NumberParts.decimal, Decimal.ofNumerals, Option.getD_some, Option.getD_none,
            List.append_nil, hvalue, List.length_nil]
          simp only [List.length_cons, List.length_nil] at horder
          cases d
          simp only [Decimal.mk.injEq, true_and]
          simp only at horder
          omega
      | cons second digits =>
          refine ⟨⟨[first], some (second :: digits), some d.order,
            ⟨by simp, fun c hc => hmem c (by simp_all)⟩, ?_, fun _ => rfl, .inl rfl⟩, ?_, ?_⟩
          · rintro ds ⟨⟩
            exact ⟨by simp, fun c hc => hmem c (List.mem_cons_of_mem _ hc)⟩
          · simp [NumberParts.text, fractionText, exponentText]
          · simp only [NumberParts.decimal, Decimal.ofNumerals, Option.getD_some, List.cons_append,
              List.nil_append, hvalue]
            simp only [List.length_cons] at horder ⊢
            cases d
            simp only [Decimal.mk.injEq, true_and]
            simp only at horder
            omega

/-- Every layout of a decimal number has a fraction or an exponent.  It stands for the number, with
more zeros at the end of its digits if there is nothing but a zero behind the point. -/
theorem exists_parts {d : Decimal} (hzero : d.digits = 0 → d.exponent = 0) :
    ∃ p : NumberParts, p.text = d.pointed (-5) ['+'] ∧ (p.decimal = d ∨
      ∃ k : Nat, k ≤ 400 ∧ d.exponent = k ∧ p.decimal = ⟨d.digits * 10 ^ (k + 1), -1⟩) := by
  obtain ⟨n, exponent⟩ := d
  have horder : Decimal.order ⟨n, exponent⟩ = exponent + (Numeral.ofNat n).length - 1 := rfl
  have hlength := List.length_pos_of_ne_nil (Numeral.ofNat_ne_nil n)
  unfold Decimal.pointed
  dsimp only at hzero ⊢
  -- the layout depends on the order and, without an exponent, on the place of the point
  split
  · rename_i hrange
    split
    · rename_i hexponent
      obtain ⟨k, rfl⟩ := Int.eq_ofNat_of_zero_le hexponent
      rw [Decimal.positional]
      dsimp only
      rw [if_pos hexponent]
      obtain ⟨p, htext, hdecimal⟩ := exists_parts_whole fun hn => by simpa using hzero hn
      exact ⟨p, htext, .inr ⟨k, by omega, rfl, hdecimal⟩⟩
    · rename_i hexponent
      obtain ⟨places, rfl⟩ : ∃ places : Nat, exponent = -(places : Int) :=
        ⟨exponent.natAbs, by omega⟩
      rw [Decimal.positional]
      dsimp only
      rw [if_neg hexponent, Int.neg_neg, Int.toNat_natCast]
      split
      · rename_i hlt
        obtain ⟨p, htext, hdecimal⟩ := exists_parts_inside (by omega) hlt
        exact ⟨p, htext, .inl hdecimal⟩
      · rename_i hle
        obtain ⟨p, htext, hdecimal⟩ := exists_parts_below (Nat.le_of_not_lt hle)
        exact ⟨p, htext, .inl hdecimal⟩
  · obtain ⟨p, htext, hdecimal⟩ := exists_parts_scientific ⟨n, exponent⟩
    exact ⟨p, htext, .inl hdecimal⟩

/-- A short number is read as the magnitude that is nearest to it. -/
theorem magnitude?_eq_nearest {p : NumberParts} (hdigits : p.decimal.digits < 9007199254740992)
    (hexponent : p.decimal.exponent.natAbs ≤ 22) :
    p.magnitude? = Magnitude.ofDecimal? p.decimal :=
  Magnitude.ofNumerals?_eq_nearest hdigits hexponent

/-! ### Whole numbers -/

/-- The numeral of a whole number is read to its end. -/
theorem readNumber_ofNat (negative : Bool) (n : Nat) (h : Stops isNumberChar rest) :
    readNumber negative (Numeral.ofNat n ++ rest) =
      (ofInteger negative (Numeral.ofNat n)).map fun value => (value, rest) := by
  have hdigit : Stops Char.isDigit rest := h.mono fun c hc => by simp [isNumberChar, hc]
  have hpoint : Stops (· == '.') rest := h.mono fun c hc => by simp_all [isNumberChar]
  have hzero : ¬((Numeral.ofNat n).head? = some '0' ∧ 1 < (Numeral.ofNat n).length) := by
    rintro ⟨hhead, hlength⟩
    obtain rfl := Numeral.eq_zero_of_head? hhead
    exact absurd hlength (by decide)
  have hfraction : readFraction (fractionText none ++ rest) = .ok (none, rest) :=
    readFraction_append (by simp) hdigit hpoint
  have hexponent : readExponent (exponentText none ++ rest) = .ok (none, rest) :=
    readExponent_append h
  rw [fractionText, List.nil_append] at hfraction
  rw [exponentText, List.nil_append] at hexponent
  rw [readNumber, readDigits_append (isDigits_ofNat n) hdigit, ok_bind]
  dsimp only
  rw [if_neg hzero, hfraction]
  simp only [ok_bind, hexponent, Option.isNone_none, and_self, if_true]
  cases ofInteger negative (Numeral.ofNat n) <;> rfl

end Json

end WhereClause
