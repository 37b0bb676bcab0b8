import WhereClause.Proofs.Numerals
import WhereClause.Proofs.Sentence

/-!
# Written values are read

A value is read back from the text that spells it, provided that what stands behind does not go on
like a value.  The first character of such a text already rules out white space, brackets and the
beginning of a query.

Main definitions:

* `isValueChar`: the characters that must not follow a value;
* `opensValue`: the characters that a written value begins with.

Main results:

* `written_head`: a written value begins with such a character;
* `value_written`: **a written value is read back**.
-/

set_option autoImplicit false

namespace WhereClause.Shorthand

/-! ### Classes of characters -/

/-- Holds of the characters that may go on a value. -/
def isValueChar (c : Char) : Bool :=
  isBareChar c || c == '\''

theorem isGap_cases {c : Char} (h : isGap c = true) : c = ' ' ∨ c = '\t' ∨ c = '\r' ∨ c = '\n' := by
  simpa [isGap, or_assoc] using h

theorem isValueChar_of_isGap {c : Char} (h : isGap c = true) : isValueChar c = false := by
  rcases isGap_cases h with rfl | rfl | rfl | rfl <;> decide

theorem isBlank_of_isGap {c : Char} (h : isGap c = true) : isBlank c = true := by
  rcases isGap_cases h with rfl | rfl | rfl | rfl <;> decide

theorem isGap_eq_false {c : Char} (h : isBlank c = false) : isGap c = false := by
  cases hgap : isGap c with
  | false => rfl
  | true =>
      rw [isBlank_of_isGap hgap] at h
      contradiction

theorem exists_digit {c : Char} (h : c.isDigit = true) : ∃ n < 10, c = Char.ofNat (48 + n) := by
  simp only [Char.isDigit, Bool.and_eq_true, decide_eq_true_eq] at h
  have hmin : 48 ≤ c.toNat := h.1
  have hmax : c.toNat ≤ 57 := h.2
  exact ⟨c.toNat - 48, by omega, by rw [Nat.add_sub_cancel' hmin, Char.ofNat_toNat]⟩

theorem isWordChar_of_isDigit {c : Char} (h : c.isDigit = true) : isWordChar c = true := by
  have hdigits : ∀ n < 10, isWordChar (Char.ofNat (48 + n)) = true := by decide
  obtain ⟨n, hn, rfl⟩ := exists_digit h
  exact hdigits n hn

theorem stops_digit_of_bare {rest : Text} (h : Stops isBareChar rest) :
    Stops Char.isDigit rest :=
  h.mono fun c hc => by simp [isBareChar, isWordChar_of_isDigit hc]

section Stops

variable {rest : Text} (h : Stops isValueChar rest)

include h

theorem stops_bare : Stops isBareChar rest :=
  h.mono fun c hc => by simp [isValueChar, hc]

theorem stops_word : Stops isWordChar rest :=
  h.mono fun c hc => by simp [isValueChar, isBareChar, hc]

theorem stops_digit : Stops Char.isDigit rest :=
  stops_digit_of_bare (stops_bare h)

theorem stops_quote : rest.head? ≠ some '\'' := by
  intro hquote
  exact absurd (h _ hquote) (by decide)

theorem stops_point : rest.head? ≠ some '.' := by
  intro hpoint
  exact absurd (h _ hpoint) (by decide)

end Stops

theorem stops_gap {gap : Text} (h : IsGap gap) (rest : Text) : Stops isValueChar (gap ++ rest) := by
  obtain ⟨hne, hall⟩ := h
  obtain ⟨c, gap, rfl⟩ := List.exists_cons_of_ne_nil hne
  rw [List.cons_append, stops_cons]
  exact isValueChar_of_isGap (hall c (by simp))

/-! ### The beginning of a value -/

/-- Holds of the characters that a written value begins with. -/
def opensValue (c : Char) : Bool :=
  c.isDigit || c ∈ "'-NnTtFf".toList

theorem opensValue_spec {c : Char} (h : opensValue c = true) :
    isBlank c = false ∧ c ≠ '(' ∧ c ≠ ')' ∧ c ≠ ',' ∧ c.toLower ≠ 's' := by
  have hdigits : ∀ n < 10, isBlank (Char.ofNat (48 + n)) = false ∧ Char.ofNat (48 + n) ≠ '(' ∧
      Char.ofNat (48 + n) ≠ ')' ∧ Char.ofNat (48 + n) ≠ ',' ∧
        (Char.ofNat (48 + n)).toLower ≠ 's' := by decide
  have hmarks : ∀ d ∈ "'-NnTtFf".toList, isBlank d = false ∧ d ≠ '(' ∧ d ≠ ')' ∧ d ≠ ',' ∧
      d.toLower ≠ 's' := @of_decide_eq_true _ (List.decidableBAll _ _) rfl
  rw [opensValue, Bool.or_eq_true, decide_eq_true_eq] at h
  rcases h with hdigit | hmark
  · obtain ⟨n, hn, rfl⟩ := exists_digit hdigit
    exact hdigits n hn
  · exact hmarks c hmark

theorem cased_cons {k : Char} {word s : Text} (h : Cased (k :: word) s) :
    ∃ c t, s = c :: t ∧ c.toUpper = k.toUpper := by
  cases s with
  | nil => simp [Cased, Text.toUpper] at h
  | cons c t =>
      rw [Cased, Text.toUpper, Text.toUpper, List.map_cons, List.map_cons, List.cons.injEq] at h
      exact ⟨c, t, rfl, h.1⟩

theorem opensValue_of_toUpper {c : Char} (h : c.toUpper ∈ "NTF".toList) : opensValue c = true := by
  have hletters : ∀ n < 26, (Char.ofNat (97 + n)).toUpper ∈ "NTF".toList →
      opensValue (Char.ofNat (97 + n)) = true := by decide
  have hself : ∀ d ∈ "NTF".toList, opensValue d = true := List.all_eq_true.1 rfl
  rcases @toUpper_eq_self_or c with hc | ⟨n, hn, rfl⟩
  · exact hself c (hc ▸ h)
  · exact hletters n hn h

theorem exists_cons_ofInt (n : Int) :
    ∃ c t, Numeral.ofInt n = c :: t ∧ (c = '-' ∨ c.isDigit = true) := by
  unfold Numeral.ofInt
  split
  · exact ⟨'-', _, rfl, .inl rfl⟩
  · obtain ⟨c, t, hdigits⟩ := List.exists_cons_of_ne_nil (Numeral.ofNat_ne_nil n.natAbs)
    exact ⟨c, t, hdigits, .inr (Numeral.isDigit_of_mem_ofNat (hdigits ▸ List.mem_cons_self))⟩

/-- No white space stands where a keyword was written. -/
theorem Cased.stops_gap {k : Char} {word s : Text} (h : Cased (k :: word) s)
    (hk : isGap k.toUpper = false) (rest : Text) : Stops isGap (s ++ rest) := by
  obtain ⟨c, t, rfl, hc⟩ := cased_cons h
  refine stops_cons.2 ?_
  cases hgap : isGap c with
  | false => rfl
  | true =>
      have hupper : c.toUpper = c := by
        rcases isGap_cases hgap with rfl | rfl | rfl | rfl <;> rfl
      rw [← hc, hupper, hgap] at hk
      contradiction

/-- A written value begins with one of a few characters. -/
theorem written_head {v : Value} (hv : v.isLiteral = true) {s : Text} (hs : v.written.Spells s) :
    ∃ c t, s = c :: t ∧ opensValue c = true := by
  cases v with
  | null =>
      obtain ⟨c, t, hst, hc⟩ := cased_cons (show Cased ['N', 'U', 'L', 'L'] s from hs)
      exact ⟨c, t, hst, opensValue_of_toUpper (by rw [hc]; decide)⟩
  | bool b =>
      obtain ⟨c, t, hst, hc⟩ : ∃ c t, s = c :: t ∧ c.toUpper ∈ ['T', 'F'] := by
        cases b with
        | true =>
            obtain ⟨c, t, hst, hc⟩ := cased_cons (show Cased ['t', 'r', 'u', 'e'] s from hs)
            exact ⟨c, t, hst, by rw [hc]; decide⟩
        | false =>
            obtain ⟨c, t, hst, hc⟩ := cased_cons (show Cased ['f', 'a', 'l', 's', 'e'] s from hs)
            exact ⟨c, t, hst, by rw [hc]; decide⟩
      exact ⟨c, t, hst, opensValue_of_toUpper (List.mem_cons_of_mem _ hc)⟩
  | int n =>
      obtain ⟨c, t, htext, hc⟩ := exists_cons_ofInt n.toInt
      refine ⟨c, t, Eq.trans hs htext, ?_⟩
      rcases hc with rfl | hdigit
      · decide
      · simp [opensValue, hdigit]
  | string text => exact ⟨'\'', _, hs, by decide⟩
  | _ => cases hv

/-! ### Numbers -/

theorem fraction?_of_head (rest : Text) (h : rest.head? ≠ some '.') : fraction? rest = none := by
  unfold fraction?
  split
  · exact absurd rfl h
  · rfl

theorem unsigned?_digits (negative : Bool) {digits rest : Text} (hne : digits ≠ [])
    (hdigits : ∀ c ∈ digits, c.isDigit = true) (hrest : Stops Char.isDigit rest)
    (hpoint : rest.head? ≠ some '.') :
    unsigned? negative (digits ++ rest) =
      (int64OfInt? (if negative then -(Numeral.toNat digits : Int) else Numeral.toNat digits)).map
        fun k => (.int k, rest) := by
  obtain ⟨c, t, rfl⟩ := List.exists_cons_of_ne_nil hne
  rw [unsigned?, Numeral.span_append_of_stops hdigits hrest]
  dsimp only
  rw [fraction?_of_head rest hpoint]

theorem unsigned?_fraction (negative : Bool) {digits fraction rest : Text} (hne : digits ≠ [])
    (hdigits : ∀ c ∈ digits, c.isDigit = true) (hfraction : fraction ≠ [])
    (hfractionDigits : ∀ c ∈ fraction, c.isDigit = true) (hrest : Stops Char.isDigit rest) :
    unsigned? negative (digits ++ '.' :: (fraction ++ rest)) =
      some (.float (Binary64.ofDecimal negative (Decimal.ofNumerals digits fraction 0)), rest) := by
  obtain ⟨c, t, rfl⟩ := List.exists_cons_of_ne_nil hne
  obtain ⟨d, u, rfl⟩ := List.exists_cons_of_ne_nil hfraction
  have hpoint : Stops Char.isDigit ('.' :: (d :: u ++ rest)) := stops_cons.2 (by decide)
  rw [unsigned?, Numeral.span_append_of_stops hdigits hpoint]
  dsimp only
  rw [fraction?, Numeral.span_append_of_stops hfractionDigits hrest]

theorem number?_unsigned {c : Char} {s : Text} (h : c ≠ '-') :
    number? (c :: s) =
      match unsigned? false (c :: s) with
      | some (v, rest) => if rest.head?.any isBareChar then none else some (v, rest)
      | none => none := by
  unfold number?
  split
  · rename_i hminus
    exact absurd (List.cons.inj hminus).1 h
  · rfl

/-- A sign is read first, and what follows is a number without one. -/
theorem number?_withSign (negative : Bool) {s : Text} (h : s.head? ≠ some '-') :
    number? (Binary64.withSign negative s) =
      match unsigned? negative s with
      | some (v, rest) => if rest.head?.any isBareChar then none else some (v, rest)
      | none => none := by
  cases negative with
  | true => rfl
  | false =>
      cases s with
      | nil => rfl
      | cons c s => exact number?_unsigned fun hc => h (congrArg some hc)

theorem head?_digits {digits : Text} (hne : digits ≠ [])
    (hdigits : ∀ c ∈ digits, c.isDigit = true) (rest : Text) :
    (digits ++ rest).head? ≠ some '-' := by
  obtain ⟨c, t, rfl⟩ := List.exists_cons_of_ne_nil hne
  rintro ⟨⟩
  exact absurd (hdigits '-' (by simp)) (by decide)

/-- A written whole number is read back. -/
theorem number?_ofInt (n : Int64) {rest : Text} (h : Stops isValueChar rest) :
    number? (Numeral.ofInt n.toInt ++ rest) = some (.int n, rest) := by
  have htext : Numeral.ofInt n.toInt =
      Binary64.withSign (decide (n.toInt < 0)) (Numeral.ofNat n.toInt.natAbs) := by
    unfold Numeral.ofInt Binary64.withSign
    simp
  have hn : (if decide (n.toInt < 0) = true then -(n.toInt.natAbs : Int) else n.toInt.natAbs) =
      n.toInt := by
    split
    · rename_i hneg
      have : n.toInt < 0 := of_decide_eq_true hneg
      omega
    · rename_i hpos
      have : ¬n.toInt < 0 := fun hneg => hpos (decide_eq_true hneg)
      omega
  have hdigits := fun c (hc : c ∈ Numeral.ofNat n.toInt.natAbs) => Numeral.isDigit_of_mem_ofNat hc
  have hne := Numeral.ofNat_ne_nil n.toInt.natAbs
  rw [htext, ← Binary64.withSign_append, number?_withSign _ (head?_digits hne hdigits rest),
    unsigned?_digits _ hne hdigits (stops_digit h) (stops_point h), Numeral.toNat_ofNat, hn,
    int64OfInt?_toInt, Option.map_some]
  dsimp only
  rw [if_neg (not_any_head?_iff.2 (stops_bare h))]

/-! ### Values -/

theorem quotedText_cons_of_ne {c : Char} {s : Text} (h : c ≠ '\'') :
    quotedText (c :: s) = .unmatched .mark (c :: s) := by
  refine Reader.map_unmatched (Reader.ofOption_none ?_)
  rw [Quoted.read?, if_neg h]

/-- A text in quotes is read back. -/
theorem quotedText_write (text : Text) {rest : Text} (h : rest.head? ≠ some '\'') :
    quotedText (Quoted.write '\'' text ++ rest) = .done (.string text) rest := by
  refine Reader.map_done (Reader.ofOption_some ?_)
  rw [Quoted.write, List.cons_append, List.append_assoc, Quoted.read?, if_pos rfl]
  exact Quoted.readBody?_double text h

theorem keyword_value {word s rest : Text} {v : Value} (hs : Cased word s)
    (h : Stops isWordChar rest) :
    (keyword word *> pure v : Reader Value) (s ++ rest) = .done v rest :=
  Reader.seqRight_done (keyword_cased hs h)

theorem keyword_value_other {word other s rest : Text} {v : Value} (hs : Cased other s)
    (hne : ¬Agree other word) :
    (keyword word *> pure v : Reader Value) (s ++ rest) = .unmatched .symbol (s ++ rest) :=
  Reader.seqRight_unmatched (keyword_other hs hne)

theorem keyword_value_head {c k : Char} (word : Text) {s : Text} {v : Value}
    (hk : word.head? = some k) (h : foldCase c ≠ foldCase k) :
    (keyword word *> pure v : Reader Value) (c :: s) = .unmatched .symbol (c :: s) :=
  Reader.seqRight_unmatched (keyword_head word hk h)

theorem quotedText_cased {k : Char} {word s : Text} (hs : Cased (k :: word) s) (rest : Text)
    (hk : k.toUpper ≠ '\'') : quotedText (s ++ rest) = .unmatched .mark (s ++ rest) := by
  obtain ⟨c, t, rfl, hc⟩ := cased_cons hs
  refine quotedText_cons_of_ne ?_
  rintro rfl
  exact hk hc.symm

/-- The keywords among the values, in the order in which they are tried. -/
def valueKeywords : List (Text × Value) :=
  [("NULL", .null), ("TRUE", .bool true), ("FALSE", .bool false)]

/-- A keyword is read as its value, if it is not the beginning of a longer word. -/
theorem value_cased {word s rest : Text} {v : Value} (hv : (word, v) ∈ valueKeywords)
    (hs : Cased word s) (h : Stops isWordChar rest) : value (s ++ rest) = .done v rest := by
  simp only [valueKeywords, List.mem_cons, List.not_mem_nil, or_false, Prod.mk.injEq] at hv
  obtain ⟨rfl, rfl⟩ | ⟨rfl, rfl⟩ | ⟨rfl, rfl⟩ := hv
  · rw [value, Reader.orElse_unmatched (quotedText_cased hs rest (by decide))]
    exact Reader.orElse_done (keyword_value hs h)
  · rw [value, Reader.orElse_unmatched (quotedText_cased hs rest (by decide)),
      Reader.orElse_unmatched (keyword_value_other hs (by decide))]
    exact Reader.orElse_done (keyword_value hs h)
  · rw [value, Reader.orElse_unmatched (quotedText_cased hs rest (by decide)),
      Reader.orElse_unmatched (keyword_value_other hs (by decide)),
      Reader.orElse_unmatched (keyword_value_other hs (by decide))]
    exact Reader.orElse_done (keyword_value hs h)

/-- What begins with a sign or a digit is a number or a bare word. -/
theorem value_of_head {c : Char} (hc : c = '-' ∨ c.isDigit = true) (s : Text) :
    value (c :: s) = (Reader.ofOption .word number? <|> bareWord) (c :: s) := by
  have hhead : c ≠ '\'' ∧ foldCase c ≠ foldCase 'N' ∧ foldCase c ≠ foldCase 'T' ∧
      foldCase c ≠ foldCase 'F' := by
    have hdigits : ∀ n < 10, Char.ofNat (48 + n) ≠ '\'' ∧
        foldCase (Char.ofNat (48 + n)) ≠ foldCase 'N' ∧
        foldCase (Char.ofNat (48 + n)) ≠ foldCase 'T' ∧
        foldCase (Char.ofNat (48 + n)) ≠ foldCase 'F' := by decide
    rcases hc with rfl | hdigit
    · decide
    · obtain ⟨n, hn, rfl⟩ := exists_digit hdigit
      exact hdigits n hn
  obtain ⟨hquote, hnull, htrue, hfalse⟩ := hhead
  rw [value, Reader.orElse_unmatched (quotedText_cons_of_ne hquote),
    Reader.orElse_unmatched (keyword_value_head "NULL" rfl hnull),
    Reader.orElse_unmatched (keyword_value_head "TRUE" rfl htrue),
    Reader.orElse_unmatched (keyword_value_head "FALSE" rfl hfalse)]

/-- A written value is read back. -/
theorem value_written {v : Value} (hv : v.isLiteral = true) {s rest : Text}
    (hs : v.written.Spells s) (h : Stops isValueChar rest) : value (s ++ rest) = .done v rest := by
  cases v with
  | null =>
      have hs : Cased "NULL" s := hs
      exact value_cased (by simp [valueKeywords]) hs (stops_word h)
  | bool b =>
      cases b with
      | true => exact value_cased (by simp [valueKeywords]) (Value.spells_bool.1 hs) (stops_word h)
      | false => exact value_cased (by simp [valueKeywords]) (Value.spells_bool.1 hs) (stops_word h)
  | int n =>
      have hs : s = Numeral.ofInt n.toInt := hs
      have hnumber := number?_ofInt n h
      obtain ⟨c, t, htext, hc⟩ := exists_cons_ofInt n.toInt
      rw [htext, List.cons_append] at hnumber
      rw [hs, htext, List.cons_append, value_of_head hc]
      exact Reader.orElse_done (Reader.ofOption_some hnumber)
  | string text =>
      have hs : s = Quoted.write '\'' text := hs
      rw [hs, value]
      exact Reader.orElse_done (quotedText_write text (stops_quote h))
  | _ => cases hv

end WhereClause.Shorthand
