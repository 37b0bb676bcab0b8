import WhereClause.Proofs.Expansion
import WhereClause.Proofs.WordValues

/-!
# Texts with a value without quotes

A short text is a column, an operator and a run of the characters of bare words: what it stands for
is settled by what the run is read as, and by whether anything is left of the run.  A list reads the
run between its brackets and so meets its end there as well.

Main definitions:

* `Node.single`: the nodes for a condition on one column;
* `signedValue`: the whole number that is written with digits behind a sign.

Main results:

* `comparison_symbol`, `comparison_like`, `comparison_list`: a run behind each kind of operator;
* `parse_fields`, `parse_fields_malformed`: the text of a condition on one column;
* `parse_numeral`: **which values the numbers behind a symbol stand for**;
* `parse_bareWord`: **which words stand for themselves in a comparison, in a pattern and in a list**.
-/

set_option autoImplicit false

namespace WhereClause

open Shorthand

def Node.single (name : Text) (op : Operator) (operand : Operand) : List Node :=
  [.condition .and ⟨name, [⟨name, none⟩], op, operand⟩]

namespace Shorthand

/-! ### Comparisons with a run -/

section Comparisons

variable {w rest : Text} {v : Value}

theorem symbol?_space {symbol : Text} {op : Operator} (h : (symbol, op) ∈ symbols) (s : Text) :
    symbol? (symbol ++ ' ' :: s) = some (op, ' ' :: s) := by
  simp only [symbols, List.mem_cons, List.not_mem_nil, or_false, Prod.mk.injEq] at h
  obtain ⟨rfl, rfl⟩ | ⟨rfl, rfl⟩ | ⟨rfl, rfl⟩ | ⟨rfl, rfl⟩ | ⟨rfl, rfl⟩ | ⟨rfl, rfl⟩ | ⟨rfl, rfl⟩ := h
  all_goals rfl

theorem comparison_symbol {symbol : Text} {op : Operator} (hsymbol : (symbol, op) ∈ symbols)
    (hstart : Stops isGap w) (hv : value w = .done v rest) :
    comparison (symbol ++ ' ' :: w) = .done (op, .scalar v) rest := by
  have hread := Reader.ofOption_some (e := .symbol) (symbol?_space hsymbol w)
  have hskip : ∀ (word : Text) {k : Char}, word.head? = some k → foldCase k ∉ "=!<>".toList →
      keyword word (symbol ++ ' ' :: w) = .unmatched .symbol (symbol ++ ' ' :: w) := by
    intro word k hk hletter
    have hkeyword := keyword_skip_symbol? hread word hk hletter []
    rwa [List.append_nil] at hkeyword
  rw [comparison, Reader.orElse_unmatched (nullCheck_other (hskip "IS" rfl (by decide))),
    Reader.orElse_unmatched (between_other (hskip "BETWEEN" rfl (by decide))),
    Reader.orElse_unmatched (membership_other (hskip "IN" rfl (by decide))),
    Reader.orElse_unmatched (pattern_other (hskip "LIKE" rfl (by decide))), plainComparison,
    Reader.bind_done hread, Reader.bind_done (blanks_space hstart), Reader.bind_done hv]
  rfl

theorem comparison_like (hstart : Stops isGap w) (hv : value w = .done v rest) :
    comparison ("LIKE".toList ++ ' ' :: w) = .done (.like, .scalar v) rest := by
  have hlike := Cased.refl "LIKE".toList
  have hskip : ∀ word, ¬Agree "LIKE".toList word → keyword word ("LIKE".toList ++ ' ' :: w) =
      .unmatched .symbol ("LIKE".toList ++ ' ' :: w) := fun word hne => keyword_other hlike hne
  rw [comparison, Reader.orElse_unmatched (nullCheck_other (hskip "IS" (by decide))),
    Reader.orElse_unmatched (between_other (hskip "BETWEEN" (by decide))),
    Reader.orElse_unmatched (membership_other (hskip "IN" (by decide)))]
  refine Reader.orElse_done ?_
  rw [pattern, Reader.bind_done (keyword_cased hlike (stops_cons.2 (by decide))),
    Reader.bind_done (blanks_space hstart), Reader.bind_done hv]
  rfl

/-- Behind IN the two forms that are tried before lists are ruled out. -/
theorem comparison_in (s : Text) : comparison ("IN".toList ++ s) =
    (membership <|> pattern <|> plainComparison) ("IN".toList ++ s) := by
  have hin := Cased.refl "IN".toList
  rw [comparison, Reader.orElse_unmatched (nullCheck_other (keyword_other hin (by decide))),
    Reader.orElse_unmatched (between_other (keyword_other hin (by decide)))]

theorem valueList_run (hstart : Stops isGap w) (hv : value w = .done v []) :
    valueList w = .done [v] [] := by
  have hothers : Reader.many (do blanks; mark ','; blanks; value) [] = .done [] [] :=
    Reader.many_unmatched rfl
  rw [valueList, Reader.bind_done (blanks_of_stops hstart), Reader.bind_done hv,
    Reader.bind_done hothers]
  rfl

/-- What is left of a run belongs to no list. -/
theorem valueList_left {c : Char} (hc : c ∈ bareMarks) (hstart : Stops isGap w)
    (hv : value w = .done v (c :: rest)) : valueList w = .unmatched .finish (c :: rest) := by
  obtain ⟨-, hblank, -, -, hcomma⟩ := bareMarks_spec hc
  have hgap : blanks (c :: rest) = .done () (c :: rest) :=
    blanks_of_stops (stops_cons.2 (isGap_eq_false hblank))
  have hothers : Reader.many (do blanks; mark ','; blanks; value) (c :: rest) =
      .done [] (c :: rest) := by
    refine @Reader.many_unmatched _ _ _ (c :: rest) .mark ?_
    rw [Reader.bind_done hgap]
    exact Reader.bind_unmatched (mark_cons_of_ne hcomma rest)
  rw [valueList, Reader.bind_done (blanks_of_stops hstart), Reader.bind_done hv,
    Reader.bind_done hothers, Reader.bind_done hgap]
  rfl

theorem isSubquery_of_forall {s : Text} (h : ∀ c ∈ s, isBlank c = false) :
    isSubquery s = false := by
  have hnone : ∀ c ∈ (Text.trimStart s)[6]?, isBlank c = false := fun c hc =>
    h c (List.dropWhile_subset isBlank (List.mem_of_getElem? hc))
  unfold isSubquery
  dsimp only
  cases hsixth : (Text.trimStart s)[6]? with
  | none => simp
  | some c => simp [hnone c hsixth]

section Lists

variable (hw : ∀ c ∈ w, isBareChar c = true)

include hw

theorem bracketed?_run : bracketed? ('(' :: (w ++ ')' :: rest)) = some (w, rest) :=
  bracketed?_neutral (neutral_of_bare hw) rest

theorem alternatives_run (rest : Text) :
    alternatives w rest = match valueList w with
      | .done values _ => .done (.list values) rest
      | .unmatched e s => .unmatched e s
      | .tooDeep s => .tooDeep s
      | .insideChar => .insideChar := by
  have hquery := isSubquery_of_forall fun c hc => isBlank_of_isBareChar (hw c hc)
  rw [alternatives]
  exact if_neg (by rw [hquery]; decide)

theorem comparison_list (hstart : Stops isGap w) (hv : value w = .done v []) :
    comparison ("IN".toList ++ ' ' :: '(' :: (w ++ [')'])) = .done (.isIn, .list [v]) [] := by
  have hoperand : alternatives w [] = .done (.list [v]) [] := by
    rw [alternatives_run hw, valueList_run hstart hv]
  rw [comparison_in]
  exact Reader.orElse_done
    (membership_brackets (Cased.refl "IN".toList) isGap_space (bracketed?_run hw) hoperand)

theorem comparison_list_left {c : Char} (hc : c ∈ bareMarks) (hstart : Stops isGap w)
    (hv : value w = .done v (c :: rest)) :
    ∃ e left, comparison ("IN".toList ++ ' ' :: '(' :: (w ++ [')'])) = .unmatched e left := by
  have hin := Cased.refl "IN".toList
  have hoperand : alternatives w [] = .unmatched .finish (c :: rest) := by
    rw [alternatives_run hw, valueList_left hc hstart hv]
  have hmembership : membership ("IN".toList ++ ' ' :: '(' :: (w ++ [')'])) =
      .unmatched .finish (c :: rest) := by
    rw [membership, Reader.bind_done (keyword_cased hin (stops_cons.2 (by decide))),
      Reader.bind_done (blanks_space (stops_cons.2 (by decide))),
      Reader.bind_done (Reader.ofOption_some (bracketed?_run hw))]
    exact Reader.bind_unmatched hoperand
  refine ⟨.symbol, "IN".toList ++ ' ' :: '(' :: (w ++ [')']), ?_⟩
  rw [comparison_in, Reader.orElse_unmatched hmembership,
    Reader.orElse_unmatched (pattern_other (keyword_other hin (by decide)))]
  exact Reader.bind_unmatched (Reader.ofOption_none rfl)

end Lists

end Comparisons

/-! ### Whole texts -/

section Texts

variable {fields : Text} (hne : fields ≠ []) (hword : ∀ c ∈ fields, isWordChar c = true) {s : Text}

include hne hword

theorem trim_fields (hs : EndsSolid s) : Text.trim (fields ++ ' ' :: s) = fields ++ ' ' :: s := by
  obtain ⟨c, t, rfl⟩ := List.exists_cons_of_ne_nil hne
  have hc : isBlank c = false := isBlank_of_isFieldChar (by simp [isFieldChar, hword c (by simp)])
  exact trim_eq_self (stops_cons.2 hc) (hs.behind_space (c :: t))

/-- A condition on the column `fields` is read as far as the comparison behind it is. -/
theorem term_fields (levels : Nat) (j : Joiner) (hstart : Stops isGap s) :
    term levels j (fields ++ ' ' :: s) =
      (comparison >>= fun (op, operand) => pure (Draft.condition j fields op operand)) s := by
  have hfields : ∀ c ∈ fields, isFieldChar c = true := fun c hc => by
    simp [isFieldChar, hword c hc]
  have hcondition : condition j (fields ++ ' ' :: s) =
      (comparison >>= fun (op, operand) => pure (Draft.condition j fields op operand)) s := by
    rw [condition, Reader.bind_done (run_append hne hfields (stops_cons.2 (by decide))),
      Reader.bind_done (blanks_space hstart)]
  obtain ⟨c, t, rfl⟩ := List.exists_cons_of_ne_nil hne
  have hc : c ≠ '(' := by
    rintro rfl
    exact absurd (hword '(' (by simp)) (by decide)
  rw [← hcondition, List.cons_append, term_of_ne_bracket hc]

/-- A comparison that is read to its end stands for one condition. -/
theorem parse_fields {op : Operator} {operand : Operand} (hs : EndsSolid s)
    (hstart : Stops isGap s) (hread : comparison s = .done (op, operand) [])
    (hfit : operand.fit op = .ok operand) :
    parse (fields ++ ' ' :: s) = .ok (Node.single fields op operand) := by
  have hend : Reader.many (joined (term maxDepth)) [] = .done [] [] := Reader.many_unmatched rfl
  have hsequence : sequence (term maxDepth) (fields ++ ' ' :: s) =
      .done [.condition .and fields op operand] [] := by
    have hterm := term_fields hne hword maxDepth .and hstart
    rw [Reader.bind_done hread] at hterm
    rw [sequence_eq, Reader.bind_done hterm, Reader.bind_done hend]
    rfl
  have hbuild : Draft.build (.condition .and fields op operand) =
      .ok (.condition .and ⟨fields, [⟨fields, none⟩], op, operand⟩) := by
    rw [Draft.build, Node.ofParts_eq_ok]
    exact ⟨_, Condition.ofParts_eq_ok.2
      ⟨rfl, Column.listOfText_word hne hword, rfl, hfit⟩, rfl⟩
  refine parse_of_read (trim_fields hne hword hs) (by simp) hsequence ?_
  refine Draft.buildAll_cons.2 ⟨_, [], hbuild, ?_, rfl⟩
  rw [Draft.buildAll]
  rfl

/-- A comparison in front of the rest of a run, and what is no comparison, are malformed. -/
theorem parse_fields_malformed (hs : EndsSolid s) (hstart : Stops isGap s)
    (hread : (∃ parts c rest, comparison s = .done parts (c :: rest) ∧ c ∈ bareMarks) ∨
      ∃ e rest, comparison s = .unmatched e rest) :
    ∃ position fault, parse (fields ++ ' ' :: s) = .error (.malformed position fault) := by
  have htrim := trim_fields hne hword hs
  have hparse := parse_of_trim_ne_nil (s := fields ++ ' ' :: s) (by rw [htrim]; simp)
  have hterm := term_fields hne hword maxDepth .and hstart
  rw [htrim, sequence_eq] at hparse
  obtain ⟨⟨op, operand⟩, c, rest, hread, hc⟩ | ⟨e, rest, hread⟩ := hread
  · obtain ⟨-, hblank, hand, hor, -⟩ := bareMarks_spec hc
    have hothers : Reader.many (joined (term maxDepth)) (c :: rest) = .done [] (c :: rest) := by
      refine @Reader.many_unmatched _ _ _ (c :: rest) .symbol ?_
      rw [joined, Reader.bind_done (blanks_of_stops (stops_cons.2 (isGap_eq_false hblank)))]
      exact Reader.bind_unmatched (joiner_head hand hor rest)
    have hleft : Text.trimStart (c :: rest) = c :: rest :=
      dropWhile_of_stops (stops_cons.2 hblank)
    rw [Reader.bind_done hread] at hterm
    rw [Reader.bind_done hterm, Reader.bind_done hothers] at hparse
    dsimp only [Reader.pure_apply] at hparse
    rw [hleft] at hparse
    exact ⟨_, _, hparse⟩
  · rw [Reader.bind_unmatched hread] at hterm
    rw [Reader.bind_unmatched hterm] at hparse
    exact ⟨_, _, hparse⟩

end Texts

theorem symbols_spec {symbol : Text} {op : Operator} (h : (symbol, op) ∈ symbols) :
    op ∈ Operator.plain ∧ ∃ c t, symbol = c :: t ∧ isGap c = false := by
  simp only [symbols, List.mem_cons, List.not_mem_nil, or_false, Prod.mk.injEq] at h
  obtain ⟨rfl, rfl⟩ | ⟨rfl, rfl⟩ | ⟨rfl, rfl⟩ | ⟨rfl, rfl⟩ | ⟨rfl, rfl⟩ | ⟨rfl, rfl⟩ | ⟨rfl, rfl⟩ := h
  all_goals exact ⟨by decide, _, _, rfl, by decide⟩

section Runs

variable {fields : Text} (hne : fields ≠ []) (hword : ∀ c ∈ fields, isWordChar c = true) {w : Text}
  (hwne : w ≠ []) (hw : ∀ c ∈ w, isBareChar c = true)

include hwne hw in
theorem run_ends : Stops isGap w ∧ EndsSolid w := by
  refine ⟨?_, endsSolid_of_forall hwne fun c hc => isBlank_of_isBareChar (hw c hc)⟩
  obtain ⟨c, t, rfl⟩ := List.exists_cons_of_ne_nil hwne
  exact stops_cons.2 (isGap_eq_false (isBlank_of_isBareChar (hw c (by simp))))

include hne hword hwne hw

/-- What a run is read as stands behind a symbol. -/
theorem parse_symbol {symbol : Text} {op : Operator} (hsymbol : (symbol, op) ∈ symbols) {v : Value}
    (hv : value w = .done v []) :
    parse (fields ++ " " ++ symbol ++ " " ++ w) = .ok (Node.single fields op (.scalar v)) := by
  obtain ⟨hstart, hend⟩ := run_ends hwne hw
  obtain ⟨hop, c, t, hc, hgap⟩ := symbols_spec hsymbol
  have htext : fields ++ " " ++ symbol ++ " " ++ w = fields ++ ' ' :: (symbol ++ ' ' :: w) := by simp
  rw [htext]
  refine parse_fields hne hword (hend.behind_space symbol) ?_ (comparison_symbol hsymbol hstart hv)
    (Operand.fit_of_shape (.plain v hop))
  rw [hc]
  exact stops_cons.2 hgap

end Runs

/-! ### Numbers behind a symbol -/

/-- The whole number that is written with the digits behind a sign. -/
def signedValue (negative : Bool) (digits : Text) : Int :=
  if negative then -(Numeral.toNat digits : Int) else Numeral.toNat digits

section Numerals

variable {fields : Text} (hne : fields ≠ []) (hword : ∀ c ∈ fields, isWordChar c = true)
  {symbol : Text} {op : Operator} (hsymbol : (symbol, op) ∈ symbols) (negative : Bool)
  {digits : Text} (hdigitsNe : digits ≠ []) (hdigits : ∀ c ∈ digits, c.isDigit = true)

include hne hword hsymbol hdigitsNe hdigits

/-- Behind a symbol, a whole number beyond 64 bits is a text. -/
theorem parse_beyond (h : int64OfInt? (signedValue negative digits) = none) :
    parse (fields ++ " " ++ symbol ++ " " ++ Binary64.withSign negative digits) =
      .ok (Node.single fields op (.scalar (.string (Binary64.withSign negative digits)))) := by
  obtain ⟨hwne, hw⟩ := (IsNumber.whole negative hdigitsNe hdigits).run
  have hread := value_whole negative hdigitsNe hdigits
  rw [← signedValue, h] at hread
  exact parse_symbol hne hword hwne hw hsymbol hread

/-- Behind a symbol, a number with a fraction is the floating point number nearest to it, and a
whole number is itself if it is one of 64 bits; beyond them it is a text. -/
theorem parse_numeral :
    (∀ fraction : Text, fraction ≠ [] → (∀ c ∈ fraction, c.isDigit = true) →
      parse (fields ++ " " ++ symbol ++ " " ++
          Binary64.withSign negative (digits ++ '.' :: fraction)) =
        .ok (Node.single fields op (.scalar (.float
          (Binary64.ofDecimal negative (Decimal.ofNumerals digits fraction 0)))))) ∧
      (∀ n : Int64, n.toInt = signedValue negative digits →
        parse (fields ++ " " ++ symbol ++ " " ++ Binary64.withSign negative digits) =
          .ok (Node.single fields op (.scalar (.int n)))) ∧
      (signedValue negative digits < -2 ^ 63 ∨ 2 ^ 63 ≤ signedValue negative digits →
        parse (fields ++ " " ++ symbol ++ " " ++ Binary64.withSign negative digits) =
          .ok (Node.single fields op (.scalar (.string (Binary64.withSign negative digits))))) := by
  refine ⟨fun fraction hfraction hfractionDigits => ?_, fun n hn => ?_, fun hbeyond => ?_⟩
  · obtain ⟨hwne, hw⟩ :=
      (IsNumber.fraction negative hdigitsNe hdigits hfraction hfractionDigits).run
    exact parse_symbol hne hword hwne hw hsymbol
      (value_fraction negative hdigitsNe hdigits hfraction hfractionDigits)
  · obtain ⟨hwne, hw⟩ := (IsNumber.whole negative hdigitsNe hdigits).run
    have hread := value_whole negative hdigitsNe hdigits
    rw [← signedValue, ← hn, int64OfInt?_toInt] at hread
    exact parse_symbol hne hword hwne hw hsymbol hread
  · refine parse_beyond hne hword hsymbol negative hdigitsNe hdigits ?_
    rw [int64OfInt?, if_neg]
    omega

end Numerals

/-- The least whole number of 64 bits, the one that follows its negation, and one half. -/
theorem parse_numeral_bounds :
    parse "a <> -9223372036854775808" =
        .ok (Node.single "a" .notEqual (.scalar (.int (-9223372036854775808)))) ∧
      parse "a <> 9223372036854775808" =
        .ok (Node.single "a" .notEqual (.scalar (.string "9223372036854775808"))) ∧
      parse "a <> 0.5" = .ok (Node.single "a" .notEqual (.scalar (.float
        (Binary64.ofDecimal false (Decimal.ofNumerals "0" "5" 0))))) := by
  have hword : ∀ c ∈ "a".toList, isWordChar c = true := List.all_eq_true.1 rfl
  have hangles : ("<>".toList, Operator.notEqual) ∈ symbols := by decide
  have hlong : ∀ c ∈ "9223372036854775808".toList, c.isDigit = true := List.all_eq_true.1 rfl
  have hshort : ∀ c ∈ "0".toList, c.isDigit = true := List.all_eq_true.1 rfl
  have hleast := (parse_numeral (by decide) hword hangles true (by decide) hlong).2.1
  have hbeyond := (parse_numeral (by decide) hword hangles false (by decide) hlong).2.2
  have hhalf := (parse_numeral (by decide) hword hangles false (by decide) hshort).1
  exact ⟨hleast (-9223372036854775808) (by decide), hbeyond (.inr (by decide)),
    hhalf "5" (by decide) (List.all_eq_true.1 rfl)⟩

/-- Not every number behind a symbol stands for a number. -/
theorem not_parse_numeral :
    ¬∀ (fields symbol : Text) (op : Operator) (w : Text), fields ≠ [] →
      (∀ c ∈ fields, isWordChar c = true) → (symbol, op) ∈ symbols → IsNumber w →
        ∃ v, parse (fields ++ " " ++ symbol ++ " " ++ w) = .ok (Node.single fields op (.scalar v)) ∧
          ∀ s, v ≠ .string s := by
  intro h
  have hword : ∀ c ∈ "a".toList, isWordChar c = true := List.all_eq_true.1 rfl
  have hsymbol : ("=".toList, Operator.equal) ∈ symbols := by decide
  have hdigits : ∀ c ∈ "9223372036854775808".toList, c.isDigit = true := List.all_eq_true.1 rfl
  obtain ⟨v, hv, hstring⟩ := h "a" "=" .equal _ (by decide) hword hsymbol
    (.whole false (by decide) hdigits)
  have hread := parse_beyond (by decide) hword hsymbol false (by decide) hdigits (by decide)
  rw [hread] at hv
  simp only [Node.single, Except.ok.injEq, List.cons.injEq, Node.condition.injEq,
    Condition.mk.injEq, Operand.scalar.injEq, true_and, and_true] at hv
  exact hstring _ hv.symm

/-! ### Bare words -/

/-- A run that has not the form of a number and is no keyword stands for itself behind a symbol, as
a pattern and in a list, unless it begins like a keyword.  Then it stands nowhere. -/
theorem parse_bareWord {fields : Text} (hne : fields ≠ [])
    (hword : ∀ c ∈ fields, isWordChar c = true) {w : Text} (hwne : w ≠ [])
    (hw : ∀ c ∈ w, isBareChar c = true) (hkeyword : ∀ p ∈ valueKeywords, ¬Cased p.1 w)
    (hnumber : ¬IsNumber w) :
    (¬BeginsLikeKeyword w →
      parse (fields ++ " = " ++ w) = .ok (Node.single fields .equal (.scalar (.string w))) ∧
        parse (fields ++ " LIKE " ++ w) = .ok (Node.single fields .like (.scalar (.string w))) ∧
        parse (fields ++ " IN (" ++ w ++ ")") =
          .ok (Node.single fields .isIn (.list [.string w]))) ∧
      (BeginsLikeKeyword w →
        ∀ text ∈ [fields ++ " = " ++ w, fields ++ " LIKE " ++ w, fields ++ " IN (" ++ w ++ ")"],
          ∃ position fault, parse text = .error (.malformed position fault)) := by
  obtain ⟨hstart, hend⟩ := run_ends hwne hw
  have hequal : ("=".toList, Operator.equal) ∈ symbols := by decide
  have hequalText : fields ++ " = " ++ w = fields ++ ' ' :: ("=".toList ++ ' ' :: w) := by simp
  have hlikeText : fields ++ " LIKE " ++ w = fields ++ ' ' :: ("LIKE".toList ++ ' ' :: w) := by
    simp
  have hlistText : fields ++ " IN (" ++ w ++ ")" =
      fields ++ ' ' :: ("IN".toList ++ ' ' :: '(' :: (w ++ [')'])) := by simp
  have hclosed : EndsSolid ("IN".toList ++ ' ' :: '(' :: (w ++ [')'])) :=
    ⟨"IN (".toList ++ w, ')', by simp, by decide⟩
  constructor
  · intro hbegins
    have hv := value_bareWord hwne hw hkeyword hnumber hbegins
    refine ⟨?_, ?_, ?_⟩
    · rw [hequalText]
      exact parse_fields hne hword (hend.behind_space _) (stops_cons.2 (by decide))
        (comparison_symbol hequal hstart hv) rfl
    · rw [hlikeText]
      exact parse_fields hne hword (hend.behind_space _) (stops_cons.2 (by decide))
        (comparison_like hstart hv) rfl
    · rw [hlistText]
      exact parse_fields hne hword hclosed (stops_cons.2 (by decide))
        (comparison_list hw hstart hv) rfl
  · intro hbegins
    obtain ⟨v, c, rest, hv, hc⟩ := value_of_begins hbegins
    simp only [List.forall_mem_cons]
    refine ⟨?_, ?_, ?_, by simp⟩
    · rw [hequalText]
      exact parse_fields_malformed hne hword (hend.behind_space _) (stops_cons.2 (by decide))
        (.inl ⟨_, c, rest, comparison_symbol hequal hstart hv, hc⟩)
    · rw [hlikeText]
      exact parse_fields_malformed hne hword (hend.behind_space _) (stops_cons.2 (by decide))
        (.inl ⟨_, c, rest, comparison_like hstart hv, hc⟩)
    · rw [hlistText]
      exact parse_fields_malformed hne hword hclosed (stops_cons.2 (by decide))
        (.inr (comparison_list_left hw hc hstart hv))

/-- A word that ends like a keyword, and one that begins like one. -/
theorem parse_bareWord_null :
    parse "name = field:null" =
        .ok (Node.single "name" .equal (.scalar (.string "field:null"))) ∧
      parse "name LIKE field:null" =
        .ok (Node.single "name" .like (.scalar (.string "field:null"))) ∧
      parse "name IN (field:null)" =
        .ok (Node.single "name" .isIn (.list [.string "field:null"])) ∧
      (∃ position fault, parse "name = Null.field" = .error (.malformed position fault)) ∧
      (∃ position fault, parse "name LIKE Null.field" = .error (.malformed position fault)) ∧
      ∃ position fault, parse "name IN (Null.field)" = .error (.malformed position fault) := by
  have hword : ∀ c ∈ "name".toList, isWordChar c = true := List.all_eq_true.1 rfl
  have hends : ∀ c ∈ "field:null".toList, isBareChar c = true := List.all_eq_true.1 rfl
  have hbegins : ∀ c ∈ "Null.field".toList, isBareChar c = true := List.all_eq_true.1 rfl
  obtain ⟨hequal, hlike, hlist⟩ := (parse_bareWord (by decide) hword (by decide) hends (by decide)
    (not_isNumber_of_head (by decide) (by decide))).1 (by decide)
  have hrefused := (parse_bareWord (by decide) hword (by decide) hbegins (by decide)
    (not_isNumber_of_head (by decide) (by decide))).2
      ⟨("NULL", .null), by simp [valueKeywords], rfl, '.', rfl, by decide⟩
  simp only [List.forall_mem_cons] at hrefused
  exact ⟨hequal, hlike, hlist, hrefused.1, hrefused.2.1, hrefused.2.2.1⟩

/-- Not every word that is neither a keyword nor of the form of a number stands for itself. -/
theorem not_parse_bareWord :
    ¬∀ fields w : Text, fields ≠ [] → (∀ c ∈ fields, isWordChar c = true) → w ≠ [] →
      (∀ c ∈ w, isBareChar c = true) → (∀ p ∈ valueKeywords, ¬Cased p.1 w) → ¬IsNumber w →
        parse (fields ++ " = " ++ w) = .ok (Node.single fields .equal (.scalar (.string w))) := by
  intro h
  have hword : ∀ c ∈ "a".toList, isWordChar c = true := List.all_eq_true.1 rfl
  have hequal : ("=".toList, Operator.equal) ∈ symbols := by decide
  have hread := h "a" "null.x" (by decide) hword (by decide) (List.all_eq_true.1 rfl) (by decide)
    (not_isNumber_of_head (by decide) (by decide))
  have hbegins : BeginsLikeKeyword "null.x" :=
    ⟨("NULL", .null), by simp [valueKeywords], rfl, '.', rfl, by decide⟩
  obtain ⟨v, c, rest, hv, hc⟩ := value_of_begins hbegins
  have hcomparison := comparison_symbol hequal (stops_cons.2 (by decide)) hv
  obtain ⟨position, fault, hfault⟩ := parse_fields_malformed (by decide) hword
    ⟨"= null.".toList, 'x', rfl, by decide⟩ (stops_cons.2 (by decide))
    (.inl ⟨_, c, rest, hcomparison, hc⟩)
  have hboth := hread.symm.trans hfault
  cases hboth

end Shorthand

end WhereClause
