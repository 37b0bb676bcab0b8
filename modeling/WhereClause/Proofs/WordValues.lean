import WhereClause.Proofs.Prefixes

/-!
# Values without quotes

A value need not stand in quotes.  A run of the characters of bare words is then a keyword, a number
or a text, whichever is found first, and the three do not end alike.  A number ends where the run
does, but a whole number beyond 64 bits is not found, so that the run is a text.  A keyword ends at
any character that is none of words, also inside the run, and what is left of the run belongs to
nothing.

Main definitions:

* `bareMarks`: the characters of bare words that are none of words;
* `IsNumber`: the form of a number;
* `BeginsLikeKeyword`: a run that begins with a keyword, which ends inside it.

Main results:

* `value_whole`, `value_fraction`: what is read of a run that has the form of a number;
* `value_bareWord`, `value_of_begins`: **what is read of a run that has not, and is no keyword**.
-/

set_option autoImplicit false

namespace WhereClause.Shorthand

/-! ### Runs of the characters of bare words -/

/-- The characters of bare words that are none of words. -/
def bareMarks : List Char := ['.', ':', '%', '-']

theorem isBareChar_iff {c : Char} : isBareChar c = true ↔ isWordChar c = true ∨ c ∈ bareMarks := by
  simp [isBareChar, bareMarks, or_assoc]

theorem bareMarks_spec {c : Char} (h : c ∈ bareMarks) :
    isWordChar c = false ∧ isBlank c = false ∧ foldCase c ≠ foldCase 'A' ∧
      foldCase c ≠ foldCase 'O' ∧ c ≠ ',' := by
  simp only [bareMarks, List.mem_cons, List.not_mem_nil, or_false] at h
  rcases h with rfl | rfl | rfl | rfl
  all_goals decide

theorem bare_spec {c : Char} (h : isBareChar c = true) :
    isBlank c = false ∧ c ≠ '\'' ∧ c ≠ '(' ∧ c ≠ ')' := by
  refine ⟨isBlank_of_isBareChar h, ?_, ?_, ?_⟩
  all_goals
    rintro rfl
    exact absurd h (by decide)

theorem neutral_of_bare {s : Text} (h : ∀ c ∈ s, isBareChar c = true) : Neutral s :=
  neutral_of_forall fun c hc => (bare_spec (h c hc)).2

/-- The form of a number: digits behind a sign if it is negative, and more digits behind a point if
it has a fraction. -/
inductive IsNumber : Text → Prop
  | whole (negative : Bool) {digits : Text} (hne : digits ≠ [])
      (hdigits : ∀ c ∈ digits, c.isDigit = true) : IsNumber (Binary64.withSign negative digits)
  | fraction (negative : Bool) {digits fraction : Text} (hne : digits ≠ [])
      (hdigits : ∀ c ∈ digits, c.isDigit = true) (hfraction : fraction ≠ [])
      (hfractionDigits : ∀ c ∈ fraction, c.isDigit = true) :
      IsNumber (Binary64.withSign negative (digits ++ '.' :: fraction))

theorem IsNumber.run {w : Text} (h : IsNumber w) : w ≠ [] ∧ ∀ c ∈ w, isBareChar c = true := by
  have hsigned : ∀ (negative : Bool) {s : Text}, s ≠ [] → (∀ c ∈ s, isBareChar c = true) →
      Binary64.withSign negative s ≠ [] ∧
        ∀ c ∈ Binary64.withSign negative s, isBareChar c = true := by
    intro negative s hne hs
    cases negative with
    | true => exact ⟨List.cons_ne_nil _ _, List.forall_mem_cons.2 ⟨by decide, hs⟩⟩
    | false => exact ⟨hne, hs⟩
  have hbare : ∀ {digits : Text}, (∀ c ∈ digits, c.isDigit = true) →
      ∀ c ∈ digits, isBareChar c = true := fun hdigits c hc =>
    isBareChar_iff.2 (.inl (isWordChar_of_isDigit (hdigits c hc)))
  cases h with
  | whole negative hne hdigits => exact hsigned negative hne (hbare hdigits)
  | fraction negative hne hdigits hfraction hfractionDigits =>
      refine hsigned negative (by simp) (List.forall_mem_append.2 ⟨hbare hdigits, ?_⟩)
      exact List.forall_mem_cons.2 ⟨by decide, hbare hfractionDigits⟩

/-- The run begins with a keyword, in any case, and goes on with a character at which keywords
end. -/
def BeginsLikeKeyword (w : Text) : Prop :=
  ∃ p ∈ valueKeywords, Cased p.1 (w.take p.1.length) ∧
    ∃ c ∈ (w.drop p.1.length).head?, c ∈ bareMarks

instance (w : Text) : Decidable (BeginsLikeKeyword w) :=
  inferInstanceAs (Decidable (∃ p ∈ valueKeywords, _))

/-- A keyword that is found in a run is all of it, or ends inside it. -/
theorem begins_of_keyword {w rest : Text} {p : Text × Value} (hw : ∀ c ∈ w, isBareChar c = true)
    (hp : p ∈ valueKeywords) (h : Grammar.Keyword p.1 w rest) :
    Cased p.1 w ∨ BeginsLikeKeyword w := by
  obtain ⟨t, ht, rfl, hstops⟩ := h
  cases rest with
  | nil =>
      rw [List.append_nil]
      exact .inl ht
  | cons c rest =>
      have hc := isBareChar_iff.1 (hw c (by simp))
      rw [stops_cons.1 hstops] at hc
      refine .inr ⟨p, hp, ?_, c, ?_, hc.resolve_left (by decide)⟩
      · rwa [List.take_left' ht.length_eq]
      · rw [List.drop_left' ht.length_eq]
        rfl

/-- A number that is found in a run is all of it. -/
theorem isNumber_of_number? {w rest : Text} {v : Value} (hw : ∀ c ∈ w, isBareChar c = true)
    (h : number? w = some (v, rest)) : IsNumber w := by
  have hend : ∀ {s rest : Text}, w = s ++ rest → Stops isBareChar rest → rest = [] := by
    intro s rest hs hstops
    cases rest with
    | nil => rfl
    | cons c rest =>
        have hc := hw c (by simp [hs])
        rw [stops_cons.1 hstops] at hc
        cases hc
  cases number_of_number? h with
  | @whole negative digits _ n hne hdigits hn hrest =>
      obtain rfl := hend rfl hrest
      rw [List.append_nil]
      exact .whole negative hne hdigits
  | @decimal negative digits fraction _ hne hdigits hfraction hfractionDigits hrest =>
      obtain rfl := hend rfl hrest
      rw [List.append_nil]
      exact .fraction negative hne hdigits hfraction hfractionDigits

/-! ### Reading a run -/

/-- Where a keyword is not found another value may be looked for. -/
theorem keyword_unmatched {p : Text × Value} {s : Text} (hp : p ∈ valueKeywords)
    (h : ∀ rest, ¬Grammar.Keyword p.1 s rest) : ∃ e rest, keyword p.1 s = .unmatched e rest := by
  have hwords : ∀ p ∈ valueKeywords, EndsBeforeKelvin p.1 = true ∧ 'K' ∉ p.1 := by decide
  obtain ⟨hword, hkelvin⟩ := hwords p hp
  by_cases hbegins : beginsWith p.1 s = true
  · cases hcut : Text.dropBytes? (Text.byteLength p.1) s with
    | none =>
        exact absurd (keyword_insideChar hbegins hcut) (keyword_ne_insideChar p.1 hword hkelvin s)
    | some rest =>
        have hread := keyword_cut hbegins hcut
        split at hread
        · exact ⟨_, _, hread⟩
        · exact absurd (keyword_derives hword hread) (h rest)
  · exact ⟨_, _, keyword_of_not_beginsWith hbegins⟩

/-- A run in which no keyword is found is a number or a bare word. -/
theorem value_of_no_keyword {w : Text} (hne : w ≠ []) (hw : ∀ c ∈ w, isBareChar c = true)
    (h : ∀ p ∈ valueKeywords, ∀ rest, ¬Grammar.Keyword p.1 w rest) :
    value w = (Reader.ofOption .word number? <|> bareWord) w := by
  have hskip : ∀ p ∈ valueKeywords,
      ∃ e rest, (keyword p.1 *> pure p.2 : Reader Value) w = .unmatched e rest := by
    intro p hp
    obtain ⟨e, rest, hread⟩ := keyword_unmatched hp (h p hp)
    exact ⟨e, rest, Reader.seqRight_unmatched hread⟩
  simp only [valueKeywords, List.forall_mem_cons] at hskip
  obtain ⟨⟨_, _, hnull⟩, ⟨_, _, htrue⟩, ⟨_, _, hfalse⟩, -⟩ := hskip
  obtain ⟨c, t, rfl⟩ := List.exists_cons_of_ne_nil hne
  rw [value, Reader.orElse_unmatched (quotedText_cons_of_ne (bare_spec (hw c (by simp))).2.1),
    Reader.orElse_unmatched hnull, Reader.orElse_unmatched htrue, Reader.orElse_unmatched hfalse]

theorem bareWord_run {w : Text} (hne : w ≠ []) (hw : ∀ c ∈ w, isBareChar c = true) :
    bareWord w = .done (.string w) [] := by
  have hread := run_append hne hw stops_nil
  rw [List.append_nil] at hread
  exact Reader.map_done hread

/-- A run that has not the form of a number, and neither is a keyword nor begins like one, is a
text. -/
theorem value_bareWord {w : Text} (hne : w ≠ []) (hw : ∀ c ∈ w, isBareChar c = true)
    (hkeyword : ∀ p ∈ valueKeywords, ¬Cased p.1 w) (hnumber : ¬IsNumber w)
    (hbegins : ¬BeginsLikeKeyword w) : value w = .done (.string w) [] := by
  have hno : ∀ p ∈ valueKeywords, ∀ rest, ¬Grammar.Keyword p.1 w rest := by
    intro p hp rest hread
    rcases begins_of_keyword hw hp hread with hcased | hlike
    · exact hkeyword p hp hcased
    · exact hbegins hlike
  have hnone : number? w = none := by
    cases hread : number? w with
    | none => rfl
    | some pair => exact absurd (isNumber_of_number? hw hread) hnumber
  rw [value_of_no_keyword hne hw hno, Reader.orElse_unmatched (Reader.ofOption_none hnone)]
  exact bareWord_run hne hw

/-- A run that begins like a keyword is read as that keyword, and the rest is left. -/
theorem value_of_begins {w : Text} (h : BeginsLikeKeyword w) :
    ∃ v c rest, value w = .done v (c :: rest) ∧ c ∈ bareMarks := by
  obtain ⟨p, hp, hcased, c, hhead, hc⟩ := h
  obtain ⟨rest, hrest⟩ := List.head?_eq_some_iff.1 hhead
  have hstops : Stops isWordChar (w.drop p.1.length) := by
    rw [hrest]
    exact stops_cons.2 (bareMarks_spec hc).1
  have hread := value_cased hp hcased hstops
  rw [List.take_append_drop, hrest] at hread
  exact ⟨p.2, c, rest, hread, hc⟩

/-! ### Reading a number -/

section Numbers

variable (negative : Bool) {digits : Text} (hne : digits ≠ [])
  (hdigits : ∀ c ∈ digits, c.isDigit = true)

include hne hdigits

theorem exists_cons_withSign (rest : Text) : ∃ c s,
    Binary64.withSign negative (digits ++ rest) = c :: s ∧ (c = '-' ∨ c.isDigit = true) := by
  cases negative with
  | true => exact ⟨'-', digits ++ rest, rfl, .inl rfl⟩
  | false =>
      obtain ⟨c, s, rfl⟩ := List.exists_cons_of_ne_nil hne
      exact ⟨c, s ++ rest, rfl, .inr (hdigits c (by simp))⟩

omit hne hdigits in
theorem not_isNumber_of_head {c : Char} {s : Text} (hsign : c ≠ '-') (hdigit : ¬c.isDigit = true) :
    ¬IsNumber (c :: s) := by
  have hhead : ∀ {w d t}, w = c :: s → w = d :: t → ¬(d = '-' ∨ d.isDigit = true) := by
    rintro _ d t rfl ⟨⟩
    exact fun hd => hd.elim hsign hdigit
  generalize hw : c :: s = w
  rintro (⟨negative, hne, hdigits⟩ | ⟨negative, hne, hdigits, -, -⟩)
  · obtain ⟨d, t, hd, hhead'⟩ := exists_cons_withSign negative hne hdigits []
    rw [List.append_nil] at hd
    exact hhead hw.symm hd hhead'
  · obtain ⟨d, t, hd, hhead'⟩ := exists_cons_withSign negative hne hdigits _
    exact hhead hw.symm hd hhead'

theorem value_withSign (rest : Text) :
    value (Binary64.withSign negative (digits ++ rest)) =
      (Reader.ofOption .word number? <|> bareWord)
        (Binary64.withSign negative (digits ++ rest)) := by
  obtain ⟨c, s, hs, hc⟩ := exists_cons_withSign negative hne hdigits rest
  rw [hs, value_of_head hc]

/-- Digits with a fraction are a floating point number. -/
theorem value_fraction {fraction : Text} (hfraction : fraction ≠ [])
    (hfractionDigits : ∀ c ∈ fraction, c.isDigit = true) :
    value (Binary64.withSign negative (digits ++ '.' :: fraction)) =
      .done (.float (Binary64.ofDecimal negative (Decimal.ofNumerals digits fraction 0))) [] := by
  have hunsigned := unsigned?_fraction negative hne hdigits hfraction hfractionDigits stops_nil
  rw [List.append_nil] at hunsigned
  rw [value_withSign negative hne hdigits]
  refine Reader.orElse_done (Reader.ofOption_some ?_)
  rw [number?_withSign negative (head?_digits hne hdigits _), hunsigned]
  rfl

/-- Digits alone are a whole number if it is one of 64 bits, and otherwise a text. -/
theorem value_whole :
    value (Binary64.withSign negative digits) =
      .done (match int64OfInt? (if negative then -(Numeral.toNat digits : Int)
          else Numeral.toNat digits) with
        | some n => .int n
        | none => .string (Binary64.withSign negative digits)) [] := by
  have hread := value_withSign negative hne hdigits []
  have hunsigned := unsigned?_digits negative hne hdigits stops_nil (by simp)
  have hhead := head?_digits hne hdigits []
  rw [List.append_nil] at hread hunsigned hhead
  have hnumber := number?_withSign negative hhead
  rw [hunsigned] at hnumber
  rw [hread]
  cases hn : int64OfInt? (if negative then -(Numeral.toNat digits : Int)
      else Numeral.toNat digits) with
  | some n =>
      rw [hn] at hnumber
      exact Reader.orElse_done (Reader.ofOption_some hnumber)
  | none =>
      rw [hn] at hnumber
      rw [Reader.orElse_unmatched (Reader.ofOption_none hnumber)]
      obtain ⟨hwne, hw⟩ := (IsNumber.whole negative hne hdigits).run
      exact bareWord_run hwne hw

end Numbers

end WhereClause.Shorthand
