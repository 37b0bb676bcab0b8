import Mathlib
import WhereClause.Proofs.Grammar
import WhereClause.Proofs.Origin

/-!
# What is parsed has a derivation

The parser tries alternatives and gives some of them up, and it reads the body of a list a second
time as a text of its own.  All the same nothing is lost on the way: whatever a reader answers, the
characters it took from the text are derived in the grammar for the value it gave.

Main definitions:

* `EndsBeforeKelvin`: a keyword in which no K is followed by more than one letter;
* `joined`: the reader of a term behind its joiner.

Main results:

* `Reader.many_induction`: what a repetition of readings reads;
* `keyword_derives`, `literal_of_value`, `comparison_derives`: keywords, values and comparisons;
* `done_of_condition`, `done_of_joined`, `done_of_sequence`, `done_of_group`: the steps in which
  conditions, sequences and groups are read;
* `term_derives`: a term, from sequences of one level less;
* `parse_derives`: **a text that is parsed has a derivation, from its first character to its last**.
-/

set_option autoImplicit false

namespace WhereClause.Shorthand

open Grammar

/-! ### Taking readers apart -/

namespace Reader

variable {α β : Type} {x : Reader α} {s rest : Text} {a : α} {e : Expected}

theorem bind_eq_done {f : α → Reader β} {b : β} :
    (x >>= f) s = .done b rest ↔ ∃ a middle, x s = .done a middle ∧ f a middle = .done b rest := by
  rw [bind_apply]
  cases x s <;> simp

theorem seqRight_eq_done {y : Reader β} {b : β} :
    (x *> y) s = .done b rest ↔ ∃ a middle, x s = .done a middle ∧ y middle = .done b rest :=
  bind_eq_done

theorem map_eq_done {f : α → β} {b : β} :
    (f <$> x) s = .done b rest ↔ ∃ a, x s = .done a rest ∧ f a = b := by
  change (x >>= fun a => pure (f a)) s = .done b rest ↔ _
  simp only [bind_eq_done, pure_apply, Reading.done.injEq]
  constructor
  · rintro ⟨a, _, hx, rfl, rfl⟩
    exact ⟨a, hx, rfl⟩
  · rintro ⟨a, hx, rfl⟩
    exact ⟨a, rest, hx, rfl, rfl⟩

/-- An alternative answers what one of its readers does. -/
theorem done_of_orElse {y : Reader α} (h : (x <|> y) s = .done a rest) :
    x s = .done a rest ∨ y s = .done a rest := by
  rw [orElse_apply] at h
  split at h
  · exact .inr h
  · exact .inl h

theorem done_of_optional {o : Option α} (h : optional x s = .done o rest) :
    (∃ a, o = some a ∧ x s = .done a rest) ∨ o = none ∧ rest = s := by
  rcases done_of_orElse h with h | h
  · obtain ⟨a, hx, rfl⟩ := map_eq_done.1 h
    exact .inl ⟨a, rfl, hx⟩
  · cases h
    exact .inr ⟨rfl, rfl⟩

theorem ofOption_eq_done {f : Text → Option (α × Text)} :
    ofOption e f s = .done a rest ↔ f s = some (a, rest) := by
  unfold ofOption
  split <;> simp [*]

theorem ofOption_eq_unmatched {f : Text → Option (α × Text)} :
    ofOption e f s = .unmatched e s ↔ ¬∃ a rest, f s = some (a, rest) := by
  constructor
  · rintro h ⟨a, rest, hsome⟩
    rw [ofOption_some hsome] at h
    cases h
  · intro h
    exact ofOption_none (Option.eq_none_iff_forall_ne_some.2 fun ⟨a, rest⟩ hsome =>
      h ⟨a, rest, hsome⟩)

/-- What a repetition reads: nothing, or a value and then what the repetition reads behind it. -/
theorem many_induction {motive : List α → Text → Text → Prop} (nil : ∀ s, motive [] s s)
    (cons : ∀ {a as s middle rest}, x s = .done a middle → middle.length < s.length →
      motive as middle rest → motive (a :: as) s rest)
    {as : List α} (h : many x s = .done as rest) : motive as s rest := by
  fun_induction many x s generalizing as rest with
  | case1 s a middle hx hlength as' rest' hmany ih =>
      cases h
      exact cons hx hlength (ih hmany)
  | case2 s a middle hx hlength hmany => exact absurd h (hmany as rest)
  | case3 s a middle hx hlength =>
      cases h
      exact nil s
  | case4 s e middle hx =>
      cases h
      exact nil s
  | case5 => cases h
  | case6 => cases h

end Reader

/-! ### White space, marks and runs -/

variable {s rest : Text}

theorem gap_of_blanks {u : Unit} (h : blanks s = .done u rest) : Gap s rest := by
  cases h
  exact ⟨s.takeWhile isGap, fun c hc => List.mem_takeWhile_imp hc,
    List.takeWhile_append_dropWhile.symm⟩

theorem realGap_of_blanks₁ {u : Unit} (h : blanks₁ s = .done u rest) : RealGap s rest := by
  unfold blanks₁ at h
  split at h
  · rename_i c s
    split at h
    · rename_i hc
      cases h
      refine ⟨c :: s.takeWhile isGap, ⟨by simp, List.forall_mem_cons.2 ⟨hc, ?_⟩⟩, ?_⟩
      · exact fun d hd => List.mem_takeWhile_imp hd
      · rw [List.cons_append, List.takeWhile_append_dropWhile]
    · cases h
  · cases h

theorem eq_cons_of_mark {c : Char} {u : Unit} (h : mark c s = .done u rest) : s = c :: rest := by
  unfold mark at h
  split at h
  · split at h
    · rename_i hc
      cases h
      rw [hc]
    · cases h
  · cases h

theorem run_eq_done {p : Char → Bool} {word : Text} (h : run p s = .done word rest) :
    word ≠ [] ∧ (∀ c ∈ word, p c = true) ∧ s = word ++ rest ∧ Stops p rest := by
  unfold run at h
  split at h
  · cases h
  · rename_i c taken htaken
    cases h
    refine ⟨by simp, ?_, ?_, stops_dropWhile p s⟩
    · rw [← htaken]
      exact fun d hd => List.mem_takeWhile_imp hd
    · rw [← htaken, List.takeWhile_append_dropWhile]

theorem eq_nil_of_finish {u : Unit} (h : finish s = .done u rest) : s = [] := by
  unfold finish at h
  split at h
  · rfl
  · cases h

/-! ### Keywords -/

/-- A word of capital letters in which no K is followed by more than one letter.  The Kelvin sign
counts as a K but takes three bytes, so that the cut behind the letters of such a word falls inside
it. -/
def EndsBeforeKelvin : Text → Bool
  | [] => true
  | k :: word => k.isUpper && (k != 'K' || word.length ≤ 1) && EndsBeforeKelvin word

theorem exists_upper {k : Char} (h : k.isUpper = true) : ∃ n < 26, k = Char.ofNat (65 + n) := by
  simp only [Char.isUpper, decide_eq_true_eq, ge_iff_le] at h
  refine ⟨k.toNat - 65, ?_, ?_⟩
  · have : k.toNat ≤ 90 := h.2
    omega
  · have : 65 ≤ k.toNat := h.1
    rw [Nat.add_sub_cancel' this, Char.ofNat_toNat]

theorem toLower_eq_self_or {c : Char} : c.toLower = c ∨ c.isUpper = true := by
  unfold Char.toLower
  split
  · rename_i hc
    exact .inr (by simpa [Char.isUpper] using hc)
  · exact .inl rfl

/-- A character other than the Kelvin sign that counts as a capital letter is that letter in one of
its cases. -/
theorem eq_or_eq_toLower {c k : Char} (hk : k.isUpper = true) (hc : c ≠ '\u212a')
    (h : foldCase c = foldCase k) : c = k ∨ c = k.toLower := by
  have hletters : ∀ m < 26, ∀ n < 26, (Char.ofNat (65 + m)).toLower = (Char.ofNat (65 + n)).toLower →
      m = n := by decide
  have hsign : k ≠ '\u212a' := by
    rintro rfl
    exact absurd hk (by decide)
  rw [foldCase, if_neg hc, foldCase, if_neg hsign] at h
  rcases @toLower_eq_self_or c with hself | hupper
  · exact .inr (hself ▸ h)
  · obtain ⟨m, hm, rfl⟩ := exists_upper hupper
    obtain ⟨n, hn, rfl⟩ := exists_upper hk
    rw [hletters m hm n hn h]
    exact .inl rfl

theorem toUpper_and_utf8Size {c k : Char} (hk : k.isUpper = true) (h : c = k ∨ c = k.toLower) :
    c.toUpper = k.toUpper ∧ c.utf8Size = 1 := by
  have hletters : ∀ n < 26, (Char.ofNat (65 + n)).toLower.toUpper = (Char.ofNat (65 + n)).toUpper ∧
      (Char.ofNat (65 + n)).toLower.utf8Size = 1 ∧ (Char.ofNat (65 + n)).utf8Size = 1 := by decide
  obtain ⟨n, hn, rfl⟩ := exists_upper hk
  obtain ⟨hupper, hlower, hsize⟩ := hletters n hn
  rcases h with rfl | rfl
  · exact ⟨rfl, hsize⟩
  · exact ⟨hupper, hlower⟩

theorem byteLength_of_endsBeforeKelvin {word : Text} (h : EndsBeforeKelvin word = true) :
    Text.byteLength word = word.length := by
  induction word with
  | nil => rfl
  | cons k word ih =>
      simp only [EndsBeforeKelvin, Bool.and_eq_true] at h
      rw [Text.byteLength_cons, (toUpper_and_utf8Size h.1.1 (.inl rfl)).2, ih h.2, List.length_cons,
        Nat.add_comm]

/-- The Kelvin sign counts as no capital letter but K. -/
theorem eq_of_foldCase_kelvin {k : Char} (hk : k.isUpper = true)
    (h : foldCase '\u212a' = foldCase k) : k = 'K' := by
  have hletters : ∀ n < 26, foldCase '\u212a' = foldCase (Char.ofNat (65 + n)) → n = 10 := by decide
  obtain ⟨n, hn, rfl⟩ := exists_upper hk
  obtain rfl := hletters n hn h
  rfl

/-- A text that agrees with a keyword and can be cut behind it begins with the keyword. -/
theorem cased_of_agree {word : Text} (hword : EndsBeforeKelvin word = true) (hagree : Agree s word)
    (hcut : Text.dropBytes? (Text.byteLength word) s = some rest) :
    ∃ written, Cased word written ∧ s = written ++ rest := by
  induction word generalizing s with
  | nil =>
      rw [Text.byteLength_nil, Text.dropBytes?] at hcut
      cases hcut
      exact ⟨[], Cased.refl [], rfl⟩
  | cons k word ih =>
      simp only [EndsBeforeKelvin, Bool.and_eq_true] at hword
      obtain ⟨⟨hk, hkelvin⟩, hword⟩ := hword
      have hsize : Text.byteLength (k :: word) = Text.byteLength word + 1 := by
        rw [Text.byteLength_cons, (toUpper_and_utf8Size hk (.inl rfl)).2, Nat.add_comm]
      rw [hsize] at hcut
      cases s with
      | nil => cases hcut
      | cons c s =>
          obtain ⟨hfold, hagree⟩ := agree_cons.1 hagree
          rw [Text.dropBytes?] at hcut
          split at hcut
          · rename_i hfits
            -- the sign would take two bytes of what is cut behind it, which has one at most
            have hc : c ≠ '\u212a' := by
              rintro rfl
              obtain rfl := eq_of_foldCase_kelvin hk hfold
              have hlength : word.length ≤ 1 := by simpa using hkelvin
              have hkelvinSize : ('\u212a' : Char).utf8Size = 3 := by decide
              rw [byteLength_of_endsBeforeKelvin hword, hkelvinSize] at hfits
              omega
            have hcase := eq_or_eq_toLower hk hc hfold
            obtain ⟨hupper, hone⟩ := toUpper_and_utf8Size hk hcase
            rw [hone, Nat.add_sub_cancel] at hcut
            obtain ⟨written, hwritten, rfl⟩ := ih hword hagree hcut
            refine ⟨c :: written, ?_, rfl⟩
            rw [Cased, Text.toUpper, Text.toUpper, List.map_cons, List.map_cons, hupper]
            exact congrArg (k.toUpper :: ·) hwritten
          · cases hcut

theorem keyword_derives {word : Text} {u : Unit} (hword : EndsBeforeKelvin word = true)
    (h : keyword word s = .done u rest) : Keyword word s rest := by
  unfold keyword at h
  split at h
  · rename_i hbegins
    rw [beginsWith, Bool.and_eq_true] at hbegins
    split at h
    · rename_i hcut
      split at h
      · cases h
      · rename_i hend
        cases h
        obtain ⟨written, hwritten, hs⟩ := cased_of_agree hword hbegins.1 hcut
        exact ⟨written, hwritten, hs, not_any_head?_iff.1 hend⟩
    · cases h
  · cases h

/-! ### Values -/

theorem span_eq {digits : Text} (h : Numeral.span s = (digits, rest)) :
    (∀ c ∈ digits, c.isDigit = true) ∧ s = digits ++ rest := by
  have hdigits := fun c (hc : c ∈ (Numeral.span s).1) => Numeral.isDigit_of_mem_span hc
  have happend := Numeral.span_append s
  rw [h] at hdigits happend
  exact ⟨hdigits, happend.symm⟩

theorem fraction?_eq_some {fraction : Text} (h : fraction? s = some (fraction, rest)) :
    fraction ≠ [] ∧ (∀ c ∈ fraction, c.isDigit = true) ∧ s = '.' :: (fraction ++ rest) := by
  unfold fraction? at h
  split at h
  · split at h
    · cases h
    · rename_i hne hspan
      cases h
      obtain ⟨hdigits, rfl⟩ := span_eq hspan
      exact ⟨hne, hdigits, rfl⟩
  · cases h

/-- A number without its sign is a run of digits, or two of them with a point between them. -/
theorem number_of_unsigned? {negative : Bool} {v : Value} (h : unsigned? negative s = some (v, rest))
    (hrest : Stops isBareChar rest) : Number v (Binary64.withSign negative s) rest := by
  unfold unsigned? at h
  split at h
  · cases h
  · rename_i digits behind hne hspan
    obtain ⟨hdigits, rfl⟩ := span_eq hspan
    have hdigitsNe : digits ≠ [] := hne
    -- a point without a digit behind it is left to what follows, which refuses it
    split at h
    · rename_i fraction rest' hfraction
      cases h
      obtain ⟨hfractionNe, hfractionDigits, rfl⟩ := fraction?_eq_some hfraction
      rw [← List.cons_append, ← List.append_assoc, Binary64.withSign_append]
      exact .decimal hdigitsNe hdigits hfractionNe hfractionDigits hrest
    · obtain ⟨n, hn, hv⟩ := Option.map_eq_some_iff.1 h
      cases hv
      rw [Binary64.withSign_append]
      exact .whole hdigitsNe hdigits (toInt_of_int64OfInt? hn) hrest

theorem number_of_number? {v : Value} (h : number? s = some (v, rest)) : Number v s rest := by
  have hstops : ∀ {v' : Value} {rest' : Text}, (if rest'.head?.any isBareChar then none
      else some (v', rest')) = some (v, rest) → v' = v ∧ rest' = rest ∧ Stops isBareChar rest := by
    intro v' rest' h
    split at h
    · cases h
    · rename_i hend
      cases h
      exact ⟨rfl, rfl, not_any_head?_iff.1 hend⟩
  unfold number? at h
  dsimp only at h
  split at h
  · rename_i v' rest' hnumber
    obtain ⟨rfl, rfl, hrest⟩ := hstops h
    split at hnumber
    · have hsigned : Number v' (Binary64.withSign true _) rest' :=
        number_of_unsigned? hnumber hrest
      exact hsigned
    · have hplain : Number v' (Binary64.withSign false _) rest' :=
        number_of_unsigned? hnumber hrest
      exact hplain
  · cases h

theorem literal_of_quotedText {v : Value} (h : quotedText s = .done v rest) : Literal v s rest := by
  obtain ⟨content, hread, rfl⟩ := Reader.map_eq_done.1 h
  have hread := Reader.ofOption_eq_done.1 hread
  unfold Quoted.read? at hread
  split at hread
  · cases hread
  · split at hread
    · rename_i hc
      obtain ⟨rfl, hrest⟩ := Quoted.eq_of_readBody? hread
      have hwrite := @Literal.quoted content rest hrest
      rw [Quoted.write, List.cons_append, List.append_assoc] at hwrite
      rw [hc]
      exact hwrite
    · cases hread

/-- Whatever is read as a value was written as one. -/
theorem literal_of_value {v : Value} (h : value s = .done v rest) : Literal v s rest := by
  -- a reader that fails leaves no trace in the one that is tried next
  rcases Reader.done_of_orElse h with h | h
  · exact literal_of_quotedText h
  rcases Reader.done_of_orElse h with h | h
  · obtain ⟨_, _, hnull, h⟩ := Reader.seqRight_eq_done.1 h
    cases h
    exact .null (keyword_derives (by decide) hnull)
  rcases Reader.done_of_orElse h with h | h
  · obtain ⟨_, _, htrue, h⟩ := Reader.seqRight_eq_done.1 h
    cases h
    exact .true (keyword_derives (by decide) htrue)
  rcases Reader.done_of_orElse h with h | h
  · obtain ⟨_, _, hfalse, h⟩ := Reader.seqRight_eq_done.1 h
    cases h
    exact .false (keyword_derives (by decide) hfalse)
  rcases Reader.done_of_orElse h with h | h
  · exact .number (number_of_number? (Reader.ofOption_eq_done.1 h))
  · obtain ⟨word, hword, rfl⟩ := Reader.map_eq_done.1 h
    obtain ⟨hne, hall, rfl, hrest⟩ := run_eq_done hword
    exact .word hne hall hrest

/-! ### Comparisons -/

theorem exists_of_keep {c : Char} {inner : Option (Text × Text)} {body : Text}
    (h : (inner.map fun (body, rest) => (c :: body, rest)) = some (body, rest)) :
    ∃ body', inner = some (body', rest) ∧ body = c :: body' := by
  obtain ⟨⟨body', rest'⟩, hinner, heq⟩ := Option.map_eq_some_iff.1 h
  cases heq
  exact ⟨body', hinner, rfl⟩

/-- What is read in brackets ends before the closing one, and the brackets inside it belong
together. -/
theorem balanced_of_bracketBody? {depth : Nat} {quoted : Bool} {body : Text}
    (h : bracketBody? depth quoted s = some (body, rest)) :
    s = body ++ ')' :: rest ∧ balanced depth quoted body = true := by
  -- in order: the end of the text, a quote, a character in quotes, the three kinds of brackets (one
  -- that opens, the last and another that closes), and any other character
  fun_induction bracketBody? depth quoted s generalizing body with
  | case1 => cases h
  | case2 =>
      rename_i ih
      obtain ⟨body, hinner, rfl⟩ := exists_of_keep h
      obtain ⟨rfl, hbalanced⟩ := ih hinner
      exact ⟨rfl, by simpa [balanced] using hbalanced⟩
  | case3 =>
      rename_i hc ih
      obtain ⟨body, hinner, rfl⟩ := exists_of_keep h
      obtain ⟨rfl, hbalanced⟩ := ih hinner
      exact ⟨rfl, by simpa [balanced, hc] using hbalanced⟩
  | case4 =>
      rename_i hquoted _ _ ih
      obtain ⟨body, hinner, rfl⟩ := exists_of_keep h
      obtain ⟨rfl, hbalanced⟩ := ih hinner
      exact ⟨rfl, by simpa [balanced, hquoted] using hbalanced⟩
  | case5 =>
      rename_i hquoted _ _
      cases h
      exact ⟨rfl, by simpa [balanced] using hquoted⟩
  | case6 =>
      rename_i hquoted _ _ _ _ ih
      obtain ⟨body, hinner, rfl⟩ := exists_of_keep h
      obtain ⟨rfl, hbalanced⟩ := ih hinner
      exact ⟨rfl, by simpa [balanced, hquoted] using hbalanced⟩
  | case7 =>
      rename_i hquote hquoted hopen hclose ih
      obtain ⟨body, hinner, rfl⟩ := exists_of_keep h
      obtain ⟨rfl, hbalanced⟩ := ih hinner
      exact ⟨rfl, by simpa [balanced, hquote, hquoted, hopen, hclose] using hbalanced⟩

theorem balanced_of_bracketed? {body : Text} (h : bracketed? s = some (body, rest)) :
    s = '(' :: (body ++ ')' :: rest) ∧ balanced 0 false body = true := by
  unfold bracketed? at h
  split at h
  · obtain ⟨rfl, hbalanced⟩ := balanced_of_bracketBody? h
    exact ⟨rfl, hbalanced⟩
  · cases h

theorem items_of_many {vs : List Value}
    (h : Reader.many (do blanks; mark ','; blanks; value) s = .done vs rest) :
    Items vs s rest := by
  refine Reader.many_induction (motive := Items) (fun _ => .nil) ?_ h
  intro v vs s middle rest hread _ ih
  obtain ⟨_, _, hgap, hread⟩ := Reader.bind_eq_done.1 hread
  obtain ⟨_, _, hcomma, hread⟩ := Reader.bind_eq_done.1 hread
  obtain ⟨_, _, hgap₁, hvalue⟩ := Reader.bind_eq_done.1 hread
  obtain rfl := eq_cons_of_mark hcomma
  exact .cons (gap_of_blanks hgap) (gap_of_blanks hgap₁) (literal_of_value hvalue) ih

theorem literalList_of_valueList {vs : List Value} (h : valueList s = .done vs rest) :
    LiteralList vs s := by
  obtain ⟨_, _, hgap, h⟩ := Reader.bind_eq_done.1 h
  obtain ⟨_, _, hvalue, h⟩ := Reader.bind_eq_done.1 h
  obtain ⟨_, _, hitems, h⟩ := Reader.bind_eq_done.1 h
  obtain ⟨_, _, hend, h⟩ := Reader.bind_eq_done.1 h
  obtain ⟨_, _, hfinish, h⟩ := Reader.bind_eq_done.1 h
  cases h
  obtain rfl := eq_nil_of_finish hfinish
  exact .mk (gap_of_blanks hgap) (literal_of_value hvalue) (items_of_many hitems)
    (gap_of_blanks hend)

variable {op : Operator} {operand : Operand}

theorem nullCheck_derives (h : nullCheck s = .done (op, operand) rest) :
    Comparison op operand s rest := by
  obtain ⟨_, _, his, h⟩ := Reader.bind_eq_done.1 h
  obtain ⟨_, _, hgap, h⟩ := Reader.bind_eq_done.1 h
  obtain ⟨negation, _, hnegation, h⟩ := Reader.bind_eq_done.1 h
  obtain ⟨_, _, hnull, hparts⟩ := Reader.bind_eq_done.1 h
  have his := keyword_derives (by decide) his
  have hgap := realGap_of_blanks₁ hgap
  have hnull := keyword_derives (by decide) hnull
  rcases Reader.done_of_optional hnegation with ⟨_, rfl, hnot⟩ | ⟨rfl, rfl⟩
  · obtain ⟨_, _, hnot, hgap₁⟩ := Reader.bind_eq_done.1 hnot
    cases hparts
    exact .isNotNull his hgap (keyword_derives (by decide) hnot) (realGap_of_blanks₁ hgap₁) hnull
  · cases hparts
    exact .isNull his hgap hnull

theorem between_derives (h : between s = .done (op, operand) rest) :
    Comparison op operand s rest := by
  obtain ⟨_, _, hbetween, h⟩ := Reader.bind_eq_done.1 h
  obtain ⟨_, _, hgap, h⟩ := Reader.bind_eq_done.1 h
  obtain ⟨low, _, hlow, h⟩ := Reader.bind_eq_done.1 h
  obtain ⟨_, _, hgap₁, h⟩ := Reader.bind_eq_done.1 h
  obtain ⟨_, _, hand, h⟩ := Reader.bind_eq_done.1 h
  obtain ⟨_, _, hgap₂, h⟩ := Reader.bind_eq_done.1 h
  obtain ⟨high, _, hhigh, h⟩ := Reader.bind_eq_done.1 h
  cases h
  exact .between (keyword_derives (by decide) hbetween) (gap_of_blanks hgap)
    (literal_of_value hlow) (realGap_of_blanks₁ hgap₁) (keyword_derives (by decide) hand)
    (gap_of_blanks hgap₂) (literal_of_value hhigh)

theorem membership_derives (h : membership s = .done (op, operand) rest) :
    Comparison op operand s rest := by
  obtain ⟨_, _, hin, h⟩ := Reader.bind_eq_done.1 h
  obtain ⟨_, _, hgap, h⟩ := Reader.bind_eq_done.1 h
  obtain ⟨body, _, hbody, h⟩ := Reader.bind_eq_done.1 h
  obtain ⟨operand, _, halternatives, h⟩ := Reader.bind_eq_done.1 h
  cases h
  obtain ⟨rfl, hbalanced⟩ := balanced_of_bracketed? (Reader.ofOption_eq_done.1 hbody)
  have hin := keyword_derives (by decide) hin
  have hgap := gap_of_blanks hgap
  -- the values are read from the body alone, and what follows it is left as it was
  unfold alternatives at halternatives
  split at halternatives
  · rename_i hquery
    cases halternatives
    exact .query hin hgap hbalanced hquery
  · rename_i hquery
    split at halternatives
    · rename_i values _ hvalues
      cases halternatives
      exact .list hin hgap hbalanced (by simpa using hquery) (literalList_of_valueList hvalues)
    all_goals cases halternatives

theorem pattern_derives (h : pattern s = .done (op, operand) rest) :
    Comparison op operand s rest := by
  obtain ⟨_, _, hlike, h⟩ := Reader.bind_eq_done.1 h
  obtain ⟨_, _, hgap, h⟩ := Reader.bind_eq_done.1 h
  obtain ⟨v, _, hvalue, h⟩ := Reader.bind_eq_done.1 h
  cases h
  exact .like (keyword_derives (by decide) hlike) (gap_of_blanks hgap) (literal_of_value hvalue)

theorem symbol_of_symbol? (h : symbol? s = some (op, rest)) : Symbol op s rest := by
  obtain ⟨⟨symbol, op'⟩, hmem, hdrop⟩ := List.exists_of_findSome?_eq_some h
  obtain ⟨rest', hrest, heq⟩ := Option.map_eq_some_iff.1 hdrop
  cases heq
  obtain rfl := Text.eq_append_of_dropStart? hrest
  simp only [symbols, List.mem_cons, Prod.mk.injEq, List.not_mem_nil, or_false] at hmem
  rcases hmem with ⟨rfl, rfl⟩ | ⟨rfl, rfl⟩ | ⟨rfl, rfl⟩ | ⟨rfl, rfl⟩ | ⟨rfl, rfl⟩ | ⟨rfl, rfl⟩ |
    ⟨rfl, rfl⟩
  · exact .own (by decide)
  · exact .own (by decide)
  · exact .own (by decide)
  · exact .angles
  · exact .own (by decide)
  · exact .own (by decide)
  · exact .own (by decide)

theorem plainComparison_derives (h : plainComparison s = .done (op, operand) rest) :
    Comparison op operand s rest := by
  obtain ⟨op', _, hop, h⟩ := Reader.bind_eq_done.1 h
  obtain ⟨_, _, hgap, h⟩ := Reader.bind_eq_done.1 h
  obtain ⟨v, _, hvalue, h⟩ := Reader.bind_eq_done.1 h
  cases h
  exact .plain (symbol_of_symbol? (Reader.ofOption_eq_done.1 hop)) (gap_of_blanks hgap)
    (literal_of_value hvalue)

/-- Whatever is read as a comparison was written as one. -/
theorem comparison_derives (h : comparison s = .done (op, operand) rest) :
    Comparison op operand s rest := by
  rcases Reader.done_of_orElse h with h | h
  · exact nullCheck_derives h
  rcases Reader.done_of_orElse h with h | h
  · exact between_derives h
  rcases Reader.done_of_orElse h with h | h
  · exact membership_derives h
  rcases Reader.done_of_orElse h with h | h
  · exact pattern_derives h
  · exact plainComparison_derives h

/-! ### Terms and sequences -/

theorem keyword_of_joiner {j : Joiner} (h : joiner s = .done j rest) :
    Keyword j.keyword s rest := by
  rcases Reader.done_of_orElse h with h | h
  all_goals
    obtain ⟨_, _, hword, h⟩ := Reader.seqRight_eq_done.1 h
    cases h
    exact keyword_derives (by decide) hword

section Inversion

variable {j : Joiner} {draft : Draft} {drafts : List Draft}

theorem done_of_condition (h : condition j s = .done draft rest) :
    ∃ fields op operand s₁ s₂, run isFieldChar s = .done fields s₁ ∧ blanks s₁ = .done () s₂ ∧
      comparison s₂ = .done (op, operand) rest ∧ draft = .condition j fields op operand := by
  obtain ⟨fields, s₁, hfields, h⟩ := Reader.bind_eq_done.1 h
  obtain ⟨_, s₂, hgap, h⟩ := Reader.bind_eq_done.1 h
  obtain ⟨⟨op, operand⟩, _, hcomparison, h⟩ := Reader.bind_eq_done.1 h
  cases h
  exact ⟨fields, op, operand, s₁, s₂, hfields, hgap, hcomparison, rfl⟩

/-- Reads a term behind its joiner. -/
def joined (read : Joiner → Reader Draft) : Reader Draft := do
  blanks
  let j ← joiner
  blanks
  read j

theorem sequence_eq (read : Joiner → Reader Draft) : sequence read = (do
    let first ← read .and
    let others ← Reader.many (joined read)
    return first :: others) := rfl

variable {read : Joiner → Reader Draft} {inner : Reader (List Draft)}

theorem done_of_joined (h : joined read s = .done draft rest) :
    ∃ j s₁ s₂ s₃, blanks s = .done () s₁ ∧ joiner s₁ = .done j s₂ ∧ blanks s₂ = .done () s₃ ∧
      read j s₃ = .done draft rest := by
  obtain ⟨_, s₁, hgap, h⟩ := Reader.bind_eq_done.1 h
  obtain ⟨j, s₂, hjoiner, h⟩ := Reader.bind_eq_done.1 h
  obtain ⟨_, s₃, hgap₁, hterm⟩ := Reader.bind_eq_done.1 h
  exact ⟨j, s₁, s₂, s₃, hgap, hjoiner, hgap₁, hterm⟩

theorem done_of_sequence (h : sequence read s = .done drafts rest) :
    ∃ first others middle, read .and s = .done first middle ∧
      Reader.many (joined read) middle = .done others rest ∧ drafts = first :: others := by
  rw [sequence_eq] at h
  obtain ⟨first, middle, hfirst, h⟩ := Reader.bind_eq_done.1 h
  obtain ⟨others, _, hothers, h⟩ := Reader.bind_eq_done.1 h
  cases h
  exact ⟨first, others, middle, hfirst, hothers, rfl⟩

theorem done_of_group (h : group j inner s = .done draft rest) :
    ∃ children s₁ s₂ s₃, s = '(' :: s₁ ∧ blanks s₁ = .done () s₂ ∧
      inner s₂ = .done children s₃ ∧ blanks s₃ = .done () (')' :: rest) ∧
        draft = .group j children := by
  obtain ⟨_, s₁, hopen, h⟩ := Reader.bind_eq_done.1 h
  obtain ⟨_, s₂, hgap, h⟩ := Reader.bind_eq_done.1 h
  obtain ⟨children, s₃, hchildren, h⟩ := Reader.bind_eq_done.1 h
  obtain ⟨_, _, hgap₁, h⟩ := Reader.bind_eq_done.1 h
  obtain ⟨_, _, hclose, h⟩ := Reader.bind_eq_done.1 h
  cases h
  obtain rfl := eq_cons_of_mark hopen
  obtain rfl := eq_cons_of_mark hclose
  exact ⟨children, s₁, s₂, s₃, rfl, hgap, hchildren, hgap₁, rfl⟩

/-- Without levels left a term is a condition. -/
theorem condition_of_term_zero (h : term 0 j s = .done draft rest) :
    condition j s = .done draft rest := by
  rcases Reader.done_of_orElse h with h | h
  · unfold noGroup at h
    split at h <;> cases h
  · exact h

end Inversion

/-- The drafts that the reader reads as terms have derivations for the nodes they stand for. -/
def Derives (levels : Nat) (read : Joiner → Reader Draft) : Prop :=
  ∀ {j : Joiner} {draft : Draft} {node : Node} {s rest : Text},
    read j s = .done draft rest → draft.build = .ok node → Term levels j node s rest

theorem condition_derives (levels : Nat) : Derives levels condition := by
  intro j draft node s rest h hbuild
  obtain ⟨fields, op, operand, _, _, hfields, hgap, hcomparison, rfl⟩ := done_of_condition h
  rw [Draft.build] at hbuild
  obtain ⟨hne, hall, rfl, -⟩ := run_eq_done hfields
  exact .condition hne hall (gap_of_blanks hgap) (comparison_derives hcomparison) hbuild

variable {levels : Nat} {read : Joiner → Reader Draft} {drafts : List Draft} {nodes : List Node}

theorem others_derives (hread : Derives levels read)
    (h : Reader.many (joined read) s = .done drafts rest)
    (hbuild : Draft.buildAll drafts = .ok nodes) : Others levels nodes s rest := by
  revert nodes
  refine Reader.many_induction
    (motive := fun drafts s rest => ∀ {nodes}, Draft.buildAll drafts = .ok nodes →
      Others levels nodes s rest) ?_ ?_ h
  · intro s nodes hbuild
    rw [Draft.buildAll] at hbuild
    cases hbuild
    exact .nil
  · intro draft drafts s middle rest hterm _ ih nodes hbuild
    obtain ⟨j, _, _, _, hgap, hjoiner, hgap₁, hterm⟩ := done_of_joined hterm
    obtain ⟨node, others, hnode, hothers, rfl⟩ := Draft.buildAll_cons.1 hbuild
    exact .cons (gap_of_blanks hgap) (keyword_of_joiner hjoiner) (gap_of_blanks hgap₁)
      (hread hterm hnode) (ih hothers)

theorem sequence_derives (hread : Derives levels read)
    (h : sequence read s = .done drafts rest) (hbuild : Draft.buildAll drafts = .ok nodes) :
    Sequence levels nodes s rest := by
  obtain ⟨first, others, _, hfirst, hothers, rfl⟩ := done_of_sequence h
  obtain ⟨node, nodes, hnode, hnodes, rfl⟩ := Draft.buildAll_cons.1 hbuild
  exact .mk (hread hfirst hnode) (others_derives hread hothers hnodes)

theorem group_derives (hread : Derives levels read) :
    Derives (levels + 1) fun j => group j (sequence read) := by
  intro j draft node s rest h hbuild
  obtain ⟨drafts, _, _, _, rfl, hgap, hdrafts, hgap₁, rfl⟩ := done_of_group h
  rw [Draft.build] at hbuild
  obtain ⟨nodes, hnodes, hnode⟩ := bind_eq_ok.1 hbuild
  exact .group (gap_of_blanks hgap) (sequence_derives hread hdrafts hnodes) (gap_of_blanks hgap₁)
    hnode

/-- Whatever is read as a term has a derivation with no more levels than the reader has. -/
theorem term_derives (levels : Nat) : Derives levels (term levels) := by
  induction levels with
  | zero =>
      intro j draft node s rest h hbuild
      exact condition_derives 0 (condition_of_term_zero h) hbuild
  | succ levels ih =>
      intro j draft node s rest h hbuild
      rcases Reader.done_of_orElse h with h | h
      · exact group_derives ih h hbuild
      · exact condition_derives (levels + 1) h hbuild

/-! ### Whole texts -/

/-- A trimmed text has no end of white space. -/
theorem eq_nil_of_suffix_trim (hsuffix : rest <:+ Text.trim s) (hrest : Text.trimStart rest = []) :
    rest = [] := by
  have hblank := List.dropWhile_eq_nil_iff.1 hrest
  have hstops := stops_dropWhile isBlank (Text.trimStart s).reverse
  obtain ⟨t, ht⟩ := hsuffix
  have hreverse : (Text.trimStart s).reverse.dropWhile isBlank = rest.reverse ++ t.reverse := by
    rw [← List.reverse_append, ht, Text.trim, Text.trimEnd, List.reverse_reverse]
  rw [hreverse] at hstops
  rcases List.eq_nil_or_concat rest with rfl | ⟨start, c, rfl⟩
  · rfl
  · have hc : isBlank c = false := by simpa using hstops
    rw [hblank c (by simp)] at hc
    cases hc

/-- A text that is parsed has a derivation, from its first character to its last, and the nodes it
stands for are those that are built along the derivation. -/
theorem parse_derives {s : Text} {nodes : List Node} (h : parse s = .ok nodes) (hne : nodes ≠ []) :
    Sequence 128 nodes (Text.trim s) [] := by
  obtain ⟨-, rfl⟩ | ⟨-, drafts, rest, hread, hrest, hbuild⟩ := parse_eq_ok.1 h
  · exact absurd rfl hne
  · have hsequence := sequence_derives (term_derives maxDepth) hread hbuild
    obtain rfl := eq_nil_of_suffix_trim hsequence.suffix hrest
    exact hsequence

set_option maxRecDepth 4000 in
/-- A group, two keywords in small letters, a bare word, and white space around the text. -/
theorem parse_derives_group :
    let s : Text := " (a > 1 or b|c is NULL)\tAND d like x%\n"
    let nodes : List Node := [
      .group .and [
        .condition .and ⟨"a", [⟨"a", none⟩], .greater, .scalar (.int 1)⟩,
        .condition .or ⟨"b|c", [⟨"b", none⟩, ⟨"c", none⟩], .isNull, .none⟩],
      .condition .and ⟨"d", [⟨"d", none⟩], .like, .scalar (.string "x%")⟩]
    parse s = .ok nodes ∧ nodes ≠ [] ∧ Sequence 128 nodes (Text.trim s) [] := by
  intro s nodes
  have hparse : parse s = .ok nodes := by
    subst s nodes
    cbv
  have hne : nodes ≠ [] := List.cons_ne_nil _ _
  exact ⟨hparse, hne, parse_derives hparse hne⟩

end WhereClause.Shorthand
