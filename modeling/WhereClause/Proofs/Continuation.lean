import WhereClause.Proofs.Derivation
import WhereClause.Proofs.ReadComparison

/-!
# More text behind a reading

Readers look ahead: a word goes on as long as it can, a keyword must not be followed by a letter, a
text in quotes not by another quote.  All the same a condition that was read up to some place is
read in the same way, up to the same place, when more text is put behind the whole, provided that
this text does not go on like a value.

Two properties of readers carry this.  Some readers answer in the same way, whether or not they
match.  The others, which look for a bracket or a quote far ahead, may match later where they did
not match before; for these only what is read stays as it is.  White space and symbols are a third
kind: they stay as they are only if something follows them, which is then what the next reader
reads.

Main definitions:

* `Reading.append`: what a reader answers, with more text behind what is left;
* `Reader.Local`, `Reader.Continues`, `Reader.ContinuesInside`: the three properties;
* `Reader.NeedsText`: the reader reads nothing from the empty text.

Main results:

* `local_keyword`, `local_joiner`: keywords are recognised in the same way;
* `continues_value`, `continues_comparison`: what was read as a value or a comparison still is;
* `continues_condition`: **so is a whole condition**.
-/

set_option autoImplicit false

namespace WhereClause

/-! ### Bytes -/

theorem Text.dropBytes?_append_of_some {n : Nat} {s rest : Text}
    (h : dropBytes? n s = some rest) (u : Text) : dropBytes? n (s ++ u) = some (rest ++ u) := by
  induction s generalizing n with
  | nil =>
      cases n with
      | zero =>
          rw [dropBytes?] at h ⊢
          cases h
          rfl
      | succ n => cases h
  | cons c s ih =>
      cases n with
      | zero =>
          rw [dropBytes?] at h ⊢
          cases h
          rfl
      | succ n =>
          rw [List.cons_append]
          rw [dropBytes?] at h ⊢
          split at h
          · rename_i hfits
            rw [if_pos hfits]
            exact ih h
          · cases h

theorem Text.length_le_byteLength (s : Text) : s.length ≤ byteLength s := by
  induction s with
  | nil => exact Nat.le_refl 0
  | cons c s ih =>
      have hpos := c.utf8Size_pos
      rw [List.length_cons, byteLength_cons]
      omega

namespace Shorthand

open Grammar

/-! ### Readers that do not look at what is put behind -/

variable {α β : Type} {u : Text}

/-- The same answer, with `u` behind what is left. -/
def Reading.append (u : Text) : Reading α → Reading α
  | .done a rest => .done a (rest ++ u)
  | .unmatched e rest => .unmatched e (rest ++ u)
  | .tooDeep rest => .tooDeep (rest ++ u)
  | .insideChar => .insideChar

namespace Reader

variable {x : Reader α}

/-- The reader answers in front of `u` as it does at the end of the text.  Where it cannot cut the
text it promises nothing, since the text may be too short for the keyword in characters and long
enough for it in bytes. -/
def Local (u : Text) (x : Reader α) : Prop :=
  ∀ s, x s ≠ .insideChar → x (s ++ u) = (x s).append u

/-- What the reader reads at the end of a text it also reads in front of `u`. -/
def Continues (u : Text) (x : Reader α) : Prop :=
  ∀ ⦃s a rest⦄, x s = .done a rest → x (s ++ u) = .done a (rest ++ u)

/-- What the reader reads inside a text it also reads if the text goes on with `u`. -/
def ContinuesInside (u : Text) (x : Reader α) : Prop :=
  ∀ ⦃s a rest⦄, x s = .done a rest → rest ≠ [] → x (s ++ u) = .done a (rest ++ u)

/-- The reader reads nothing from the empty text. -/
def NeedsText (x : Reader α) : Prop :=
  ∀ a rest, x [] ≠ .done a rest

theorem Local.pure (u : Text) (a : α) : Local u (pure a : Reader α) :=
  fun _ _ => rfl

theorem Local.bind {f : α → Reader β} (hx : Local u x) (hf : ∀ a, Local u (f a)) :
    Local u (x >>= f) := by
  intro s hs
  rw [bind_apply] at hs
  have hcut : x s ≠ .insideChar := by
    intro hcut
    rw [hcut] at hs
    exact hs rfl
  rw [bind_apply, bind_apply, hx s hcut]
  cases hread : x s with
  | done a rest =>
      rw [hread] at hs
      exact hf a rest hs
  | _ => rfl

theorem Local.orElse {y : Reader α} (hx : Local u x) (hy : Local u y) : Local u (x <|> y) := by
  intro s hs
  rw [orElse_apply] at hs
  have hcut : x s ≠ .insideChar := by
    intro hcut
    rw [hcut] at hs
    exact hs rfl
  rw [orElse_apply, orElse_apply, hx s hcut]
  cases hread : x s with
  | unmatched e rest =>
      rw [hread] at hs
      exact hy s hs
  | _ => rfl

theorem Local.ofOption {e : Expected} {f : Text → Option (α × Text)}
    (hf : ∀ s, f (s ++ u) = (f s).map fun (a, rest) => (a, rest ++ u)) :
    Local u (ofOption e f) := by
  intro s _
  rw [Reader.ofOption, Reader.ofOption, hf]
  cases f s <;> rfl

theorem Local.continues (h : Local u x) : Continues u x := by
  intro s a rest hread
  have hcut : x s ≠ .insideChar := by
    rw [hread]
    simp
  rw [h s hcut, hread]
  rfl

/-! ### One reader after another -/

theorem continues_pure (u : Text) (a : α) : Continues u (pure a : Reader α) :=
  (Local.pure u a).continues

theorem Continues.bind {f : α → Reader β} (hx : Continues u x) (hf : ∀ a, Continues u (f a)) :
    Continues u (x >>= f) := by
  intro s b rest hread
  obtain ⟨a, middle, hread, hrest⟩ := bind_eq_done.1 hread
  exact (bind_done (hx hread)).trans (hf a hrest)

theorem NeedsText.ne_nil (h : NeedsText x) {s rest : Text} {a : α} (hread : x s = .done a rest) :
    s ≠ [] := by
  rintro rfl
  exact h a rest hread

/-- Behind a reader of the third kind there must be one that needs text. -/
theorem ContinuesInside.bind {f : α → Reader β} (hx : ContinuesInside u x)
    (hf : ∀ a, Continues u (f a)) (hneeds : ∀ a, NeedsText (f a)) : Continues u (x >>= f) := by
  intro s b rest hread
  obtain ⟨a, middle, hread, hrest⟩ := bind_eq_done.1 hread
  exact (bind_done (hx hread ((hneeds a).ne_nil hrest))).trans (hf a hrest)

theorem Continues.ofOption {e : Expected} {f : Text → Option (α × Text)}
    (hf : ∀ s a rest, f s = some (a, rest) → f (s ++ u) = some (a, rest ++ u)) :
    Continues u (ofOption e f) :=
  fun s a rest hread => ofOption_eq_done.2 (hf s a rest (ofOption_eq_done.1 hread))

theorem NeedsText.bind {f : α → Reader β} (hx : NeedsText x) : NeedsText (x >>= f) := by
  intro b rest hread
  obtain ⟨a, middle, hread, -⟩ := bind_eq_done.1 hread
  exact hx a middle hread

theorem NeedsText.orElse {y : Reader α} (hx : NeedsText x) (hy : NeedsText y) :
    NeedsText (x <|> y) := by
  intro a rest hread
  rcases done_of_orElse hread with hread | hread
  · exact hx a rest hread
  · exact hy a rest hread

end Reader

/-! ### White space, words and keywords -/

theorem continuesInside_blanks (u : Text) : Reader.ContinuesInside u blanks := by
  intro s _ rest hread hne
  have hstops : Stops isGap rest := by
    cases hread
    exact stops_dropWhile isGap s
  obtain ⟨gap, hgap, rfl⟩ := gap_of_blanks hread
  rw [List.append_assoc, blanks,
    dropWhile_append_of_stops hgap (hstops.append_of_ne_nil hne u)]

theorem continuesInside_blanks₁ (u : Text) : Reader.ContinuesInside u blanks₁ := by
  intro s _ rest hread hne
  cases s with
  | nil => cases hread
  | cons c s =>
      rw [blanks₁] at hread
      rw [List.cons_append, blanks₁]
      split at hread
      · rename_i hc
        rw [if_pos hc]
        cases hread
        have hblanks : blanks s = .done () (s.dropWhile isGap) := rfl
        exact continuesInside_blanks u hblanks hne
      · cases hread

theorem continuesInside_run (p : Char → Bool) (u : Text) : Reader.ContinuesInside u (run p) := by
  intro s word rest hread hne
  obtain ⟨hword, hall, rfl, hstops⟩ := run_eq_done hread
  rw [List.append_assoc]
  exact run_append hword hall (hstops.append_of_ne_nil hne u)

theorem local_run {p : Char → Bool} (hu : Stops p u) : Reader.Local u (run p) := by
  intro s _
  rw [run, run, takeWhile_append_stops s hu, dropWhile_append_stops s hu]
  split <;> rfl

theorem isUpper_of_endsBeforeKelvin {word : Text} (h : EndsBeforeKelvin word = true) :
    ∀ k ∈ word, k.isUpper = true := by
  induction word with
  | nil => simp
  | cons k word ih =>
      simp only [EndsBeforeKelvin, Bool.and_eq_true] at h
      exact List.forall_mem_cons.2 ⟨h.1.1, ih h.2⟩

/-- What counts as a capital letter is a letter. -/
theorem isWordChar_of_foldCase {c k : Char} (hk : k.isUpper = true) (h : foldCase c = foldCase k) :
    isWordChar c = true := by
  have hletters : ∀ n < 26, isWordChar (Char.ofNat (65 + n)) = true ∧
      isWordChar (Char.ofNat (65 + n)).toLower = true := by decide
  by_cases hc : c = '\u212a'
  · rw [hc]
    decide +kernel
  · have hcase := eq_or_eq_toLower hk hc h
    obtain ⟨n, hn, rfl⟩ := exists_upper hk
    obtain ⟨hupper, hlower⟩ := hletters n hn
    rcases hcase with rfl | rfl
    · exact hupper
    · exact hlower

theorem Agree.of_append {s word : Text} (h : Agree (s ++ u) word) : Agree s word := by
  induction s generalizing word with
  | nil => rfl
  | cons c s ih =>
      cases word with
      | nil => rfl
      | cons k word =>
          rw [List.cons_append, agree_cons] at h
          exact agree_cons.2 ⟨h.1, ih h.2⟩

theorem beginsWith_iff {word s : Text} : beginsWith word s = true ↔
    Agree s word ∧ Text.byteLength word ≤ Text.byteLength s := by
  rw [beginsWith, Bool.and_eq_true, decide_eq_true_eq, Agree]

/-- A text that agrees with a longer word agrees with it behind its end, too. -/
theorem Agree.exists_next {s word : Text} {c : Char} (h : Agree (s ++ c :: u) word)
    (hlength : s.length < word.length) : ∃ k ∈ word, foldCase c = foldCase k := by
  induction s generalizing word with
  | nil =>
      obtain ⟨k, word, rfl⟩ := List.exists_cons_of_length_pos hlength
      exact ⟨k, List.mem_cons_self, (agree_cons.1 h).1⟩
  | cons d s ih =>
      cases word with
      | nil => cases hlength
      | cons k word =>
          rw [List.cons_append, agree_cons] at h
          obtain ⟨l, hl, hfold⟩ := ih h.2 (Nat.lt_of_succ_lt_succ hlength)
          exact ⟨l, List.mem_cons_of_mem k hl, hfold⟩

/-- A keyword for which the text is too short does not go on behind it. -/
theorem not_beginsWith_append {word s : Text} (hword : EndsBeforeKelvin word = true)
    (hu : Stops isWordChar u) (h : ¬beginsWith word s = true) :
    ¬beginsWith word (s ++ u) = true := by
  rw [beginsWith_iff] at h ⊢
  rintro ⟨hagree, hlong⟩
  have hshort : Text.byteLength s < Text.byteLength word := by
    by_contra hge
    exact h ⟨hagree.of_append, Nat.not_lt.1 hge⟩
  cases u with
  | nil =>
      rw [List.append_nil] at hlong
      omega
  | cons c u =>
      have hlength : s.length < word.length := by
        have hle := Text.length_le_byteLength s
        rw [byteLength_of_endsBeforeKelvin hword] at hshort
        omega
      obtain ⟨k, hk, hfold⟩ := hagree.exists_next hlength
      have hletter := isWordChar_of_foldCase (isUpper_of_endsBeforeKelvin hword k hk) hfold
      rw [stops_cons.1 hu] at hletter
      cases hletter

/-- A keyword is recognised in front of more text as it is at the end. -/
theorem local_keyword {word : Text} (hword : EndsBeforeKelvin word = true)
    (hu : Stops isWordChar u) : Reader.Local u (keyword word) := by
  intro s hs
  by_cases hbegins : beginsWith word s = true
  · obtain ⟨hagree, hlong⟩ := beginsWith_iff.1 hbegins
    cases hcut : Text.dropBytes? (Text.byteLength word) s with
    | none => exact absurd (keyword_insideChar hbegins hcut) hs
    | some rest =>
        obtain ⟨written, hwritten, hs⟩ := cased_of_agree hword hagree hcut
        have hbehind : beginsWith word (s ++ u) = true := by
          rw [beginsWith_iff, Text.byteLength_append, hs, List.append_assoc, ← hs]
          exact ⟨hwritten.agree (rest ++ u), Nat.le_add_right_of_le hlong⟩
        rw [keyword_cut hbegins hcut, keyword_cut hbehind (Text.dropBytes?_append_of_some hcut u),
          any_head?_append_stops rest hu]
        split <;> rfl
  · rw [keyword_of_not_beginsWith hbegins,
      keyword_of_not_beginsWith (not_beginsWith_append hword hu hbegins)]
    rfl

theorem needsText_keyword {word : Text} (hne : Text.byteLength word ≠ 0) :
    Reader.NeedsText (keyword word) := by
  intro _ _ hread
  have hbegins : ¬beginsWith word [] = true := by
    rw [beginsWith, Bool.and_eq_true, decide_eq_true_eq, Text.byteLength_nil]
    omega
  rw [keyword_of_not_beginsWith hbegins] at hread
  cases hread

/-! ### Values -/

theorem fraction?_append (hu : Stops isBareChar u) (s : Text) :
    fraction? (s ++ u) = (fraction? s).map fun (digits, rest) => (digits, rest ++ u) := by
  cases s with
  | nil =>
      refine fraction?_of_head u fun hpoint => ?_
      exact absurd (hu _ hpoint) (by decide)
  | cons c s =>
      by_cases hc : c = '.'
      · subst hc
        rw [List.cons_append, fraction?, Numeral.span_append_stops s (stops_digit_of_bare hu),
          fraction?]
        rcases Numeral.span s with ⟨digits, rest⟩
        cases digits <;> rfl
      · have hnone : ∀ t, fraction? (c :: t) = none := fun t =>
          fraction?_of_head _ fun h => hc (Option.some.inj h)
        rw [List.cons_append, hnone, hnone]
        rfl

theorem unsigned?_append (negative : Bool) (hu : Stops isBareChar u) (s : Text) :
    unsigned? negative (s ++ u) =
      (unsigned? negative s).map fun (v, rest) => (v, rest ++ u) := by
  rw [unsigned?, Numeral.span_append_stops s (stops_digit_of_bare hu), unsigned?]
  rcases Numeral.span s with ⟨digits, rest⟩
  cases digits with
  | nil => rfl
  | cons c digits =>
      dsimp only
      rw [fraction?_append hu]
      cases fraction? rest with
      | none =>
          rw [Option.map_none]
          dsimp only
          rw [Option.map_map]
          rfl
      | some pair => rfl

/-- A number without a sign goes on as a word with `u` behind it only if it does without. -/
theorem endedNumber_append (negative : Bool) (hu : Stops isBareChar u) (s : Text) :
    (match unsigned? negative (s ++ u) with
      | some (v, rest) => if rest.head?.any isBareChar then none else some (v, rest)
      | none => none) =
    (match unsigned? negative s with
      | some (v, rest) => if rest.head?.any isBareChar then none else some (v, rest)
      | none => none : Option (Value × Text)).map fun (v, rest) => (v, rest ++ u) := by
  rw [unsigned?_append negative hu]
  rcases unsigned? negative s with _ | ⟨v, rest⟩
  · rfl
  · simp only [Option.map_some, any_head?_append_stops rest hu]
    split <;> rfl

/-- The sign is read from the same place, and what follows is a number without a sign. -/
theorem number?_append (hu : Stops isBareChar u) (s : Text) :
    number? (s ++ u) = (number? s).map fun (v, rest) => (v, rest ++ u) := by
  cases s with
  | nil =>
      have hminus : u.head? ≠ some '-' := fun h => absurd (hu _ h) (by decide)
      cases u with
      | nil => rfl
      | cons c u =>
          have hc : c ≠ '-' := fun h => hminus (congrArg some h)
          rw [List.nil_append, number?_unsigned hc]
          exact endedNumber_append false hu []
  | cons c s =>
      by_cases hc : c = '-'
      · subst hc
        exact endedNumber_append true hu s
      · rw [List.cons_append, number?_unsigned hc, number?_unsigned hc]
        exact endedNumber_append false hu (c :: s)

/-- Reads a value that is not in quotes. -/
def unquoted : Reader Value :=
  (keyword "NULL" *> pure .null)
    <|> (keyword "TRUE" *> pure (.bool true))
    <|> (keyword "FALSE" *> pure (.bool false))
    <|> Reader.ofOption .word number?
    <|> bareWord

theorem value_eq : value = (quotedText <|> unquoted) := rfl

theorem local_unquoted (hu : Stops isBareChar u) : Reader.Local u unquoted := by
  have hstops : Stops isWordChar u := hu.mono fun c hc => by simp [isBareChar, hc]
  have hword : ∀ (word : Text) (v : Value), EndsBeforeKelvin word = true →
      Reader.Local u (keyword word *> pure v : Reader Value) := fun word v h =>
    (local_keyword h hstops).bind fun _ => .pure u v
  refine (hword "NULL" .null (by decide)).orElse ?_
  refine (hword "TRUE" (.bool true) (by decide)).orElse ?_
  refine (hword "FALSE" (.bool false) (by decide)).orElse ?_
  refine (Reader.Local.ofOption (number?_append hu)).orElse ?_
  exact (local_run hu).bind fun word => .pure u (Value.string word)

theorem needsText_unquoted : Reader.NeedsText unquoted := by
  rintro _ _ ⟨⟩

/-- No value without quotes begins with a quote. -/
theorem unquoted_quote {s rest : Text} {v : Value} : unquoted ('\'' :: s) ≠ .done v rest := by
  intro hread
  rw [unquoted, Reader.orElse_unmatched (keyword_value_head "NULL" rfl (by decide)),
    Reader.orElse_unmatched (keyword_value_head "TRUE" rfl (by decide)),
    Reader.orElse_unmatched (keyword_value_head "FALSE" rfl (by decide))] at hread
  cases hread

section Behind

variable (hu : Stops isValueChar u)

include hu

theorem continues_quotedText : Reader.Continues u quotedText := by
  intro s v rest hread
  obtain ⟨content, hcontent, rfl⟩ := Reader.map_eq_done.1 hread
  have hcontent := Reader.ofOption_eq_done.1 hcontent
  cases s with
  | nil => cases hcontent
  | cons c s =>
      rw [Quoted.read?] at hcontent
      split at hcontent
      · rename_i hc
        obtain ⟨rfl, hrest⟩ := Quoted.eq_of_readBody? hcontent
        have hquote : (rest ++ u).head? ≠ some '\'' := by
          cases rest with
          | nil => exact stops_quote hu
          | cons d rest => exact hrest
        have hwritten := quotedText_write content hquote
        rw [Quoted.write, List.cons_append, List.append_assoc] at hwritten
        rw [hc, List.cons_append, List.append_assoc]
        exact hwritten
      · cases hcontent

/-- What was read as a value is read as that value in front of more text. -/
theorem continues_value : Reader.Continues u value := by
  intro s v rest hread
  rw [value_eq] at hread ⊢
  rcases Reader.done_of_orElse hread with hquoted | hunquoted
  · exact Reader.orElse_done (continues_quotedText hu hquoted)
  · -- a quote that is not closed might be closed by what follows, but here there is no quote
    cases s with
    | nil => exact absurd hunquoted (needsText_unquoted v rest)
    | cons c s =>
        have hc : c ≠ '\'' := by
          rintro rfl
          exact unquoted_quote hunquoted
        rw [List.cons_append, Reader.orElse_unmatched (quotedText_cons_of_ne hc),
          ← List.cons_append]
        exact (local_unquoted (stops_bare hu)).continues hunquoted

omit hu in
theorem needsText_value : Reader.NeedsText value :=
  Reader.NeedsText.orElse (fun _ _ h => by cases h) needsText_unquoted

/-! ### Comparisons -/

theorem continues_keyword {word : Text} (hword : EndsBeforeKelvin word = true) :
    Reader.Continues u (keyword word) :=
  (local_keyword hword (stops_word hu)).continues

/-- `NULL` behind `IS`, with or without `NOT` in front of it. -/
theorem continues_nullity : Reader.Continues u (do
    let negation ← Reader.optional (do keyword "NOT"; blanks₁)
    keyword "NULL"
    return (if negation.isSome then .isNotNull else .isNull, .none) :
      Reader (Operator × Operand)) := by
  intro s parts rest h
  obtain ⟨negation, middle, hnegation, h⟩ := Reader.bind_eq_done.1 h
  obtain ⟨_, _, hnull, hparts⟩ := Reader.bind_eq_done.1 h
  have hbehind : Reader.optional (do keyword "NOT"; blanks₁) (s ++ u) =
      .done negation (middle ++ u) := by
    rcases Reader.done_of_optional hnegation with ⟨_, rfl, hread⟩ | ⟨rfl, rfl⟩
    · obtain ⟨_, _, hnot, hgap⟩ := Reader.bind_eq_done.1 hread
      have hne : middle ≠ [] := (needsText_keyword (by decide)).ne_nil hnull
      refine Reader.optional_done ?_
      rw [Reader.bind_done (continues_keyword hu (by decide) hnot)]
      exact continuesInside_blanks₁ u hgap hne
    · -- there is no NOT where NULL was read
      obtain ⟨written, hwritten, rfl, -⟩ := keyword_derives (by decide) hnull
      rw [List.append_assoc]
      exact Reader.optional_unmatched (Reader.bind_unmatched (keyword_other hwritten (by decide)))
  rw [Reader.bind_done hbehind, Reader.bind_done (continues_keyword hu (by decide) hnull)]
  cases hparts
  rfl

theorem continues_nullCheck : Reader.Continues u nullCheck := by
  refine (continues_keyword hu (by decide)).bind fun _ => ?_
  refine (continuesInside_blanks₁ u).bind (fun _ => continues_nullity hu) fun _ _ _ hread => ?_
  cases hread

theorem continues_between : Reader.Continues u between := by
  refine (continues_keyword hu (by decide)).bind fun _ => ?_
  refine (continuesInside_blanks u).bind (fun _ => ?_) fun _ => needsText_value.bind
  refine (continues_value hu).bind fun low => ?_
  refine (continuesInside_blanks₁ u).bind (fun _ => ?_) fun _ =>
    (needsText_keyword (by decide)).bind
  refine (continues_keyword hu (by decide)).bind fun _ => ?_
  refine (continuesInside_blanks u).bind (fun _ => ?_) fun _ => needsText_value.bind
  exact (continues_value hu).bind fun high => Reader.continues_pure u _

omit hu in
theorem continues_alternatives (body u : Text) : Reader.Continues u (alternatives body) := by
  intro s operand rest hread
  rw [alternatives] at hread ⊢
  split at hread
  · rename_i hquery
    rw [if_pos hquery]
    cases hread
    rfl
  · rename_i hquery
    rw [if_neg hquery]
    split at hread
    · cases hread
      rfl
    all_goals cases hread

theorem continues_membership : Reader.Continues u membership := by
  refine (continues_keyword hu (by decide)).bind fun _ => ?_
  refine (continuesInside_blanks u).bind (fun _ => ?_) fun _ _ _ hread => by cases hread
  refine Reader.Continues.bind (.ofOption fun s body rest hread => ?_) fun body => ?_
  · obtain ⟨rfl, hbalanced⟩ := balanced_of_bracketed? hread
    rw [List.cons_append, List.append_assoc]
    exact bracketed?_balanced hbalanced (rest ++ u)
  · exact (continues_alternatives body u).bind fun operand => Reader.continues_pure u _

theorem continues_pattern : Reader.Continues u pattern := by
  refine (continues_keyword hu (by decide)).bind fun _ => ?_
  refine (continuesInside_blanks u).bind (fun _ => ?_) fun _ => needsText_value.bind
  exact (continues_value hu).bind fun v => Reader.continues_pure u _

omit hu in
theorem dropStart?_append_of_length {start s : Text} (h : start.length ≤ s.length) :
    Text.dropStart? start (s ++ u) = (Text.dropStart? start s).map (· ++ u) := by
  induction start generalizing s with
  | nil => rfl
  | cons d start ih =>
      cases s with
      | nil => cases h
      | cons c s =>
          rw [List.cons_append, Text.dropStart?, Text.dropStart?, ih (Nat.le_of_succ_le_succ h)]
          split <;> rfl

omit hu in
/-- A symbol that has something behind it is not the beginning of a longer one. -/
theorem continuesInside_symbol? (e : Expected) (u : Text) :
    Reader.ContinuesInside u (Reader.ofOption e symbol?) := by
  intro s op rest hread hne
  have hread := Reader.ofOption_eq_done.1 hread
  have htwo : 2 ≤ s.length := by
    have hrest : 0 < rest.length := List.length_pos_iff.2 hne
    have hsymbol : ∀ op : Operator, 0 < op.symbol.length := by
      intro op
      cases op <;> decide
    cases symbol_of_symbol? hread with
    | own _ =>
        have := hsymbol op
        rw [List.length_append]
        omega
    | angles =>
        rw [List.length_cons, List.length_cons]
        omega
  have hsymbols : ∀ entry ∈ symbols, entry.1.length ≤ s.length := by
    have hshort : ∀ entry ∈ symbols, entry.1.length ≤ 2 := by decide
    exact fun entry hentry => Nat.le_trans (hshort entry hentry) htwo
  have hsame : symbol? (s ++ u) = (symbol? s).map fun (op, rest) => (op, rest ++ u) := by
    unfold symbol?
    generalize symbols = table at hsymbols
    induction table with
    | nil => rfl
    | cons entry table ih =>
        rw [List.forall_mem_cons] at hsymbols
        obtain ⟨symbol, op⟩ := entry
        have hdrop := @dropStart?_append_of_length u symbol s hsymbols.1
        rw [List.findSome?_cons, List.findSome?_cons, ih hsymbols.2]
        dsimp only
        rw [hdrop]
        cases Text.dropStart? symbol s <;> rfl
  refine Reader.ofOption_eq_done.2 ?_
  rw [hsame, hread]
  rfl

theorem continues_plainComparison : Reader.Continues u plainComparison := by
  refine (continuesInside_symbol? .symbol u).bind (fun op => ?_) fun op => ?_
  · refine (continuesInside_blanks u).bind (fun _ => ?_) fun _ => needsText_value.bind
    exact (continues_value hu).bind fun v => Reader.continues_pure u _
  · rintro _ _ ⟨⟩

omit hu in
/-- Where one keyword was read another is not. -/
theorem keyword_skip_read {other s rest : Text} {v : Unit} (hother : EndsBeforeKelvin other = true)
    (hread : keyword other s = .done v rest) (word : Text) (hne : ¬Agree other word) (u : Text) :
    keyword word (s ++ u) = .unmatched .symbol (s ++ u) := by
  obtain ⟨written, hwritten, rfl, -⟩ := keyword_derives hother hread
  rw [List.append_assoc]
  exact keyword_other hwritten hne

omit hu in
/-- Where a symbol was read no keyword is. -/
theorem keyword_skip_symbol? {e : Expected} {op : Operator} {s rest : Text}
    (hread : Reader.ofOption e symbol? s = .done op rest) (word : Text) {k : Char}
    (hk : word.head? = some k) (hletter : foldCase k ∉ "=!<>".toList) (u : Text) :
    keyword word (s ++ u) = .unmatched .symbol (s ++ u) := by
  cases symbol_of_symbol? (Reader.ofOption_eq_done.1 hread) with
  | own hop =>
      rw [List.append_assoc]
      exact keyword_skip_symbol hop word hk hletter (rest ++ u)
  | angles =>
      refine keyword_head word hk fun hfold => hletter ?_
      rw [← hfold]
      decide

/-- What was read as a comparison is read as that comparison in front of more text. -/
theorem continues_comparison : Reader.Continues u comparison := by
  intro s parts rest hread
  rw [comparison]
  -- the form is settled by the keyword or symbol, which rules out the forms tried before it
  rcases Reader.done_of_orElse hread with hread | hread
  · exact Reader.orElse_done (continues_nullCheck hu hread)
  rcases Reader.done_of_orElse hread with hread | hread
  · obtain ⟨_, _, hword, -⟩ := Reader.bind_eq_done.1 hread
    have hskip := keyword_skip_read (by decide) hword
    rw [Reader.orElse_unmatched (nullCheck_other (hskip "IS" (by decide) u))]
    exact Reader.orElse_done (continues_between hu hread)
  rcases Reader.done_of_orElse hread with hread | hread
  · obtain ⟨_, _, hword, -⟩ := Reader.bind_eq_done.1 hread
    have hskip := keyword_skip_read (by decide) hword
    rw [Reader.orElse_unmatched (nullCheck_other (hskip "IS" (by decide) u)),
      Reader.orElse_unmatched (between_other (hskip "BETWEEN" (by decide) u))]
    exact Reader.orElse_done (continues_membership hu hread)
  rcases Reader.done_of_orElse hread with hread | hread
  · obtain ⟨_, _, hword, -⟩ := Reader.bind_eq_done.1 hread
    have hskip := keyword_skip_read (by decide) hword
    rw [Reader.orElse_unmatched (nullCheck_other (hskip "IS" (by decide) u)),
      Reader.orElse_unmatched (between_other (hskip "BETWEEN" (by decide) u)),
      Reader.orElse_unmatched (membership_other (hskip "IN" (by decide) u))]
    exact Reader.orElse_done (continues_pattern hu hread)
  · obtain ⟨_, _, hsymbol, -⟩ := Reader.bind_eq_done.1 hread
    have hskip : ∀ (word : Text) (k : Char), word.head? = some k → foldCase k ∉ "=!<>".toList →
        keyword word (s ++ u) = .unmatched .symbol (s ++ u) := fun word k hk hletter =>
      keyword_skip_symbol? hsymbol word hk hletter u
    rw [Reader.orElse_unmatched (nullCheck_other (hskip "IS" 'I' rfl (by decide))),
      Reader.orElse_unmatched (between_other (hskip "BETWEEN" 'B' rfl (by decide))),
      Reader.orElse_unmatched (membership_other (hskip "IN" 'I' rfl (by decide))),
      Reader.orElse_unmatched (pattern_other (hskip "LIKE" 'L' rfl (by decide)))]
    exact continues_plainComparison hu hread

omit hu in
theorem needsText_comparison : Reader.NeedsText comparison := by
  have hkeyword : ∀ (word : Text) (f : Unit → Reader (Operator × Operand)),
      Text.byteLength word ≠ 0 → Reader.NeedsText (keyword word >>= f) := fun word f h =>
    (needsText_keyword h).bind
  refine (hkeyword "IS" _ (by decide)).orElse ?_
  refine (hkeyword "BETWEEN" _ (by decide)).orElse ?_
  refine (hkeyword "IN" _ (by decide)).orElse ?_
  refine (hkeyword "LIKE" _ (by decide)).orElse ?_
  exact fun _ _ h => by cases h

/-! ### Conditions and joiners -/

/-- What was read as a condition is read as that condition in front of more text. -/
theorem continues_condition (j : Joiner) : Reader.Continues u (condition j) := by
  refine (continuesInside_run isFieldChar u).bind (fun fields => ?_) fun _ => ?_
  · refine (continuesInside_blanks u).bind (fun _ => ?_) fun _ => needsText_comparison.bind
    exact (continues_comparison hu).bind fun parts => Reader.continues_pure u _
  · intro _ _ h
    obtain ⟨_, _, hblanks, h⟩ := Reader.bind_eq_done.1 h
    cases hblanks
    exact needsText_comparison.bind _ _ h

theorem local_joiner : Reader.Local u joiner := by
  have hword : ∀ (word : Text) (j : Joiner), EndsBeforeKelvin word = true →
      Reader.Local u (keyword word *> pure j : Reader Joiner) := fun word j h =>
    (local_keyword h (stops_word hu)).bind fun _ => .pure u j
  exact (hword "AND" .and (by decide)).orElse (hword "OR" .or (by decide))

omit hu in
theorem needsText_joiner : Reader.NeedsText joiner :=
  (needsText_keyword (by decide)).bind.orElse (needsText_keyword (by decide)).bind

end Behind

end Shorthand

end WhereClause
