import WhereClause.Proofs.Cuts
import WhereClause.Proofs.Trimming

/-!
# The parser is safe

Whatever the text, as long as it has no Kelvin sign behind the letters `li`, the parser comes to an
end of its own: there are nodes, or a fault at a place of the text, or a condition is refused.  Two
things have to be followed for this.  A reader stops at an end of the text that it was given, and
not inside a character; here the failing reading of a list is an exception, since it names a place
in the brackets alone, but such a failure is never told.  And what is read has been written as the
grammar has it, so that the checks of a condition that are left are the one of its columns and the
one of its pattern.

Main definitions:

* `Reading.Stays`, `Reader.Careful`: a reading stops at an end of the text;
* `Draft.Written`, `Draft.Refused`: a draft as it comes out of a text, and a draft that is refused.

Main results:

* `careful_value`, `careful_comparison`, `careful_term`, `careful_sequence`: readers are careful;
* `Grammar.Comparison.eq_noPattern_of_fit`: what may be wrong with an operand that was written;
* `refused_of_buildAll`: what may be wrong with drafts that were read;
* `parse_safe`: **the parser never cuts a character, and always has an answer**.
-/

set_option autoImplicit false

namespace WhereClause.Shorthand

open Grammar

/-! ### Readers that stop at an end of the text -/

variable {α β : Type} {told deep : Prop} {s t : Text}

/-- The reading stops at an end of the text `s` and not inside a character.  If it fails, this is
only known if failures are `told`; it may be too deep only if there are groups, that is, if
`deep`. -/
def Reading.Stays (told deep : Prop) (s : Text) : Reading α → Prop
  | .done _ rest => rest <:+ s
  | .unmatched _ rest => told → rest <:+ s
  | .tooDeep rest => deep ∧ rest <:+ s
  | .insideChar => False

theorem Reading.Stays.trans {reading : Reading α} (h : reading.Stays told deep t) (ht : t <:+ s) :
    reading.Stays told deep s := by
  cases reading with
  | done a rest => exact List.IsSuffix.trans h ht
  | unmatched e rest => exact fun htold => List.IsSuffix.trans (h htold) ht
  | tooDeep rest => exact ⟨h.1, List.IsSuffix.trans h.2 ht⟩
  | insideChar => exact h

theorem KelvinFree.suffix (h : KelvinFree s) (ht : t <:+ s) : KelvinFree t :=
  h.mono ht.isInfix

namespace Reader

variable {x y : Reader α}

/-- The reader stops at an end of every text without a Kelvin sign in the wrong place. -/
def Careful (told deep : Prop) (x : Reader α) : Prop :=
  ∀ s, KelvinFree s → (x s).Stays told deep s

theorem careful_pure (a : α) : Careful told deep (pure a : Reader α) :=
  fun _ _ => List.suffix_rfl

theorem stays_bind {f : α → Reader β} (hx : (x s).Stays told deep s)
    (hf : ∀ a rest, x s = .done a rest → (f a rest).Stays told deep rest) :
    ((x >>= f) s).Stays told deep s := by
  rw [bind_apply]
  cases hread : x s with
  | done a rest =>
      rw [hread] at hx
      exact (hf a rest hread).trans hx
  | unmatched e rest =>
      rw [hread] at hx
      exact hx
  | tooDeep rest =>
      rw [hread] at hx
      exact hx
  | insideChar =>
      rw [hread] at hx
      exact hx

theorem Careful.bind {f : α → Reader β} (hx : Careful told deep x)
    (hf : ∀ a, Careful told deep (f a)) : Careful told deep (x >>= f) := by
  intro s hs
  refine stays_bind (hx s hs) fun a rest hread => hf a rest ?_
  have hrest := hx s hs
  rw [hread] at hrest
  exact hs.suffix hrest

/-- Only the failures of the last alternative are told. -/
theorem Careful.orElse (hx : Careful False deep x) (hy : Careful told deep y) :
    Careful told deep (x <|> y) := by
  intro s hs
  have hstays := hx s hs
  rw [orElse_apply]
  generalize x s = reading at hstays ⊢
  cases reading with
  | done a rest => exact hstays
  | unmatched e rest => exact hy s hs
  | tooDeep rest => exact hstays
  | insideChar => exact hstays

theorem Careful.map {f : α → β} (hx : Careful told deep x) : Careful told deep (f <$> x) :=
  hx.bind fun a => careful_pure (f a)

theorem Careful.optional (hx : Careful False deep x) : Careful told deep (optional x) :=
  hx.map.orElse (careful_pure none)

/-- A repetition never fails. -/
theorem Careful.many (hx : Careful False deep x) : Careful told deep (many x) := by
  intro s hs
  fun_induction Reader.many x s with
  | case1 s a middle hread hlength as rest hmany ih =>
      have hstays := hx s hs
      rw [hread] at hstays
      have hrest := ih (hs.suffix hstays)
      rw [hmany] at hrest
      exact List.IsSuffix.trans hrest hstays
  | case2 s a middle hread hlength hmany ih =>
      have hstays := hx s hs
      rw [hread] at hstays
      exact (ih (hs.suffix hstays)).trans hstays
  | case3 s a middle hread hlength => exact List.suffix_rfl
  | case4 s e middle hread => exact List.suffix_rfl
  | case5 s place hread =>
      have hstays := hx s hs
      rw [hread] at hstays
      exact hstays
  | case6 s hread =>
      have hstays := hx s hs
      rw [hread] at hstays
      exact hstays

theorem careful_ofOption {e : Expected} {f : Text → Option (α × Text)}
    (hf : ∀ s a rest, f s = some (a, rest) → rest <:+ s) : Careful told deep (ofOption e f) := by
  intro s _
  rw [ofOption]
  cases hread : f s with
  | none => exact fun _ => List.suffix_rfl
  | some pair => exact hf s pair.1 pair.2 hread

end Reader

/-! ### White space, words and keywords -/

theorem careful_mark (c : Char) : Reader.Careful told deep (mark c) := by
  intro s _
  unfold mark
  split
  · split
    · exact List.suffix_cons _ _
    · exact fun _ => List.suffix_rfl
  · exact fun _ => List.suffix_rfl

theorem careful_run (p : Char → Bool) : Reader.Careful told deep (run p) := by
  intro s _
  unfold run
  split
  · exact fun _ => List.suffix_rfl
  · exact List.dropWhile_suffix p

theorem careful_blanks : Reader.Careful told deep blanks :=
  fun _ _ => List.dropWhile_suffix isGap

theorem careful_blanks₁ : Reader.Careful told deep blanks₁ := by
  intro s _
  unfold blanks₁
  split
  · split
    · exact (List.dropWhile_suffix isGap).trans (List.suffix_cons _ _)
    · exact fun _ => List.suffix_rfl
  · exact fun _ => List.suffix_rfl

theorem careful_finish : Reader.Careful told deep finish := by
  intro s _
  unfold finish
  split
  · exact List.suffix_rfl
  · exact fun _ => List.suffix_rfl

theorem dropBytes?_suffix {n : Nat} {rest : Text} (h : Text.dropBytes? n s = some rest) :
    rest <:+ s := by
  fun_induction Text.dropBytes? n s with
  | case1 s =>
      cases h
      exact List.suffix_rfl
  | case2 n => cases h
  | case3 n c s hfits ih => exact (ih h).trans (List.suffix_cons c s)
  | case4 n c s hfits => cases h

theorem careful_keyword {word : Text} (hword : word ∈ keywords) :
    Reader.Careful told deep (keyword word) := by
  intro s hs
  by_cases hbegins : beginsWith word s = true
  · obtain ⟨rest, hcut⟩ := hs.cut hword hbegins
    rw [keyword_cut hbegins hcut]
    split
    · exact fun _ => dropBytes?_suffix hcut
    · exact dropBytes?_suffix hcut
  · rw [keyword_of_not_beginsWith hbegins]
    exact fun _ => List.suffix_rfl

/-! ### Values and comparisons -/

theorem number?_suffix {v : Value} {rest : Text} (h : number? s = some (v, rest)) : rest <:+ s :=
  (Literal.number (number_of_number? h)).suffix

theorem careful_quotedText : Reader.Careful told deep quotedText := by
  refine (Reader.careful_ofOption fun s content rest hread => ?_).map
  unfold Quoted.read? at hread
  split at hread
  · cases hread
  · split at hread
    · obtain ⟨rfl, -⟩ := Quoted.eq_of_readBody? hread
      exact ((List.suffix_cons _ _).trans (List.suffix_append _ _)).trans (List.suffix_cons _ _)
    · cases hread

theorem careful_value : Reader.Careful told deep value := by
  have hword : ∀ word ∈ keywords, ∀ v : Value,
      Reader.Careful False deep (keyword word *> pure v : Reader Value) := fun word h v =>
    (careful_keyword h).bind fun _ => Reader.careful_pure v
  refine careful_quotedText.orElse ?_
  refine (hword "NULL" (by decide) .null).orElse ?_
  refine (hword "TRUE" (by decide) (.bool true)).orElse ?_
  refine (hword "FALSE" (by decide) (.bool false)).orElse ?_
  refine Reader.Careful.orElse (Reader.careful_ofOption fun s v rest hread => ?_) ?_
  · exact number?_suffix hread
  · exact (careful_run isBareChar).map

theorem careful_valueList : Reader.Careful told deep valueList := by
  refine careful_blanks.bind fun _ => careful_value.bind fun first => ?_
  refine Reader.Careful.bind (Reader.Careful.many ?_) fun others => ?_
  · exact careful_blanks.bind fun _ => (careful_mark ',').bind fun _ =>
      careful_blanks.bind fun _ => careful_value
  · exact careful_blanks.bind fun _ => careful_finish.bind fun _ =>
      Reader.careful_pure (first :: others)

theorem careful_nullCheck : Reader.Careful told deep nullCheck := by
  refine (careful_keyword (by decide)).bind fun _ => careful_blanks₁.bind fun _ => ?_
  refine Reader.Careful.bind (Reader.Careful.optional ?_) fun negation => ?_
  · exact (careful_keyword (by decide)).bind fun _ => careful_blanks₁
  · exact (careful_keyword (by decide)).bind fun _ => Reader.careful_pure _

theorem careful_between : Reader.Careful told deep between := by
  refine (careful_keyword (by decide)).bind fun _ => careful_blanks.bind fun _ => ?_
  refine careful_value.bind fun low => careful_blanks₁.bind fun _ => ?_
  refine (careful_keyword (by decide)).bind fun _ => careful_blanks.bind fun _ => ?_
  exact careful_value.bind fun high => Reader.careful_pure _

/-- The values in brackets are read from a text of their own, and where they fail is not told. -/
theorem stays_alternatives {body : Text} (hbody : KelvinFree body) (rest : Text) :
    (alternatives body rest).Stays False deep rest := by
  rw [alternatives]
  split
  · exact List.suffix_rfl
  · have hstays : (valueList body).Stays False False body := careful_valueList body hbody
    generalize valueList body = reading at hstays ⊢
    cases reading with
    | done values _ => exact List.suffix_rfl
    | unmatched e _ => exact False.elim
    | tooDeep _ => exact hstays.1.elim
    | insideChar => exact hstays

theorem careful_membership : Reader.Careful False deep membership := by
  refine (careful_keyword (by decide)).bind fun _ => careful_blanks.bind fun _ => fun s hs => ?_
  have hsuffix : ∀ t body rest, bracketed? t = some (body, rest) → rest <:+ t := by
    intro t body rest hread
    obtain ⟨rfl, -⟩ := balanced_of_bracketed? hread
    exact ⟨'(' :: (body ++ [')']), by simp⟩
  refine Reader.stays_bind (Reader.careful_ofOption hsuffix s hs) fun body rest hread => ?_
  obtain ⟨rfl, -⟩ := balanced_of_bracketed? (Reader.ofOption_eq_done.1 hread)
  have hbody : KelvinFree body := hs.mono ⟨['('], ')' :: rest, by simp⟩
  exact Reader.stays_bind (stays_alternatives hbody rest) fun operand _ _ => List.suffix_rfl

theorem careful_pattern : Reader.Careful told deep pattern :=
  (careful_keyword (by decide)).bind fun _ => careful_blanks.bind fun _ =>
    careful_value.bind fun _ => Reader.careful_pure _

theorem careful_plainComparison : Reader.Careful told deep plainComparison := by
  refine Reader.Careful.bind (Reader.careful_ofOption fun s op rest hread => ?_) fun op => ?_
  · exact (symbol_of_symbol? hread).suffix
  · exact careful_blanks.bind fun _ => careful_value.bind fun v => Reader.careful_pure _

theorem careful_comparison : Reader.Careful told deep comparison :=
  careful_nullCheck.orElse <| careful_between.orElse <| careful_membership.orElse <|
    careful_pattern.orElse careful_plainComparison

/-! ### Terms and sequences -/

theorem careful_condition (j : Joiner) : Reader.Careful told deep (condition j) :=
  (careful_run isFieldChar).bind fun _ => careful_blanks.bind fun _ =>
    careful_comparison.bind fun _ => Reader.careful_pure _

theorem careful_joiner : Reader.Careful told deep joiner :=
  Reader.Careful.orElse
    ((careful_keyword (by decide)).bind fun _ => Reader.careful_pure Joiner.and)
    ((careful_keyword (by decide)).bind fun _ => Reader.careful_pure Joiner.or)

variable {read : Joiner → Reader Draft}

theorem careful_sequence (hread : ∀ (told : Prop) j, Reader.Careful told True (read j)) :
    Reader.Careful told True (sequence read) := by
  refine (hread told .and).bind fun first => ?_
  refine Reader.Careful.bind (Reader.Careful.many ?_) fun others => Reader.careful_pure _
  exact careful_blanks.bind fun _ => careful_joiner.bind fun j =>
    careful_blanks.bind fun _ => hread False j

theorem careful_group (j : Joiner) {inner : Reader (List Draft)}
    (hinner : Reader.Careful told True inner) : Reader.Careful told True (group j inner) :=
  (careful_mark '(').bind fun _ => careful_blanks.bind fun _ => hinner.bind fun _ =>
    careful_blanks.bind fun _ => (careful_mark ')').bind fun _ => Reader.careful_pure _

theorem careful_noGroup : Reader.Careful told True noGroup := by
  intro s _
  unfold noGroup
  split
  · exact ⟨trivial, List.suffix_rfl⟩
  · exact fun _ => List.suffix_rfl

theorem careful_term (levels : Nat) (told : Prop) (j : Joiner) :
    Reader.Careful told True (term levels j) := by
  induction levels generalizing told j with
  | zero => exact careful_noGroup.orElse (careful_condition j)
  | succ levels ih =>
      exact (careful_group j (careful_sequence ih)).orElse (careful_condition j)

/-! ### Drafts that were read -/

/-- The draft is one that comes out of a text. -/
inductive Draft.Written : Draft → Prop
  | condition {j : Joiner} {fields : Text} {op : Operator} {operand : Operand} {s rest : Text}
      (h : Comparison op operand s rest) : Written (.condition j fields op operand)
  | group {j : Joiner} {children : List Draft} (hne : children ≠ [])
      (h : ∀ child ∈ children, Written child) : Written (.group j children)

/-- The draft holds a condition whose columns are refused, or a LIKE without a pattern. -/
inductive Draft.Refused : Draft → BuildError → Prop
  | columns {j : Joiner} {fields : Text} {op : Operator} {operand : Operand} {e : ColumnError}
      (h : Column.listOfText fields = .error e) :
      Refused (.condition j fields op operand) (.columns e)
  | pattern {j : Joiner} {fields : Text} :
      Refused (.condition j fields .like (.scalar .null)) .noPattern
  | child {j : Joiner} {children : List Draft} {child : Draft} {e : BuildError}
      (hmem : child ∈ children) (h : Refused child e) : Refused (.group j children) e

theorem written_of_condition {j : Joiner} {draft : Draft} {rest : Text}
    (h : condition j s = .done draft rest) : draft.Written := by
  obtain ⟨fields, op, operand, _, _, -, -, hcomparison, rfl⟩ := done_of_condition h
  exact .condition (comparison_derives hcomparison)

theorem written_of_sequence {drafts : List Draft} {rest : Text}
    (hread : ∀ {j s draft rest}, read j s = .done draft rest → draft.Written)
    (h : sequence read s = .done drafts rest) :
    drafts ≠ [] ∧ ∀ draft ∈ drafts, draft.Written := by
  obtain ⟨first, others, _, hfirst, hothers, rfl⟩ := done_of_sequence h
  refine ⟨List.cons_ne_nil _ _, List.forall_mem_cons.2 ⟨hread hfirst, ?_⟩⟩
  refine Reader.many_induction (motive := fun drafts _ _ => ∀ draft ∈ drafts, draft.Written)
    (fun _ => by simp) ?_ hothers
  intro draft drafts s middle rest hterm _ ih
  obtain ⟨j, _, _, _, -, -, -, hterm⟩ := done_of_joined hterm
  exact List.forall_mem_cons.2 ⟨hread hterm, ih⟩

theorem written_of_term (levels : Nat) {j : Joiner} {draft : Draft} {rest : Text}
    (h : term levels j s = .done draft rest) : draft.Written := by
  induction levels generalizing j s draft rest with
  | zero => exact written_of_condition (condition_of_term_zero h)
  | succ levels ih =>
      rcases Reader.done_of_orElse h with h | h
      · obtain ⟨children, _, _, _, -, -, hchildren, -, rfl⟩ := done_of_group h
        obtain ⟨hne, hwritten⟩ := written_of_sequence ih hchildren
        exact .group hne hwritten
      · exact written_of_condition h

/-! ### What may be refused -/

theorem trim_ne_nil_of_isSubquery (h : isSubquery s = true) : Text.trim s ≠ [] := by
  rw [Ne, trim_eq_nil]
  intro hblank
  have hstart : Text.trimStart s = [] := List.dropWhile_eq_nil_iff.2 hblank
  rw [isSubquery, hstart] at h
  cases h

theorem Grammar.Comparison.eq_noPattern_of_fit {op : Operator} {operand : Operand} {rest : Text}
    {e : BuildError} (h : Comparison op operand s rest) (hfit : operand.fit op = .error e) :
    op = .like ∧ operand = .scalar .null ∧ e = .noPattern := by
  cases h with
  | isNull => cases hfit
  | isNotNull => cases hfit
  | between => cases hfit
  | query _ _ _ hquery =>
      rw [Operand.fit, Operand.fitIn, trim_trim, if_neg (trim_ne_nil_of_isSubquery hquery)] at hfit
      cases hfit
  | list _ _ _ _ hvalues =>
      obtain ⟨⟩ := hvalues
      cases hfit
  | @like v =>
      cases v with
      | null =>
          cases hfit
          exact ⟨rfl, rfl, rfl⟩
      | _ => cases hfit
  | plain hop =>
      cases hop with
      | own hop =>
          rcases Operator.mem_plain.1 hop with rfl | rfl | rfl | rfl | rfl | rfl
          all_goals cases hfit
      | angles => cases hfit

theorem exists_of_buildAll {drafts : List Draft} {e : BuildError}
    (h : Draft.buildAll drafts = .error e) : ∃ draft ∈ drafts, draft.build = .error e := by
  induction drafts with
  | nil =>
      rw [Draft.buildAll] at h
      cases h
  | cons draft drafts ih =>
      rw [Draft.buildAll] at h
      cases hbuild : draft.build with
      | error e' =>
          rw [hbuild] at h
          cases h
          exact ⟨draft, List.mem_cons_self, hbuild⟩
      | ok node =>
          rw [hbuild, ok_bind] at h
          cases hothers : Draft.buildAll drafts with
          | error e' =>
              rw [hothers] at h
              cases h
              obtain ⟨other, hmem, hother⟩ := ih hothers
              exact ⟨other, List.mem_cons_of_mem draft hmem, hother⟩
          | ok others =>
              rw [hothers] at h
              cases h

theorem Draft.Written.refused {draft : Draft} (h : draft.Written) {e : BuildError}
    (hbuild : draft.build = .error e) : draft.Refused e := by
  induction h generalizing e with
  | @condition j fields op operand s rest h =>
      rw [build, Node.ofParts, Condition.ofParts] at hbuild
      cases hcolumns : Column.listOfText fields with
      | error columnError =>
          rw [hcolumns] at hbuild
          cases hbuild
          exact .columns hcolumns
      | ok columns =>
          rw [hcolumns] at hbuild
          cases hfit : operand.fit op with
          | error fitError =>
              rw [hfit] at hbuild
              cases hbuild
              obtain ⟨rfl, rfl, rfl⟩ := h.eq_noPattern_of_fit hfit
              exact .pattern
          | ok fitted =>
              rw [hfit] at hbuild
              cases hbuild
  | @group j children hne h ih =>
      rw [build] at hbuild
      cases hchildren : buildAll children with
      | error childError =>
          rw [hchildren] at hbuild
          cases hbuild
          obtain ⟨child, hmem, hchild⟩ := exists_of_buildAll hchildren
          exact .child hmem (ih child hmem hchild)
      | ok nodes =>
          have hgroup : Node.enclose nodes j = .ok (.group j nodes) :=
            Node.enclose_eq_ok.2 ⟨ne_nil_of_buildAll hne hchildren, rfl⟩
          rw [hchildren, ok_bind, hgroup] at hbuild
          cases hbuild

/-! ### Whole texts -/

/-- A fault is told with the place of a rest that the trimmed text ends with. -/
theorem exists_malformed {rest : Text} (h : rest <:+ Text.trim s) (fault : ParseFault) :
    ∃ before, Text.trimEnd s = before ++ rest ∧
      malformed s rest fault = .malformed (Text.byteLength before) fault := by
  obtain ⟨before, hbefore⟩ := h.trans (trim_suffix_trimEnd s)
  refine ⟨before, hbefore.symm, ?_⟩
  rw [malformed, ← hbefore, Text.byteLength_append, Nat.add_sub_cancel_right]

/-- Drafts that were read are built, or one of them is refused. -/
theorem refused_of_buildAll {drafts : List Draft} {rest : Text} {e : BuildError}
    (hread : sequence (term maxDepth) s = .done drafts rest)
    (h : Draft.buildAll drafts = .error e) : ∃ draft ∈ drafts, draft.Refused e := by
  obtain ⟨draft, hmem, hbuild⟩ := exists_of_buildAll h
  have hwritten := (written_of_sequence (written_of_term maxDepth) hread).2 draft hmem
  exact ⟨draft, hmem, hwritten.refused hbuild⟩

/-- If no Kelvin sign stands behind the letters `li`, the parser makes all its cuts between
characters and has an answer: nodes, or a fault at a place of the text, or the refusal of a
condition that was read, for its columns or for the lack of a pattern. -/
theorem parse_safe (h : KelvinFree s) : CutsWell s ∧
    ((∃ nodes, parse s = .ok nodes) ∨
      (∃ before rest fault, Text.trimEnd s = before ++ rest ∧
        parse s = .error (.malformed (Text.byteLength before) fault)) ∨
      ∃ drafts rest e, sequence (term maxDepth) (Text.trim s) = .done drafts rest ∧
        parse s = .error (.invalid e) ∧ ∃ draft ∈ drafts, draft.Refused e) := by
  refine ⟨cutsWell_of_kelvinFree h, ?_⟩
  by_cases hblank : Text.trim s = []
  · exact .inl ⟨[], parse_eq_ok.2 (.inl ⟨hblank, rfl⟩)⟩
  have hfree : KelvinFree (Text.trim s) :=
    h.mono ((isPrefix_trimEnd _).isInfix.trans (List.dropWhile_suffix isBlank).isInfix)
  have hstays : (sequence (term maxDepth) (Text.trim s)).Stays True True (Text.trim s) :=
    careful_sequence (careful_term maxDepth) (Text.trim s) hfree
  have hparse := parse_of_trim_ne_nil hblank
  have hfault : ∀ {rest : Text} (fault : ParseFault), rest <:+ Text.trim s →
      parse s = .error (malformed s rest fault) → ∃ before rest fault,
        Text.trimEnd s = before ++ rest ∧
          parse s = .error (.malformed (Text.byteLength before) fault) := by
    intro rest fault hrest hparse
    obtain ⟨before, hbefore, hplace⟩ := exists_malformed hrest fault
    exact ⟨before, rest, fault, hbefore, hplace ▸ hparse⟩
  cases hread : sequence (term maxDepth) (Text.trim s) with
  | done drafts rest =>
      rw [hread] at hstays hparse
      dsimp only at hparse
      cases hrest : Text.trimStart rest with
      | nil =>
          rw [hrest] at hparse
          cases hbuild : Draft.buildAll drafts with
          | ok nodes =>
              rw [hbuild] at hparse
              exact .inl ⟨nodes, hparse⟩
          | error e =>
              rw [hbuild] at hparse
              exact .inr (.inr ⟨drafts, rest, e, rfl, hparse, refused_of_buildAll hread hbuild⟩)
      | cons c trailing =>
          rw [hrest] at hparse
          have hsuffix : c :: trailing <:+ rest := hrest ▸ List.dropWhile_suffix isBlank
          exact .inr (.inl (hfault _ (hsuffix.trans hstays) hparse))
  | unmatched expected rest =>
      rw [hread] at hstays hparse
      exact .inr (.inl (hfault _ (hstays trivial) hparse))
  | tooDeep rest =>
      rw [hread] at hstays hparse
      exact .inr (.inl (hfault _ hstays.2 hparse))
  | insideChar =>
      rw [hread] at hstays
      exact hstays.elim

set_option maxRecDepth 10000 in
/-- A Kelvin sign in the place of a column, and next to it a LIKE without a pattern. -/
theorem parse_safe_pattern :
    let s : Text := ['(', '\u212a', '<', '3', ' ', 'O', 'R', ' ',
      'é', ' ', 'L', 'I', 'K', 'E', ' ', 'N', 'U', 'L', 'L', ')']
    KelvinFree s ∧ CutsWell s ∧
      ∃ drafts rest e, sequence (term maxDepth) (Text.trim s) = .done drafts rest ∧
        parse s = .error (.invalid e) ∧ ∃ draft ∈ drafts, draft.Refused e := by
  intro s
  have hfree : KelvinFree s := kelvinFree_of_not_mem_drop (by decide)
  have hparse : parse s = .error (.invalid .noPattern) := by cbv
  obtain ⟨hcuts, ⟨nodes, hnodes⟩ | ⟨before, rest, fault, -, hfault⟩ | hrefused⟩ := parse_safe hfree
  · rw [hparse] at hnodes
    cases hnodes
  · rw [hparse] at hfault
    cases hfault
  · exact ⟨hfree, hcuts, hrefused⟩

end WhereClause.Shorthand
