import WhereClause.Proofs.Derivation
import WhereClause.Proofs.ParseWritten

/-!
# Where a fault is told

The place of a fault is computed from lengths: that of the text without the white space at its end,
less that of the text that was left.  It is a place of the text only if what was left is an end of
the text, and this is not clear.  The values of a list are read from the text between the brackets,
so that a failure among them leaves an end of that text alone.  But such a failure is never told:
an alternative tells the failure of its last reader, and the last reader of a comparison reads a
symbol and a value in place.

Main definitions:

* `Reader.Flat`: the reader opens no groups;
* `OpensBehind`: the place of a bracket with so many brackets in front of it;
* `FaultOf`: the reading of a text goes wrong at some place;
* `ParseFault.PointsAt`, `ParseError.shift`: the text at the place of a fault, and the error for a
  text that begins further on.

Main results:

* `takes_of_term`, `suffix_of_sequence_unmatched`, `opensBehind_of_term`: what is left of a text
  that is read, that is not read, or that is nested too deep;
* `exists_faultOf`: the three ways in which the reading of a text goes wrong;
* `parse_places`: **a fault is told with its place in the text, and white space around the text
  moves the place and nothing else**.
-/

set_option autoImplicit false

namespace WhereClause.Shorthand

open Grammar

variable {α β : Type} {s t rest : Text} {e : Expected}

/-! ### Readers that fail -/

namespace Reader

variable {x y : Reader α} {f : α → Reader β}

theorem unmatched_of_bind (h : (x >>= f) s = .unmatched e rest) :
    x s = .unmatched e rest ∨
      ∃ a middle, x s = .done a middle ∧ f a middle = .unmatched e rest := by
  rw [bind_apply] at h
  cases hx : x s with
  | done a middle =>
      rw [hx] at h
      exact .inr ⟨a, middle, rfl, h⟩
  | unmatched e' place =>
      rw [hx] at h
      cases h
      exact .inl rfl
  | _ =>
      rw [hx] at h
      cases h

theorem tooDeep_of_bind (h : (x >>= f) s = .tooDeep rest) :
    x s = .tooDeep rest ∨ ∃ a middle, x s = .done a middle ∧ f a middle = .tooDeep rest := by
  rw [bind_apply] at h
  cases hx : x s with
  | done a middle =>
      rw [hx] at h
      exact .inr ⟨a, middle, rfl, h⟩
  | tooDeep place =>
      rw [hx] at h
      cases h
      exact .inl rfl
  | _ =>
      rw [hx] at h
      cases h

/-- The failure of the last reader is told. -/
theorem unmatched_of_orElse (h : (x <|> y) s = .unmatched e rest) : y s = .unmatched e rest := by
  rw [orElse_apply] at h
  cases hx : x s with
  | unmatched e' place =>
      rw [hx] at h
      exact h
  | _ =>
      rw [hx] at h
      cases h

theorem tooDeep_of_orElse (h : (x <|> y) s = .tooDeep rest) :
    x s = .tooDeep rest ∨ y s = .tooDeep rest := by
  rw [orElse_apply] at h
  cases hx : x s with
  | unmatched e' place =>
      rw [hx] at h
      exact .inr h
  | tooDeep place =>
      rw [hx] at h
      exact .inl h
  | _ =>
      rw [hx] at h
      cases h

theorem many_ne_unmatched : many x s ≠ .unmatched e rest := by
  intro h
  fun_induction many x s with
  | case1 => cases h
  | case2 s a middle hx hlength hmany ih => exact ih h
  | case3 => cases h
  | case4 => cases h
  | case5 => cases h
  | case6 => cases h

/-- A repetition is too deep where one of its readings is. -/
theorem many_tooDeep_induction {motive : Text → Text → Prop}
    (deep : ∀ {s rest}, x s = .tooDeep rest → motive s rest)
    (cons : ∀ {a s middle rest}, x s = .done a middle → motive middle rest → motive s rest)
    (h : many x s = .tooDeep rest) : motive s rest := by
  fun_induction many x s with
  | case1 => cases h
  | case2 s a middle hx hlength hmany ih => exact cons hx (ih h)
  | case3 => cases h
  | case4 => cases h
  | case5 s place hx =>
      cases h
      exact deep hx
  | case6 => cases h

/-! ### Readers that open no groups -/

/-- The reader opens no groups, so that it is never too deep. -/
def Flat (x : Reader α) : Prop :=
  ∀ s rest, x s ≠ .tooDeep rest

theorem flat_pure (a : α) : Flat (pure a : Reader α) := nofun

theorem Flat.bind (hx : Flat x) (hf : ∀ a, Flat (f a)) : Flat (x >>= f) := by
  intro s rest h
  rcases tooDeep_of_bind h with h | ⟨a, middle, -, h⟩
  · exact hx s rest h
  · exact hf a middle rest h

theorem Flat.orElse (hx : Flat x) (hy : Flat y) : Flat (x <|> y) := by
  intro s rest h
  rcases tooDeep_of_orElse h with h | h
  · exact hx s rest h
  · exact hy s rest h

theorem Flat.map {g : α → β} (hx : Flat x) : Flat (g <$> x) :=
  hx.bind fun a => flat_pure (g a)

theorem Flat.many (hx : Flat x) : Flat (many x) := fun _ _ h =>
  many_tooDeep_induction (motive := fun _ _ => False) (fun h => hx _ _ h) (fun _ h => h) h

theorem flat_ofOption (g : Text → Option (α × Text)) : Flat (ofOption e g) := by
  intro s rest h
  unfold ofOption at h
  split at h <;> cases h

end Reader

theorem flat_mark (c : Char) : Reader.Flat (mark c) := by
  intro s rest h
  unfold mark at h
  split at h
  · split at h <;> cases h
  · cases h

theorem flat_run (p : Char → Bool) : Reader.Flat (run p) := by
  intro s rest h
  unfold run at h
  split at h <;> cases h

theorem flat_blanks : Reader.Flat blanks := nofun

theorem flat_blanks₁ : Reader.Flat blanks₁ := by
  intro s rest h
  unfold blanks₁ at h
  split at h
  · split at h <;> cases h
  · cases h

theorem flat_finish : Reader.Flat finish := by
  intro s rest h
  unfold finish at h
  split at h <;> cases h

theorem flat_keyword (word : Text) : Reader.Flat (keyword word) := by
  intro s rest h
  unfold keyword at h
  split at h
  · split at h
    · split at h <;> cases h
    · cases h
  · cases h

theorem flat_value : Reader.Flat value := by
  have hword : ∀ (word : Text) (v : Value),
      Reader.Flat (keyword word *> pure v : Reader Value) := fun word v =>
    (flat_keyword word).bind fun _ => Reader.flat_pure v
  refine Reader.Flat.orElse (Reader.flat_ofOption _).map ?_
  refine (hword "NULL" .null).orElse ?_
  refine (hword "TRUE" (.bool true)).orElse ?_
  refine (hword "FALSE" (.bool false)).orElse ?_
  exact Reader.Flat.orElse (Reader.flat_ofOption _) (flat_run isBareChar).map

theorem flat_valueList : Reader.Flat valueList := by
  refine flat_blanks.bind fun _ => flat_value.bind fun first => ?_
  refine Reader.Flat.bind (Reader.Flat.many ?_) fun others => ?_
  · exact flat_blanks.bind fun _ => (flat_mark ',').bind fun _ =>
      flat_blanks.bind fun _ => flat_value
  · exact flat_blanks.bind fun _ => flat_finish.bind fun _ => Reader.flat_pure (first :: others)

theorem flat_alternatives (body : Text) : Reader.Flat (alternatives body) := by
  intro s rest h
  unfold alternatives at h
  split at h
  · cases h
  · split at h
    · cases h
    · cases h
    · rename_i hvalues
      exact flat_valueList _ _ hvalues
    · cases h

theorem flat_comparison : Reader.Flat comparison := by
  refine Reader.Flat.orElse ?_ (Reader.Flat.orElse ?_ (Reader.Flat.orElse ?_
    (Reader.Flat.orElse ?_ ?_)))
  · refine (flat_keyword _).bind fun _ => flat_blanks₁.bind fun _ => Reader.Flat.bind ?_ fun _ => ?_
    · exact ((flat_keyword _).bind fun _ => flat_blanks₁).map.orElse (Reader.flat_pure none)
    · exact (flat_keyword _).bind fun _ => Reader.flat_pure _
  · exact (flat_keyword _).bind fun _ => flat_blanks.bind fun _ => flat_value.bind fun _ =>
      flat_blanks₁.bind fun _ => (flat_keyword _).bind fun _ => flat_blanks.bind fun _ =>
        flat_value.bind fun _ => Reader.flat_pure _
  · exact (flat_keyword _).bind fun _ => flat_blanks.bind fun _ =>
      (Reader.flat_ofOption _).bind fun body => (flat_alternatives body).bind fun _ =>
        Reader.flat_pure _
  · exact (flat_keyword _).bind fun _ => flat_blanks.bind fun _ => flat_value.bind fun _ =>
      Reader.flat_pure _
  · exact (Reader.flat_ofOption _).bind fun _ => flat_blanks.bind fun _ => flat_value.bind fun _ =>
      Reader.flat_pure _

theorem flat_condition (j : Joiner) : Reader.Flat (condition j) :=
  (flat_run isFieldChar).bind fun _ => flat_blanks.bind fun _ => flat_comparison.bind fun _ =>
    Reader.flat_pure _

theorem flat_joiner : Reader.Flat joiner :=
  Reader.Flat.orElse ((flat_keyword _).bind fun _ => Reader.flat_pure Joiner.and)
    ((flat_keyword _).bind fun _ => Reader.flat_pure Joiner.or)

/-! ### What is taken from a text that is read -/

namespace Grammar

theorem Keyword.takes {word : Text} (h : Keyword word s rest) (hne : word ≠ [])
    (hword : (Text.toUpper word).all (!isBlank ·) = true) : Takes s rest := by
  obtain ⟨written, hwritten, rfl, -⟩ := h
  exact ⟨written, rfl, hwritten.endsSolid hne hword⟩

theorem endsSolid_digits {digits : Text} (hne : digits ≠ [])
    (hdigits : ∀ c ∈ digits, c.isDigit = true) : EndsSolid digits :=
  endsSolid_of_forall hne fun c hc => isBlank_of_isBareChar (by
    rw [isBareChar, isWordChar_of_isDigit (hdigits c hc)]
    rfl)

theorem Literal.takes {v : Value} (h : Literal v s rest) : Takes s rest := by
  have hsign : ∀ (negative : Bool) {t : Text}, EndsSolid t →
      EndsSolid (Binary64.withSign negative t) := by
    intro negative t ht
    cases negative with
    | false => exact ht
    | true => exact ht.append ['-']
  cases h with
  | @quoted content rest _ =>
      exact ⟨_, rfl, '\'' :: Quoted.double '\'' content, '\'', rfl, by decide⟩
  | null h => exact h.takes (by decide) (by decide)
  | true h => exact h.takes (by decide) (by decide)
  | false h => exact h.takes (by decide) (by decide)
  | number h =>
      cases h with
      | whole hne hdigits _ _ => exact ⟨_, rfl, hsign _ (endsSolid_digits hne hdigits)⟩
      | @decimal _ digits fraction _ _ _ hne hdigits _ =>
          refine ⟨_, rfl, hsign _ (EndsSolid.append digits ?_)⟩
          exact EndsSolid.append ['.'] (endsSolid_digits hne hdigits)
  | word hne hword _ =>
      exact ⟨_, rfl, endsSolid_of_forall hne fun c hc => isBlank_of_isBareChar (hword c hc)⟩

/-- A comparison ends with a keyword, a value or a bracket. -/
theorem Comparison.takes {op : Operator} {operand : Operand} (h : Comparison op operand s rest) :
    Takes s rest := by
  have hbrackets : ∀ {s body : Text}, Gap s ('(' :: (body ++ ')' :: rest)) → Takes s rest := by
    intro s body hgap
    have htakes : Takes ('(' :: (body ++ ')' :: rest)) rest :=
      ⟨'(' :: (body ++ [')']), by simp, '(' :: body, ')', rfl, by decide⟩
    exact htakes.of_suffix hgap.suffix
  cases h with
  | isNull his hgap hnull =>
      exact (hnull.takes (by decide) (by decide)).of_suffix (hgap.suffix.trans his.suffix)
  | isNotNull his hgap hnot hgap₁ hnull =>
      have hfront := (hgap₁.suffix.trans hnot.suffix).trans (hgap.suffix.trans his.suffix)
      exact (hnull.takes (by decide) (by decide)).of_suffix hfront
  | between hbetween hgap hlow hgap₁ hand hgap₂ hhigh =>
      have hbound := (hlow.suffix.trans hgap.suffix).trans hbetween.suffix
      have hbehind := (hgap₂.suffix.trans hand.suffix).trans hgap₁.suffix
      exact hhigh.takes.of_suffix (hbehind.trans hbound)
  | query hin hgap _ _ => exact (hbrackets hgap).of_suffix hin.suffix
  | list hin hgap _ _ _ => exact (hbrackets hgap).of_suffix hin.suffix
  | like hlike hgap hv => exact hv.takes.of_suffix (hgap.suffix.trans hlike.suffix)
  | plain hop hgap hv => exact hv.takes.of_suffix (hgap.suffix.trans hop.suffix)

end Grammar

variable {j : Joiner} {draft : Draft} {drafts : List Draft} {read : Joiner → Reader Draft}

theorem takes_of_condition (h : condition j s = .done draft rest) : Takes s rest := by
  obtain ⟨fields, op, operand, _, _, hfields, hgap, hcomparison, -⟩ := done_of_condition h
  obtain ⟨-, -, rfl, -⟩ := run_eq_done hfields
  exact (comparison_derives hcomparison).takes.of_suffix
    ((gap_of_blanks hgap).suffix.trans (List.suffix_append fields _))

section Terms

variable (hread : ∀ {j s draft rest}, read j s = .done draft rest → Takes s rest)

include hread

theorem takes_of_joined (h : joined read s = .done draft rest) : Takes s rest := by
  obtain ⟨j, _, _, _, hgap, hjoiner, hgap₁, hterm⟩ := done_of_joined h
  have hjoined := (keyword_of_joiner hjoiner).suffix.trans (gap_of_blanks hgap).suffix
  exact (hread hterm).of_suffix ((gap_of_blanks hgap₁).suffix.trans hjoined)

theorem takes_of_sequence (h : sequence read s = .done drafts rest) : Takes s rest := by
  obtain ⟨first, others, middle, hfirst, hothers, -⟩ := done_of_sequence h
  have hmany : rest = middle ∨ Takes middle rest := by
    refine Reader.many_induction (motive := fun _ s rest => rest = s ∨ Takes s rest)
      (fun _ => .inl rfl) ?_ hothers
    intro draft drafts s middle rest hterm _ ih
    have htakes := takes_of_joined hread hterm
    rcases ih with rfl | ih
    · exact .inr htakes
    · exact .inr (ih.of_suffix htakes.suffix)
  rcases hmany with rfl | hmany
  · exact hread hfirst
  · exact hmany.of_suffix (hread hfirst).suffix

end Terms

/-- Whatever is read as a term ends with something else than white space. -/
theorem takes_of_term (levels : Nat) (h : term levels j s = .done draft rest) : Takes s rest := by
  induction levels generalizing j s draft rest with
  | zero => exact takes_of_condition (condition_of_term_zero h)
  | succ levels ih =>
      rcases Reader.done_of_orElse h with h | h
      · obtain ⟨children, s₁, s₂, s₃, rfl, hgap, hchildren, hgap₁, -⟩ := done_of_group h
        have hinner := (takes_of_sequence ih hchildren).suffix.trans (gap_of_blanks hgap).suffix
        have hclose : Takes (')' :: rest) rest := ⟨[')'], rfl, [], ')', rfl, by decide⟩
        exact hclose.of_suffix (((gap_of_blanks hgap₁).suffix.trans hinner).trans
          (List.suffix_cons '(' s₁))
      · exact takes_of_condition h

/-! ### What is left of a text that is not read -/

theorem eq_of_run_unmatched {p : Char → Bool} (h : run p s = .unmatched e rest) : rest = s := by
  unfold run at h
  split at h
  · cases h
    rfl
  · cases h

/-- Where no value is read no bare word is. -/
theorem eq_of_value_unmatched (h : value s = .unmatched e rest) : rest = s := by
  have h := Reader.unmatched_of_orElse (Reader.unmatched_of_orElse (Reader.unmatched_of_orElse
    (Reader.unmatched_of_orElse (Reader.unmatched_of_orElse h))))
  rcases Reader.unmatched_of_bind h with h | ⟨_, _, -, h⟩
  · exact eq_of_run_unmatched h
  · cases h

/-- Where no comparison is read no plain one is. -/
theorem suffix_of_comparison_unmatched (h : comparison s = .unmatched e rest) : rest <:+ s := by
  -- the list in brackets is among the forms whose failure is not told
  have h := Reader.unmatched_of_orElse (Reader.unmatched_of_orElse (Reader.unmatched_of_orElse
    (Reader.unmatched_of_orElse h)))
  rcases Reader.unmatched_of_bind h with h | ⟨op, _, hop, h⟩
  · unfold Reader.ofOption at h
    split at h
    · cases h
    · cases h
      exact List.suffix_rfl
  have hop := (symbol_of_symbol? (Reader.ofOption_eq_done.1 hop)).suffix
  rcases Reader.unmatched_of_bind h with h | ⟨_, _, hgap, h⟩
  · cases h
  rcases Reader.unmatched_of_bind h with h | ⟨_, _, -, h⟩
  · rw [eq_of_value_unmatched h]
    exact (gap_of_blanks hgap).suffix.trans hop
  · cases h

theorem suffix_of_condition_unmatched (h : condition j s = .unmatched e rest) : rest <:+ s := by
  rcases Reader.unmatched_of_bind h with h | ⟨fields, behind, hfields, h⟩
  · rw [eq_of_run_unmatched h]
  have hbehind : behind <:+ s := by
    obtain ⟨-, -, rfl, -⟩ := run_eq_done hfields
    exact List.suffix_append fields behind
  rcases Reader.unmatched_of_bind h with h | ⟨_, _, hgap, h⟩
  · cases h
  rcases Reader.unmatched_of_bind h with h | ⟨_, _, -, h⟩
  · exact ((suffix_of_comparison_unmatched h).trans (gap_of_blanks hgap).suffix).trans hbehind
  · cases h

/-- Where no sequence is read its first term is no condition. -/
theorem suffix_of_sequence_unmatched (levels : Nat)
    (h : sequence (term levels) s = .unmatched e rest) : rest <:+ s := by
  rcases Reader.unmatched_of_bind h with h | ⟨first, _, -, h⟩
  · have hcondition : condition .and s = .unmatched e rest := by
      cases levels <;> exact Reader.unmatched_of_orElse h
    exact suffix_of_condition_unmatched hcondition
  rcases Reader.unmatched_of_bind h with h | ⟨others, _, -, h⟩
  · exact absurd h Reader.many_ne_unmatched
  · cases h

/-! ### Groups that are nested too deep -/

/-- The text ends with `rest`, which begins with a bracket, and there are at least `levels` opening
brackets in front of it. -/
def OpensBehind (levels : Nat) (s rest : Text) : Prop :=
  ∃ before behind, s = before ++ rest ∧ rest = '(' :: behind ∧ levels ≤ before.count '('

theorem OpensBehind.of_suffix {levels : Nat} (h : OpensBehind levels t rest) (ht : t <:+ s) :
    OpensBehind levels s rest := by
  obtain ⟨before, behind, rfl, hrest, hcount⟩ := h
  obtain ⟨start, rfl⟩ := ht
  refine ⟨start ++ before, behind, (List.append_assoc ..).symm, hrest, ?_⟩
  rw [List.count_append]
  omega

theorem OpensBehind.suffix {levels : Nat} (h : OpensBehind levels s rest) : rest <:+ s := by
  obtain ⟨before, behind, rfl, -⟩ := h
  exact List.suffix_append before rest

theorem OpensBehind.cons {levels : Nat} (h : OpensBehind levels s rest) :
    OpensBehind (levels + 1) ('(' :: s) rest := by
  obtain ⟨before, behind, rfl, hrest, hcount⟩ := h
  refine ⟨'(' :: before, behind, rfl, hrest, ?_⟩
  rw [List.count_cons_self]
  omega

theorem opensBehind_of_sequence {levels : Nat}
    (hread : ∀ {j s draft rest}, read j s = .done draft rest → Takes s rest)
    (hdeep : ∀ {j s rest}, read j s = .tooDeep rest → OpensBehind levels s rest)
    (h : sequence read s = .tooDeep rest) : OpensBehind levels s rest := by
  rw [sequence_eq] at h
  rcases Reader.tooDeep_of_bind h with h | ⟨first, middle, hfirst, h⟩
  · exact hdeep h
  rcases Reader.tooDeep_of_bind h with h | ⟨others, _, -, h⟩
  · -- white space and joiners open no groups, so that it is a term that is too deep
    refine OpensBehind.of_suffix ?_ (hread hfirst).suffix
    refine Reader.many_tooDeep_induction (motive := OpensBehind levels) ?_ ?_ h
    · intro s rest h
      rcases Reader.tooDeep_of_bind h with h | ⟨_, _, hgap, h⟩
      · exact absurd h (flat_blanks _ _)
      rcases Reader.tooDeep_of_bind h with h | ⟨j, _, hjoiner, h⟩
      · exact absurd h (flat_joiner _ _)
      rcases Reader.tooDeep_of_bind h with h | ⟨_, _, hgap₁, h⟩
      · exact absurd h (flat_blanks _ _)
      have hjoined := (keyword_of_joiner hjoiner).suffix.trans (gap_of_blanks hgap).suffix
      exact (hdeep h).of_suffix ((gap_of_blanks hgap₁).suffix.trans hjoined)
    · exact fun hterm ih => ih.of_suffix (takes_of_joined hread hterm).suffix
  · cases h

/-- Where a term is nested too deep a group opens inside as many groups as there may be. -/
theorem opensBehind_of_term (levels : Nat) (h : term levels j s = .tooDeep rest) :
    OpensBehind levels s rest := by
  induction levels generalizing j s rest with
  | zero =>
      rcases Reader.tooDeep_of_orElse h with h | h
      · unfold noGroup at h
        split at h
        · cases h
          exact ⟨[], _, rfl, rfl, Nat.zero_le _⟩
        · cases h
      · exact absurd h (flat_condition j _ _)
  | succ levels ih =>
      rcases Reader.tooDeep_of_orElse h with h | h
      · rcases Reader.tooDeep_of_bind h with h | ⟨_, behind, hopen, h⟩
        · exact absurd h (flat_mark '(' _ _)
        rcases Reader.tooDeep_of_bind h with h | ⟨_, _, hgap, h⟩
        · exact absurd h (flat_blanks _ _)
        rcases Reader.tooDeep_of_bind h with h | ⟨children, _, -, h⟩
        · have hinner := opensBehind_of_sequence (takes_of_term levels) ih h
          rw [eq_cons_of_mark hopen]
          exact (hinner.of_suffix (gap_of_blanks hgap).suffix).cons
        · -- behind the children there is no group any more
          have hend : Reader.Flat (do blanks; mark ')'; return .group j children : Reader Draft) :=
            flat_blanks.bind fun _ => (flat_mark ')').bind fun _ => Reader.flat_pure _
          exact absurd h (hend _ _)
      · exact absurd h (flat_condition j _ _)

/-! ### Whole texts -/

/-- What follows the place of the fault is what the fault tells of it. -/
def ParseFault.PointsAt (rest : Text) : ParseFault → Prop
  | trailing told => told = rest
  | unmatched told _ => told = rest
  | tooDeep => ∃ behind, rest = '(' :: behind

/-- The error for a text that begins `n` bytes further on. -/
def ParseError.shift (n : Nat) : ParseError → ParseError
  | malformed position fault => malformed (n + position) fault
  | invalid e => invalid e
  | insideChar => insideChar

/-- The reading of the text goes wrong in front of `rest`, in the way that the fault tells. -/
inductive FaultOf (s : Text) : ParseFault → Text → Prop
  | trailing {drafts : List Draft} {rest : Text}
      (hread : sequence (term maxDepth) (Text.trim s) = .done drafts rest)
      (hne : Text.trimStart rest ≠ []) :
      FaultOf s (.trailing (Text.trimStart rest)) (Text.trimStart rest)
  | unmatched {expected : Expected} {rest : Text}
      (hread : sequence (term maxDepth) (Text.trim s) = .unmatched expected rest) :
      FaultOf s (.unmatched rest expected) rest
  | tooDeep {rest : Text} (hread : sequence (term maxDepth) (Text.trim s) = .tooDeep rest) :
      FaultOf s .tooDeep rest

theorem exists_faultOf {position : Nat} {fault : ParseFault}
    (h : parse s = .error (.malformed position fault)) :
    ∃ rest, FaultOf s fault rest ∧ .malformed position fault = malformed s rest fault := by
  by_cases hblank : Text.trim s = []
  · rw [parse_eq_ok.2 (.inl ⟨hblank, rfl⟩)] at h
    cases h
  rw [parse_of_trim_ne_nil hblank] at h
  cases hread : sequence (term maxDepth) (Text.trim s) with
  | done drafts rest =>
      rw [hread] at h
      dsimp only at h
      cases hrest : Text.trimStart rest with
      | nil =>
          rw [hrest] at h
          cases hbuild : Draft.buildAll drafts with
          | ok nodes =>
              rw [hbuild] at h
              cases h
          | error e =>
              rw [hbuild] at h
              cases h
      | cons c told =>
          rw [hrest] at h
          cases h
          rw [← hrest]
          exact ⟨_, .trailing hread (by simp [hrest]), rfl⟩
  | unmatched expected rest =>
      rw [hread] at h
      cases h
      exact ⟨rest, .unmatched hread, rfl⟩
  | tooDeep rest =>
      rw [hread] at h
      cases h
      exact ⟨rest, .tooDeep hread, rfl⟩
  | insideChar =>
      rw [hread] at h
      cases h

theorem opensBehind_of_read (h : sequence (term maxDepth) s = .tooDeep rest) :
    OpensBehind maxDepth s rest :=
  opensBehind_of_sequence (takes_of_term maxDepth) (opensBehind_of_term maxDepth) h

/-- Every fault is told with what was left of the text, which is an end of it. -/
theorem FaultOf.suffix_and_pointsAt {fault : ParseFault} (h : FaultOf s fault rest) :
    rest <:+ Text.trim s ∧ fault.PointsAt rest := by
  cases h with
  | trailing hread _ =>
      have htakes := takes_of_sequence (takes_of_term maxDepth) hread
      exact ⟨(List.dropWhile_suffix isBlank).trans htakes.suffix, rfl⟩
  | unmatched hread => exact ⟨suffix_of_sequence_unmatched maxDepth hread, rfl⟩
  | tooDeep hread =>
      obtain ⟨before, behind, hbefore, hbehind, -⟩ := opensBehind_of_read hread
      exact ⟨⟨before, hbefore.symm⟩, behind, hbehind⟩

/-- White space around a trimmed text moves the place of a fault in it. -/
theorem malformed_surrounded {u v : Text} (hu : ∀ c ∈ u, isBlank c = true)
    (hv : ∀ c ∈ v, isBlank c = true) (htrim : Text.trim s = s) (hne : s ≠ []) (hrest : rest <:+ s)
    (fault : ParseFault) :
    malformed (u ++ s ++ v) rest fault = (malformed s rest fault).shift (Text.byteLength u) := by
  obtain ⟨before, rfl⟩ := hrest
  have hend := (trim_surrounded hu hv htrim hne).2
  have hself := (trim_surrounded (u := []) (v := []) (by simp) (by simp) htrim hne).2
  rw [List.nil_append, List.append_nil] at hself
  rw [malformed, hend, malformed, hself, ParseError.shift]
  simp only [Text.byteLength_append]
  congr 1
  omega

theorem parse_surrounded {u v : Text} (hu : ∀ c ∈ u, isBlank c = true)
    (hv : ∀ c ∈ v, isBlank c = true) (htrim : Text.trim s = s) (hne : s ≠ []) :
    parse (u ++ s ++ v) = (parse s).mapError (.shift (Text.byteLength u)) := by
  have hwhole := (trim_surrounded hu hv htrim hne).1
  have hplace : ∀ {rest : Text}, rest <:+ s → ∀ fault, malformed (u ++ s ++ v) rest fault =
      (malformed s rest fault).shift (Text.byteLength u) := fun hrest fault =>
    malformed_surrounded hu hv htrim hne hrest fault
  rw [parse_of_trim_ne_nil (by rwa [hwhole]), hwhole, parse_of_trim_ne_nil (by rwa [htrim]), htrim]
  cases hread : sequence (term maxDepth) s with
  | done drafts rest =>
      dsimp only
      cases hrest : Text.trimStart rest with
      | nil =>
          dsimp only
          cases Draft.buildAll drafts <;> rfl
      | cons c trailing =>
          have hsuffix : c :: trailing <:+ rest := hrest ▸ List.dropWhile_suffix isBlank
          exact congrArg Except.error
            (hplace (hsuffix.trans (takes_of_sequence (takes_of_term maxDepth) hread).suffix) _)
  | unmatched expected rest =>
      exact congrArg Except.error (hplace (suffix_of_sequence_unmatched maxDepth hread) _)
  | tooDeep rest => exact congrArg Except.error (hplace (opensBehind_of_read hread).suffix _)
  | insideChar => rfl

/-- A fault is told with a place between two characters of the text.  What follows it, up to the
white space at the end of the text, is what the fault tells; where a group is nested too deep, it
begins with the bracket of the group.  White space around a text that has none changes nothing about
what the text stands for or what is told about it, except that a place moves along. -/
theorem parse_places :
    (∀ s position fault, parse s = .error (.malformed position fault) →
      position ≤ Text.byteLength s ∧ ∃ rest gap, fault.PointsAt rest ∧
        Text.dropBytes? position (Text.trimEnd s) = some rest ∧
          Text.dropBytes? position s = some (rest ++ gap)) ∧
    ∀ u s v, (∀ c ∈ u, isBlank c = true) → (∀ c ∈ v, isBlank c = true) → Text.trim s = s →
      s ≠ [] → parse (u ++ s ++ v) = (parse s).mapError (.shift (Text.byteLength u)) := by
  refine ⟨fun s position fault h => ?_, fun u s v hu hv htrim hne =>
    parse_surrounded hu hv htrim hne⟩
  obtain ⟨rest, hfault, hplace⟩ := exists_faultOf h
  obtain ⟨hrest, hpoints⟩ := hfault.suffix_and_pointsAt
  obtain ⟨before, hbefore⟩ := hrest.trans (trim_suffix_trimEnd s)
  obtain ⟨gap, hgap⟩ := isPrefix_trimEnd s
  -- the two lengths differ by what stands in front of the rest
  rw [malformed, ← hbefore, Text.byteLength_append, Nat.add_sub_cancel_right] at hplace
  cases hplace
  refine ⟨?_, rest, gap, hpoints, ?_, ?_⟩
  · rw [← hgap, ← hbefore, Text.byteLength_append, Text.byteLength_append, Nat.add_assoc]
    exact Nat.le_add_right _ _
  · rw [← hbefore, dropBytes?_append]
  · rw [← hgap, ← hbefore, List.append_assoc, dropBytes?_append]

set_option maxRecDepth 10000 in
/-- A bracket that is left over behind a letter of two bytes, with a wide space in front. -/
theorem parse_places_trailing :
    let s : Text := ['é', '=', '1', ' ', ')']
    parse ('\u2003' :: (s ++ ['\n'])) = .error (.malformed 8 (.trailing [')'])) ∧
      Text.dropBytes? 8 (Text.trimEnd ('\u2003' :: (s ++ ['\n']))) = some [')'] := by
  intro s
  have hparse : parse s = .error (.malformed 5 (.trailing [')'])) := by cbv
  have hmoved : parse (['\u2003'] ++ s ++ ['\n']) = .error (.malformed 8 (.trailing [')'])) := by
    rw [parse_places.2 ['\u2003'] s ['\n'] (by simp [isBlank]) (by simp [isBlank]) (by decide)
      (by decide), hparse]
    rfl
  obtain ⟨-, rest, gap, hpoints, hdrop, -⟩ := parse_places.1 _ _ _ hmoved
  cases hpoints
  exact ⟨hmoved, hdrop⟩

end WhereClause.Shorthand
