import WhereClause.Proofs.Compound
import WhereClause.Proofs.Cuts
import WhereClause.Proofs.Places

/-!
# What stands in front of a rest

An expression may be followed by something that does not belong to it, and the parser then tells
what this is.  To find out where the expression ends it has to try: it reads a joiner and half a
term, and goes back.  What it has read up to there is an expression all the same.  To see this the
text is cut off at the place that is told, and every reader is asked what it reads from the shorter
text: the same, unless it could have gone on in the longer one.

Main definitions:

* `Reader.CutsOff`: what the reader reads up to some place does not depend on what is behind;
* `Excludes`: where the reader reads anything, a keyword is not read.

Main results:

* `cutsOff_value`, `cutsOff_comparison`, `cutsOff_term`: values, comparisons and terms;
* `sequence_cut`: a sequence, if it does not go on in the shorter text;
* `parse_trailing`: **what stands in front of trailing text is a complete expression, and can be
  continued as one**.
-/

set_option autoImplicit false

namespace WhereClause.Shorthand

variable {α β : Type} {s u rest : Text}

/-! ### Readers on a shorter text -/

namespace Reader

variable {x y : Reader α}

/-- The reader leaves an end of the text, and reads the same if the text is cut off somewhere behind
what it reads. -/
structure CutsOff (x : Reader α) : Prop where
  /-- What is left is an end of the text. -/
  suffix : ∀ {s a rest}, x s = .done a rest → rest <:+ s
  /-- A text that is cut off from what is left is not looked at. -/
  cut : ∀ {s u a rest}, x (s ++ u) = .done a (rest ++ u) → x s = .done a rest

/-- A reader cuts off if it reads a piece of the text, in front of whatever the piece does not go on
with. -/
theorem cutsOff_of_pieces (h : ∀ s a rest, x s = .done a rest →
    ∃ (piece : Text) (p : Char → Bool), s = piece ++ rest ∧ Stops p rest ∧
      ∀ behind, Stops p behind → x (piece ++ behind) = .done a behind) : CutsOff x where
  suffix hread := by
    obtain ⟨piece, _, rfl, -⟩ := h _ _ _ hread
    exact List.suffix_append piece _
  cut hread := by
    obtain ⟨piece, p, hs, hstops, hbehind⟩ := h _ _ _ hread
    rw [← List.append_assoc] at hs
    rw [List.append_cancel_right hs]
    exact hbehind _ hstops.of_append

theorem cutsOff_pure (a : α) : CutsOff (pure a : Reader α) :=
  cutsOff_of_pieces fun _ _ _ hread => by
    cases hread
    exact ⟨[], fun _ => false, rfl, fun _ _ => rfl, fun _ _ => rfl⟩

theorem CutsOff.bind {f : α → Reader β} (hx : CutsOff x) (hf : ∀ a, CutsOff (f a)) :
    CutsOff (x >>= f) where
  suffix hread := by
    obtain ⟨a, middle, hread, hbehind⟩ := bind_eq_done.1 hread
    exact ((hf a).suffix hbehind).trans (hx.suffix hread)
  cut hread := by
    obtain ⟨a, middle, hread, hbehind⟩ := bind_eq_done.1 hread
    obtain ⟨start, rfl⟩ := (hf a).suffix hbehind
    rw [← List.append_assoc] at hread hbehind
    exact (bind_done (hx.cut hread)).trans ((hf a).cut hbehind)

theorem CutsOff.map (hx : CutsOff x) (f : α → β) : CutsOff (f <$> x) :=
  hx.bind fun a => cutsOff_pure (f a)

/-- The second of two readers must not read where the first does. -/
theorem CutsOff.orElse (hx : CutsOff x) (hy : CutsOff y)
    (hskip : ∀ s a rest, y s = .done a rest → ∃ e place, x s = .unmatched e place) :
    CutsOff (x <|> y) where
  suffix hread := by
    rcases done_of_orElse hread with hread | hread
    · exact hx.suffix hread
    · exact hy.suffix hread
  cut hread := by
    rcases done_of_orElse hread with hread | hread
    · exact orElse_done (hx.cut hread)
    · have hread := hy.cut hread
      obtain ⟨e, place, hunmatched⟩ := hskip _ _ _ hread
      exact (orElse_unmatched hunmatched).trans hread

theorem CutsOff.many_suffix (hx : CutsOff x) {as : List α} (h : many x s = .done as rest) :
    rest <:+ s :=
  many_induction (motive := fun _ s rest => rest <:+ s) (fun _ => List.suffix_rfl)
    (fun hread _ ih => ih.trans (hx.suffix hread)) h

/-- A repetition might go on in the shorter text where it does not in the longer one. -/
theorem CutsOff.many_cut (hx : CutsOff x) {as : List α}
    (h : many x (s ++ u) = .done as (rest ++ u)) (hend : many x rest = .done [] rest) :
    many x s = .done as rest := by
  -- the induction is on the longer text, and that it ends with `u` is part of what is proved
  have hmotive := many_induction (x := x) (motive := fun as t left => left <:+ t ∧
    ∀ s, t = s ++ u → left = rest ++ u → many x s = .done as rest) ?_ ?_ h
  · exact hmotive.2 s rfl rfl
  · refine fun t => ⟨List.suffix_rfl, ?_⟩
    rintro s rfl hleft
    rw [List.append_cancel_right hleft]
    exact hend
  · intro a as t middle left hread hlength ⟨hleft, ih⟩
    refine ⟨hleft.trans (hx.suffix hread), ?_⟩
    rintro s rfl rfl
    obtain ⟨start, rfl⟩ := hleft
    rw [← List.append_assoc] at hread hlength ih
    refine many_done (hx.cut hread) ?_ (ih _ rfl rfl)
    simp only [List.length_append] at hlength ⊢
    omega

end Reader

/-! ### White space, words and keywords -/

theorem cutsOff_run (p : Char → Bool) : Reader.CutsOff (run p) :=
  Reader.cutsOff_of_pieces fun _ word _ hread => by
    obtain ⟨hne, hall, hs, hstops⟩ := run_eq_done hread
    exact ⟨word, p, hs, hstops, fun _ h => run_append hne hall h⟩

theorem cutsOff_blanks : Reader.CutsOff blanks :=
  Reader.cutsOff_of_pieces fun s _ rest hread => by
    obtain ⟨gap, hgap, hs⟩ := gap_of_blanks hread
    have hstops : Stops isGap rest := by
      cases hread
      exact stops_dropWhile isGap s
    refine ⟨gap, isGap, hs, hstops, fun behind h => ?_⟩
    rw [blanks, dropWhile_append_of_stops hgap h]

theorem cutsOff_blanks₁ : Reader.CutsOff blanks₁ :=
  Reader.cutsOff_of_pieces fun s _ rest hread => by
    obtain ⟨gap, hgap, hs⟩ := realGap_of_blanks₁ hread
    have hstops : Stops isGap rest := by
      cases s with
      | nil => cases hread
      | cons c s =>
          rw [blanks₁] at hread
          split at hread
          · cases hread
            exact stops_dropWhile isGap s
          · cases hread
    exact ⟨gap, isGap, hs, hstops, fun behind h => blanks₁_gap hgap h⟩

theorem cutsOff_keyword {word : Text} (hword : EndsBeforeKelvin word = true) :
    Reader.CutsOff (keyword word) :=
  Reader.cutsOff_of_pieces fun _ _ _ hread => by
    obtain ⟨written, hwritten, hs, hstops⟩ := keyword_derives hword hread
    exact ⟨written, isWordChar, hs, hstops, fun _ h => keyword_cased hwritten h⟩

/-! ### Values -/

theorem cutsOff_quotedText : Reader.CutsOff quotedText :=
  Reader.cutsOff_of_pieces fun s v rest hread => by
    have hstops : ∀ {t : Text}, t.head? ≠ some '\'' ↔ Stops (· == '\'') t := by
      intro t
      cases t <;> simp
    obtain ⟨content, hcontent, rfl⟩ := Reader.map_eq_done.1 hread
    have hcontent := Reader.ofOption_eq_done.1 hcontent
    cases s with
    | nil => cases hcontent
    | cons c s =>
        rw [Quoted.read?] at hcontent
        split at hcontent
        · rename_i hc
          obtain ⟨rfl, hrest⟩ := Quoted.eq_of_readBody? hcontent
          refine ⟨Quoted.write '\'' content, (· == '\''), ?_, hstops.1 hrest, fun behind h => ?_⟩
          · rw [hc, Quoted.write, List.cons_append, List.append_assoc]
            rfl
          · exact quotedText_write content (hstops.2 h)
        · cases hcontent

theorem keyword_ne_insideChar (word : Text) (hword : EndsBeforeKelvin word = true)
    (hk : 'K' ∉ word) (s : Text) : keyword word s ≠ .insideChar := by
  intro h
  by_cases hbegins : beginsWith word s = true
  · cases hcut : Text.dropBytes? (Text.byteLength word) s with
    | none =>
        obtain ⟨hagree, hlong⟩ := beginsWith_iff.1 hbegins
        obtain ⟨w₁, w₂, _, _, rfl, -⟩ := exists_kelvin hword hagree hlong hcut
        exact hk (by simp)
    | some rest =>
        rw [keyword_cut hbegins hcut] at h
        split at h <;> cases h
  · rw [keyword_of_not_beginsWith hbegins] at h
    cases h

/-- The keywords among the values have no K. -/
theorem unquoted_ne_insideChar (s : Text) : unquoted s ≠ .insideChar := by
  have horElse : ∀ {x y : Reader Value}, x s ≠ .insideChar → y s ≠ .insideChar →
      (x <|> y) s ≠ .insideChar := by
    intro x y hx hy
    rw [Reader.orElse_apply]
    split
    · exact hy
    · exact hx
  have hmap : ∀ {γ : Type} {x : Reader γ} {f : γ → Value}, x s ≠ .insideChar →
      (x >>= fun a => pure (f a)) s ≠ .insideChar := by
    intro γ x f hx h
    rw [Reader.bind_apply] at h
    cases hread : x s with
    | insideChar => exact hx hread
    | _ =>
        rw [hread] at h
        cases h
  refine horElse (hmap (keyword_ne_insideChar "NULL" (by decide) (by decide) s)) ?_
  refine horElse (hmap (keyword_ne_insideChar "TRUE" (by decide) (by decide) s)) ?_
  refine horElse (hmap (keyword_ne_insideChar "FALSE" (by decide) (by decide) s)) ?_
  refine horElse ?_ (hmap ?_)
  · unfold Reader.ofOption
    split <;> nofun
  · unfold run
    split <;> nofun

/-- Where a number or a bare word is read from, the same is read in front of anything that does not
go on with it. -/
theorem unquoted_piece {v : Value} {piece : Text} (h : unquoted (piece ++ rest) = .done v rest)
    (hrest : Stops isBareChar rest) {behind : Text} (hbehind : Stops isBareChar behind) :
    unquoted (piece ++ behind) = .done v behind := by
  have hpiece : unquoted piece = .done v [] := by
    rw [local_unquoted hrest piece (unquoted_ne_insideChar piece)] at h
    generalize unquoted piece = reading at h
    cases reading with
    | done w left =>
        simpa [Reading.append] using h
    | _ => cases h
  have hlocal := local_unquoted hbehind piece (unquoted_ne_insideChar piece)
  rwa [hpiece] at hlocal

theorem cutsOff_unquoted : Reader.CutsOff unquoted :=
  Reader.cutsOff_of_pieces fun s v rest hread => by
    have hwhole := hread
    -- a keyword may be followed by a sign that a bare word could go on with
    rcases Reader.done_of_orElse hread with hread | hread
    · obtain ⟨_, _, hnull, hread⟩ := Reader.seqRight_eq_done.1 hread
      cases hread
      obtain ⟨written, hwritten, hs, hstops⟩ := keyword_derives (by decide) hnull
      exact ⟨written, isWordChar, hs, hstops, fun behind h =>
        Reader.orElse_done (Reader.seqRight_done (keyword_cased hwritten h))⟩
    rcases Reader.done_of_orElse hread with hread | hread
    · obtain ⟨_, _, htrue, hread⟩ := Reader.seqRight_eq_done.1 hread
      cases hread
      obtain ⟨written, hwritten, hs, hstops⟩ := keyword_derives (by decide) htrue
      refine ⟨written, isWordChar, hs, hstops, fun behind h => ?_⟩
      rw [unquoted, Reader.orElse_unmatched (keyword_value_other hwritten (by decide))]
      exact Reader.orElse_done (Reader.seqRight_done (keyword_cased hwritten h))
    rcases Reader.done_of_orElse hread with hread | hread
    · obtain ⟨_, _, hfalse, hread⟩ := Reader.seqRight_eq_done.1 hread
      cases hread
      obtain ⟨written, hwritten, hs, hstops⟩ := keyword_derives (by decide) hfalse
      refine ⟨written, isWordChar, hs, hstops, fun behind h => ?_⟩
      rw [unquoted, Reader.orElse_unmatched (keyword_value_other hwritten (by decide)),
        Reader.orElse_unmatched (keyword_value_other hwritten (by decide))]
      exact Reader.orElse_done (Reader.seqRight_done (keyword_cased hwritten h))
    have hpiece : ∃ piece, s = piece ++ rest ∧ Stops isBareChar rest := by
      rcases Reader.done_of_orElse hread with hread | hread
      · cases number_of_number? (Reader.ofOption_eq_done.1 hread) with
        | whole _ _ _ hrest => exact ⟨_, rfl, hrest⟩
        | decimal _ _ _ _ hrest => exact ⟨_, rfl, hrest⟩
      · obtain ⟨word, hword, -⟩ := Reader.map_eq_done.1 hread
        obtain ⟨-, -, hs, hrest⟩ := run_eq_done hword
        exact ⟨word, hs, hrest⟩
    obtain ⟨piece, rfl, hrest⟩ := hpiece
    exact ⟨piece, isBareChar, rfl, hrest, fun behind h => unquoted_piece hwhole hrest h⟩

theorem cutsOff_value : Reader.CutsOff value := by
  rw [value_eq]
  refine cutsOff_quotedText.orElse cutsOff_unquoted fun s v rest hread => ?_
  cases s with
  | nil => exact absurd hread (needsText_unquoted v rest)
  | cons c s =>
      have hc : c ≠ '\'' := by
        rintro rfl
        exact unquoted_quote hread
      exact ⟨_, _, quotedText_cons_of_ne hc⟩

/-! ### Comparisons -/

/-- Where the reader reads anything, the keyword is not read. -/
def Excludes (word : Text) (x : Reader α) : Prop :=
  ∀ s a rest, x s = .done a rest → keyword word s = .unmatched .symbol s

theorem Excludes.orElse {word : Text} {x y : Reader α} (hx : Excludes word x)
    (hy : Excludes word y) : Excludes word (x <|> y) := by
  intro s a rest hread
  rcases Reader.done_of_orElse hread with hread | hread
  · exact hx s a rest hread
  · exact hy s a rest hread

theorem excludes_keyword (word : Text) {other : Text} (hother : EndsBeforeKelvin other = true)
    (hne : ¬Agree other word) (f : Unit → Reader α) : Excludes word (keyword other >>= f) := by
  intro s a rest hread
  obtain ⟨_, _, hword, -⟩ := Reader.bind_eq_done.1 hread
  have hskip := keyword_skip_read hother hword word hne []
  rwa [List.append_nil] at hskip

theorem excludes_plainComparison {word : Text} {k : Char} (hk : word.head? = some k)
    (hletter : foldCase k ∉ "=!<>".toList) : Excludes word plainComparison := by
  intro s a rest hread
  obtain ⟨_, _, hsymbol, -⟩ := Reader.bind_eq_done.1 hread
  have hskip := keyword_skip_symbol? hsymbol word hk hletter []
  rwa [List.append_nil] at hskip

/-- `NULL` behind `IS`, with or without `NOT` in front of it. -/
theorem cutsOff_nullity : Reader.CutsOff (do
    let negation ← Reader.optional (do keyword "NOT"; blanks₁)
    keyword "NULL"
    return (if negation.isSome then .isNotNull else .isNull, .none) :
      Reader (Operator × Operand)) := by
  have hnegated : Reader.CutsOff (do keyword "NOT"; blanks₁) :=
    (cutsOff_keyword (by decide)).bind fun _ => cutsOff_blanks₁
  have hnull : ∀ parts : Operator × Operand, Reader.CutsOff (do keyword "NULL"; return parts) :=
    fun parts => (cutsOff_keyword (by decide)).bind fun _ => Reader.cutsOff_pure parts
  constructor
  · intro s parts rest hread
    obtain ⟨negation, middle, hnegation, hread⟩ := Reader.bind_eq_done.1 hread
    have hrest := (hnull _).suffix hread
    rcases Reader.done_of_optional hnegation with ⟨_, -, hnot⟩ | ⟨-, rfl⟩
    · exact hrest.trans (hnegated.suffix hnot)
    · exact hrest
  · intro s u parts rest hread
    obtain ⟨negation, middle, hnegation, hread⟩ := Reader.bind_eq_done.1 hread
    obtain ⟨start, rfl⟩ := (hnull _).suffix hread
    rw [← List.append_assoc] at hnegation hread
    have hread := (hnull _).cut hread
    rcases Reader.done_of_optional hnegation with ⟨_, rfl, hnot⟩ | ⟨rfl, hs⟩
    · exact (Reader.bind_done (Reader.optional_done (hnegated.cut hnot))).trans hread
    · -- there is no NOT where NULL was read
      rw [List.append_cancel_right hs] at hread
      have hskip := excludes_keyword "NOT" (by decide) (by decide) _ _ _ _ hread
      exact (Reader.bind_done (Reader.optional_unmatched (Reader.bind_unmatched hskip))).trans hread

theorem cutsOff_nullCheck : Reader.CutsOff nullCheck :=
  (cutsOff_keyword (by decide)).bind fun _ => cutsOff_blanks₁.bind fun _ => cutsOff_nullity

theorem cutsOff_between : Reader.CutsOff between :=
  (cutsOff_keyword (by decide)).bind fun _ => cutsOff_blanks.bind fun _ =>
    cutsOff_value.bind fun _ => cutsOff_blanks₁.bind fun _ =>
      (cutsOff_keyword (by decide)).bind fun _ => cutsOff_blanks.bind fun _ =>
        cutsOff_value.bind fun _ => Reader.cutsOff_pure _

theorem cutsOff_bracketed? (e : Expected) : Reader.CutsOff (Reader.ofOption e bracketed?) :=
  Reader.cutsOff_of_pieces fun _ body rest hread => by
    obtain ⟨rfl, hbalanced⟩ := balanced_of_bracketed? (Reader.ofOption_eq_done.1 hread)
    refine ⟨'(' :: (body ++ [')']), fun _ => false, by simp, fun _ _ => rfl, fun behind _ => ?_⟩
    rw [List.cons_append, List.append_assoc]
    exact Reader.ofOption_some (bracketed?_balanced hbalanced behind)

/-- The values in brackets are read from a text of their own. -/
theorem cutsOff_alternatives (body : Text) : Reader.CutsOff (alternatives body) :=
  Reader.cutsOff_of_pieces fun s operand rest hread => by
    have hpiece : s = rest ∧ ∀ behind, alternatives body behind = .done operand behind := by
      unfold alternatives at hread ⊢
      split at hread
      · cases hread
        exact ⟨rfl, fun _ => if_pos ‹_›⟩
      · split at hread
        · cases hread
          exact ⟨rfl, fun _ => if_neg ‹_›⟩
        all_goals cases hread
    exact ⟨[], fun _ => false, hpiece.1, fun _ _ => rfl, fun behind _ => hpiece.2 behind⟩

theorem cutsOff_membership : Reader.CutsOff membership :=
  (cutsOff_keyword (by decide)).bind fun _ => cutsOff_blanks.bind fun _ =>
    (cutsOff_bracketed? .mark).bind fun body => (cutsOff_alternatives body).bind fun _ =>
      Reader.cutsOff_pure _

theorem cutsOff_pattern : Reader.CutsOff pattern :=
  (cutsOff_keyword (by decide)).bind fun _ => cutsOff_blanks.bind fun _ =>
    cutsOff_value.bind fun _ => Reader.cutsOff_pure _

/-- A symbol that the shorter text begins with is one that the longer text begins with. -/
theorem cutsOff_symbol? (e : Expected) : Reader.CutsOff (Reader.ofOption e symbol?) where
  suffix hread := (symbol_of_symbol? (Reader.ofOption_eq_done.1 hread)).suffix
  cut := by
    intro s u op rest hread
    have hread := Reader.ofOption_eq_done.1 hread
    refine Reader.ofOption_eq_done.2 ?_
    unfold symbol? at hread ⊢
    generalize symbols = table at hread ⊢
    induction table with
    | nil => cases hread
    | cons entry table ih =>
        obtain ⟨symbol, op'⟩ := entry
        rw [List.findSome?_cons] at hread ⊢
        dsimp only at hread ⊢
        cases hdrop : Text.dropStart? symbol (s ++ u) with
        | some behind =>
            rw [hdrop] at hread
            cases hread
            have hs := Text.eq_append_of_dropStart? hdrop
            rw [← List.append_assoc] at hs
            rw [List.append_cancel_right hs, Text.dropStart?_append]
            rfl
        | none =>
            have hnone : Text.dropStart? symbol s = none := by
              cases hshort : Text.dropStart? symbol s with
              | none => rfl
              | some behind =>
                  rw [Text.eq_append_of_dropStart? hshort, List.append_assoc,
                    Text.dropStart?_append] at hdrop
                  cases hdrop
            rw [hdrop] at hread
            rw [hnone]
            exact ih hread

theorem cutsOff_plainComparison : Reader.CutsOff plainComparison :=
  (cutsOff_symbol? .symbol).bind fun _ => cutsOff_blanks.bind fun _ =>
    cutsOff_value.bind fun _ => Reader.cutsOff_pure _

/-- Each form is settled by its keyword or symbol, which rules out the forms before it. -/
theorem cutsOff_comparison : Reader.CutsOff comparison := by
  have hword : ∀ (word : Text) {x y : Reader (Operator × Operand)}, Excludes word y →
      (∀ s, keyword word s = .unmatched .symbol s → x s = .unmatched .symbol s) →
      ∀ s a rest, y s = .done a rest → ∃ e place, x s = .unmatched e place :=
    fun word _ _ hy hx s a rest hread => ⟨_, _, hx s (hy s a rest hread)⟩
  refine cutsOff_nullCheck.orElse (cutsOff_between.orElse (cutsOff_membership.orElse
    (cutsOff_pattern.orElse cutsOff_plainComparison ?_) ?_) ?_) ?_
  · exact hword "LIKE" (excludes_plainComparison (k := 'L') rfl (by decide)) fun s => pattern_other
  · refine hword "IN" (Excludes.orElse ?_ ?_) fun s => membership_other
    · exact excludes_keyword _ (by decide) (by decide) _
    · exact excludes_plainComparison (k := 'I') rfl (by decide)
  · refine hword "BETWEEN" (Excludes.orElse ?_ (Excludes.orElse ?_ ?_))
      fun s => between_other
    · exact excludes_keyword _ (by decide) (by decide) _
    · exact excludes_keyword _ (by decide) (by decide) _
    · exact excludes_plainComparison (k := 'B') rfl (by decide)
  · refine hword "IS" (Excludes.orElse ?_ (Excludes.orElse ?_ (Excludes.orElse ?_ ?_)))
      fun s => nullCheck_other
    · exact excludes_keyword _ (by decide) (by decide) _
    · exact excludes_keyword _ (by decide) (by decide) _
    · exact excludes_keyword _ (by decide) (by decide) _
    · exact excludes_plainComparison (k := 'I') rfl (by decide)

/-! ### Terms and sequences -/

theorem cutsOff_condition (j : Joiner) : Reader.CutsOff (condition j) :=
  (cutsOff_run isFieldChar).bind fun _ => cutsOff_blanks.bind fun _ =>
    cutsOff_comparison.bind fun _ => Reader.cutsOff_pure _

theorem cutsOff_joiner : Reader.CutsOff joiner := by
  refine Reader.CutsOff.orElse ?_ ?_ fun s j rest hread => ?_
  · exact (cutsOff_keyword (by decide)).bind fun _ => Reader.cutsOff_pure _
  · exact (cutsOff_keyword (by decide)).bind fun _ => Reader.cutsOff_pure _
  · have hskip := excludes_keyword "AND" (by decide) (by decide) _ _ _ _ hread
    exact ⟨_, _, Reader.seqRight_unmatched hskip⟩

section Terms

variable {read : Joiner → Reader Draft} {drafts : List Draft}
  (hread : ∀ j, Reader.CutsOff (read j))

include hread

theorem cutsOff_joined : Reader.CutsOff (joined read) :=
  cutsOff_blanks.bind fun _ => cutsOff_joiner.bind fun j => cutsOff_blanks.bind fun _ => hread j

theorem suffix_of_sequence (h : sequence read s = .done drafts rest) : rest <:+ s := by
  obtain ⟨first, others, middle, hfirst, hothers, -⟩ := done_of_sequence h
  exact ((cutsOff_joined hread).many_suffix hothers).trans ((hread .and).suffix hfirst)

/-- A sequence is read from the shorter text if it does not go on there. -/
theorem sequence_cut (h : sequence read (s ++ u) = .done drafts (rest ++ u))
    (hend : Reader.many (joined read) rest = .done [] rest) :
    sequence read s = .done drafts rest := by
  obtain ⟨first, others, middle, hfirst, hothers, rfl⟩ := done_of_sequence h
  obtain ⟨start, rfl⟩ := (cutsOff_joined hread).many_suffix hothers
  rw [← List.append_assoc] at hfirst hothers
  have hfirst := (hread .and).cut hfirst
  have hothers := (cutsOff_joined hread).many_cut hothers hend
  rw [sequence_eq, Reader.bind_done hfirst, Reader.bind_done hothers]
  rfl

/-- In front of its closing bracket a sequence does not go on. -/
theorem cutsOff_group (j : Joiner) : Reader.CutsOff (group j (sequence read)) where
  suffix h := by
    obtain ⟨children, s₁, s₂, s₃, rfl, hgap, hchildren, hgap₁, -⟩ := done_of_group h
    have hinner := (suffix_of_sequence hread hchildren).trans (gap_of_blanks hgap).suffix
    have hclose := (List.suffix_cons ')' _).trans (gap_of_blanks hgap₁).suffix
    exact (hclose.trans hinner).trans (List.suffix_cons '(' s₁)
  cut := by
    intro s u draft rest h
    obtain ⟨children, s₁, s₂, s₃, hs, hgap, hchildren, hgap₁, rfl⟩ := done_of_group h
    rw [← List.cons_append] at hgap₁
    obtain ⟨t₃, rfl⟩ := cutsOff_blanks.suffix hgap₁
    rw [← List.append_assoc] at hchildren hgap₁
    obtain ⟨t₂, rfl⟩ := suffix_of_sequence hread hchildren
    rw [← List.append_assoc] at hchildren hgap
    obtain ⟨t₁, rfl⟩ := cutsOff_blanks.suffix hgap
    rw [← List.append_assoc] at hgap hs
    rw [← List.cons_append] at hs
    have hgap₁ := cutsOff_blanks.cut hgap₁
    have hchildren := sequence_cut hread hchildren (many_joined_closes hgap₁)
    rw [List.append_cancel_right hs, group, Reader.bind_done (mark_cons '(' _),
      Reader.bind_done (cutsOff_blanks.cut hgap), Reader.bind_done hchildren,
      Reader.bind_done hgap₁, Reader.bind_done (mark_cons ')' rest)]
    rfl

end Terms

theorem cutsOff_term (levels : Nat) (j : Joiner) : Reader.CutsOff (term levels j) := by
  induction levels generalizing j with
  | zero =>
      constructor
      · exact fun h => (cutsOff_condition j).suffix (condition_of_term_zero h)
      · exact fun h => term_of_condition ((cutsOff_condition j).cut (condition_of_term_zero h)) 0
  | succ levels ih =>
      refine (cutsOff_group ih j).orElse (cutsOff_condition j) fun s draft rest h => ?_
      obtain ⟨c, t, rfl, hc⟩ := exists_cons_of_condition h
      exact ⟨_, _, Reader.bind_unmatched (mark_cons_of_ne hc t)⟩

/-! ### Whole texts -/

/-- A text in front of trailing text is read to its end. -/
theorem sequence_of_trailing {levels : Nat} {drafts : List Draft}
    (h : sequence (term levels) (s ++ rest) = .done drafts rest) :
    sequence (term levels) s = .done drafts [] :=
  sequence_cut (u := rest) (cutsOff_term levels) h (Reader.many_unmatched rfl)

/-- The parts of a text with something in it that does not belong to the expression: the expression
with white space around it, up to the place that is told, and what follows. -/
theorem exists_of_trailing {position : Nat} {told : Text}
    (h : parse s = .error (.malformed position (.trailing told))) :
    ∃ lead taken gap after drafts, s = lead ++ taken ++ gap ++ after ∧
      Text.byteLength (lead ++ taken ++ gap) = position ∧
        ((∀ c ∈ lead, isBlank c = true) ∧ ∀ c ∈ gap, isBlank c = true) ∧
          (Text.trim taken = taken ∧ taken ≠ []) ∧
            sequence (term maxDepth) taken = .done drafts [] := by
  obtain ⟨rest, hfault, hplace⟩ := exists_faultOf h
  cases hfault with
  | @trailing drafts rest hread _ =>
      obtain ⟨taken, hsplit, hend⟩ := takes_of_sequence (takes_of_term maxDepth) hread
      obtain ⟨lead, tail, hlead, htail, hs⟩ := exists_surrounded s
      have hne : taken ≠ [] := by
        rintro rfl
        obtain ⟨t, c, heq, -⟩ := hend
        simp at heq
      have hstart : Stops isBlank (taken ++ rest) := hsplit ▸ stops_trim s
      have hrest : rest.takeWhile isBlank ++ Text.trimStart rest = rest :=
        List.takeWhile_append_dropWhile
      have hposition : position = Text.byteLength (lead ++ taken ++ rest.takeWhile isBlank) := by
        have htrimEnd := (trim_surrounded hlead htail (trim_trim s) (by simp [hsplit, hne])).2
        rw [← hs] at htrimEnd
        rw [malformed, htrimEnd, hsplit] at hplace
        have hbytes := congrArg Text.byteLength hrest
        rw [Text.byteLength_append] at hbytes
        rw [(ParseError.malformed.inj hplace).1]
        simp only [Text.byteLength_append]
        omega
      refine ⟨lead, taken, rest.takeWhile isBlank, Text.trimStart rest ++ tail, drafts, ?_,
        hposition.symm, ⟨hlead, fun c hc => List.mem_takeWhile_imp hc⟩,
        ⟨trim_eq_self hstart.of_append hend, hne⟩, ?_⟩
      · calc
          s = lead ++ (taken ++ rest) ++ tail := hsplit ▸ hs
          _ = lead ++ (taken ++ (rest.takeWhile isBlank ++ Text.trimStart rest)) ++ tail := by
            rw [hrest]
          _ = lead ++ taken ++ rest.takeWhile isBlank ++ (Text.trimStart rest ++ tail) := by
            simp only [List.append_assoc]
      · rw [hsplit] at hread
        exact sequence_of_trailing hread

set_option maxRecDepth 4000 in
/-- An expression that is read to its end goes on with a joiner and a condition. -/
theorem parse_continued {drafts : List Draft} {nodes : List Node} (htrim : Text.trim s = s)
    (hne : s ≠ []) (hread : sequence (term maxDepth) s = .done drafts [])
    (hbuild : Draft.buildAll drafts = .ok nodes) :
    Text.trim (s ++ " AND a = 1".toList) = s ++ " AND a = 1".toList ∧
      parse (s ++ " AND a = 1".toList) =
        .ok (nodes ++ [.condition .and ⟨"a", [⟨"a", none⟩], .equal, .scalar (.int 1)⟩]) := by
  have hu : Stops isValueChar " AND a = 1".toList := stops_cons.2 (by decide)
  have hlast : sequence (term maxDepth) "a = 1".toList =
      .done [.condition .and "a" .equal (.scalar (.int 1))] [] := by cbv
  obtain ⟨others, hothers, hbuildOthers⟩ :=
    many_joined hlast rfl (stops_cons.2 (by decide)) .and
  have hlimited := limited_sequence hu (needsText_term maxDepth)
    (limited_term hu maxDepth maxDepth) hread hothers
  have hwhole : Text.trim (s ++ " AND a = 1".toList) = s ++ " AND a = 1".toList := by
    have hstart : Stops isBlank s := htrim ▸ stops_trim s
    exact trim_eq_self (hstart.append_of_ne_nil hne _)
      (EndsSolid.append s ⟨" AND a = ".toList, '1', rfl, by decide⟩)
  exact ⟨hwhole, parse_of_read hwhole (by simp) (hlimited.done_of_le (nestingAll_le hread))
    (Draft.buildAll_append hbuild hbuildOthers)⟩

/-- What stands in front of trailing text is a complete expression: it stands for nodes, or one of
its conditions is refused, and if it stands for nodes, it can be continued with another condition.
Whatever follows it does not matter. -/
theorem parse_trailing {s : Text} {position : Nat} {told : Text}
    (h : parse s = .error (.malformed position (.trailing told))) :
    ∃ before after, s = before ++ after ∧ Text.byteLength before = position ∧
      Text.trim before ≠ [] ∧
        ((∃ nodes, nodes ≠ [] ∧ parse before = .ok nodes) ∨
          ∃ e, parse before = .error (.invalid e)) ∧
        ∀ nodes, parse before = .ok nodes →
          parse (Text.trimEnd before ++ " AND a = 1".toList) =
            .ok (nodes ++ [.condition .and ⟨"a", [⟨"a", none⟩], .equal, .scalar (.int 1)⟩]) := by
  obtain ⟨lead, taken, gap, after, drafts, hs, hposition, ⟨hlead, hgap⟩, ⟨htrim, hne⟩, hread⟩ :=
    exists_of_trailing h
  obtain ⟨hwhole, hfront⟩ := trim_surrounded hlead hgap htrim hne
  have hparse : parse (lead ++ taken ++ gap) =
      (Draft.buildAll drafts).mapError .invalid := by
    rw [parse_of_trim_ne_nil (by rwa [hwhole]), hwhole, hread]
    rfl
  refine ⟨lead ++ taken ++ gap, after, hs, hposition, by rwa [hwhole], ?_⟩
  -- the white space in front of the expression stays and moves nothing but places
  rw [hparse, hfront]
  cases hbuild : Draft.buildAll drafts with
  | error e => exact ⟨.inr ⟨e, rfl⟩, nofun⟩
  | ok nodes =>
      refine ⟨.inl ⟨nodes, Draft.ne_nil_of_buildAll (ne_nil_of_sequence hread) hbuild, rfl⟩, ?_⟩
      intro nodes' hnodes
      cases hnodes
      obtain ⟨hcontinued, hok⟩ := parse_continued htrim hne hread hbuild
      have hmoved := parse_surrounded (v := []) hlead (by simp) hcontinued (by simp)
      rw [List.append_nil, ← List.append_assoc, hok] at hmoved
      exact hmoved

set_option maxRecDepth 10000 in
/-- A joiner and half a comparison behind a group, and white space that is no gap. -/
theorem parse_trailing_joiner :
    let s : Text := " (é = 1)".toList ++ '\u2003' :: "AND c >".toList
    parse s = .error (.malformed 12 (.trailing "AND c >")) ∧
      ∃ before after, s = before ++ after ∧ Text.byteLength before = 12 ∧
        ((∃ nodes, nodes ≠ [] ∧ parse before = .ok nodes) ∨
          ∃ e, parse before = .error (.invalid e)) := by
  intro s
  have h : parse s = .error (.malformed 12 (.trailing "AND c >")) := by
    subst s
    cbv
  obtain ⟨before, after, hs, hbytes, -, houtcome, -⟩ := parse_trailing h
  exact ⟨h, before, after, hs, hbytes, houtcome⟩

end WhereClause.Shorthand
