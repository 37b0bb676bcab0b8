import WhereClause.Proofs.ReadValue

/-!
# Written comparisons are read

The five forms of a comparison are tried one after the other, and the keyword or the symbol of a
written operator rules out all forms before its own.  The brackets of IN are matched before their
contents are read: a bracket inside a text in quotes does not count, and outside of them a written
list has none.

Main definitions:

* `Neutral`: a text that opens and closes as many brackets and quotes.

Main results:

* `bracketBody?_balanced`: a balanced text ends at the bracket behind it;
* `valueList_written`: a written list is read back;
* `comparison_written`: **a written operator with its operand is read back**.
-/

set_option autoImplicit false

namespace WhereClause.Shorthand

/-! ### Brackets -/

section Steps

variable (depth : Nat) (s : Text)

theorem bracketBody?_quote (quoted : Bool) :
    bracketBody? depth quoted ('\'' :: s) =
      (bracketBody? depth (!quoted) s).map fun (body, rest) => ('\'' :: body, rest) := by
  rw [bracketBody?.eq_def]
  rfl

theorem bracketBody?_quoted {c : Char} (h : c ≠ '\'') :
    bracketBody? depth true (c :: s) =
      (bracketBody? depth true s).map fun (body, rest) => (c :: body, rest) := by
  rw [bracketBody?.eq_def]
  dsimp only
  rw [if_neg h, if_pos rfl]

theorem bracketBody?_open :
    bracketBody? depth false ('(' :: s) =
      (bracketBody? (depth + 1) false s).map fun (body, rest) => ('(' :: body, rest) := by
  rw [bracketBody?.eq_def]
  rfl

theorem bracketBody?_close :
    bracketBody? (depth + 1) false (')' :: s) =
      (bracketBody? depth false s).map fun (body, rest) => (')' :: body, rest) := by
  rw [bracketBody?.eq_def]
  rfl

theorem bracketBody?_end : bracketBody? 0 false (')' :: s) = some ([], s) := by
  rw [bracketBody?.eq_def]
  rfl

theorem bracketBody?_plain {c : Char} (hquote : c ≠ '\'') (hopen : c ≠ '(') (hclose : c ≠ ')') :
    bracketBody? depth false (c :: s) =
      (bracketBody? depth false s).map fun (body, rest) => (c :: body, rest) := by
  rw [bracketBody?.eq_def]
  dsimp only
  rw [if_neg hquote, if_neg (by decide), if_neg hopen, if_neg hclose]

end Steps

/-- Brackets are matched behind the text as they are in front of it. -/
def Neutral (s : Text) : Prop :=
  ∀ depth rest, bracketBody? depth false (s ++ rest) =
    (bracketBody? depth false rest).map fun (body, rest) => (s ++ body, rest)

theorem neutral_nil : Neutral [] := by
  intro depth rest
  cases h : bracketBody? depth false rest <;> simp [h]

theorem Neutral.append {s t : Text} (hs : Neutral s) (ht : Neutral t) : Neutral (s ++ t) := by
  intro depth rest
  rw [List.append_assoc, hs, ht, Option.map_map]
  congr 1
  funext ⟨body, rest⟩
  simp

/-- Text without brackets and quotes is neutral. -/
theorem neutral_of_forall {s : Text} (h : ∀ c ∈ s, c ≠ '\'' ∧ c ≠ '(' ∧ c ≠ ')') : Neutral s := by
  induction s with
  | nil => exact neutral_nil
  | cons c s ih =>
      rw [List.forall_mem_cons] at h
      obtain ⟨⟨hquote, hopen, hclose⟩, hs⟩ := h
      intro depth rest
      rw [List.cons_append, bracketBody?_plain depth _ hquote hopen hclose, ih hs, Option.map_map]
      rfl

theorem neutral_singleton {c : Char} (h : c ≠ '\'' ∧ c ≠ '(' ∧ c ≠ ')') : Neutral [c] :=
  neutral_of_forall fun _ hd => List.mem_singleton.1 hd ▸ h

/-- Inside quotes nothing but a quote counts, and a quote that is written twice counts twice. -/
theorem bracketBody?_double (s : Text) (depth : Nat) (rest : Text) :
    bracketBody? depth true (Quoted.double '\'' s ++ '\'' :: rest) =
      (bracketBody? depth false rest).map fun (body, rest) =>
        (Quoted.double '\'' s ++ '\'' :: body, rest) := by
  induction s with
  | nil => exact bracketBody?_quote depth rest true
  | cons c s ih =>
      by_cases hc : c = '\''
      · subst hc
        rw [Quoted.double_cons_self, List.cons_append, List.cons_append, bracketBody?_quote,
          Bool.not_true, bracketBody?_quote, Bool.not_false, ih, Option.map_map, Option.map_map]
        rfl
      · rw [Quoted.double_cons_of_ne hc, List.cons_append, bracketBody?_quoted depth _ hc, ih,
          Option.map_map]
        rfl

/-- A text in quotes is neutral. -/
theorem neutral_write (s : Text) : Neutral (Quoted.write '\'' s) := by
  intro depth rest
  rw [Quoted.write, List.cons_append, List.append_assoc, bracketBody?_quote, Bool.not_false]
  rw [List.singleton_append, bracketBody?_double, Option.map_map]
  congr 1
  funext pair
  cases pair
  simp

/-- A balanced text ends at the bracket behind it. -/
theorem bracketBody?_balanced {depth : Nat} {quoted : Bool} {s : Text}
    (h : balanced depth quoted s = true) (rest : Text) :
    bracketBody? depth quoted (s ++ ')' :: rest) = some (s, rest) := by
  induction s generalizing depth quoted with
  | nil =>
      obtain ⟨rfl, rfl⟩ : depth = 0 ∧ quoted = false := by simpa [balanced] using h
      exact bracketBody?_end rest
  | cons c s ih =>
      rw [balanced.eq_def] at h
      dsimp only at h
      by_cases hquote : c = '\''
      · subst hquote
        rw [if_pos rfl] at h
        rw [List.cons_append, bracketBody?_quote, ih h]
        rfl
      · rw [if_neg hquote] at h
        cases quoted with
        | true =>
            rw [if_pos rfl] at h
            rw [List.cons_append, bracketBody?_quoted depth _ hquote, ih h]
            rfl
        | false =>
            rw [if_neg (by decide)] at h
            by_cases hopen : c = '('
            · subst hopen
              rw [if_pos rfl] at h
              rw [List.cons_append, bracketBody?_open, ih h]
              rfl
            · rw [if_neg hopen] at h
              by_cases hclose : c = ')'
              · subst hclose
                rw [if_pos rfl] at h
                cases depth with
                | zero => cases h
                | succ depth =>
                    rw [List.cons_append, bracketBody?_close, ih h]
                    rfl
              · rw [if_neg hclose] at h
                rw [List.cons_append, bracketBody?_plain depth _ hquote hopen hclose, ih h]
                rfl

theorem bracketed?_neutral {s : Text} (h : Neutral s) (rest : Text) :
    bracketed? ('(' :: (s ++ ')' :: rest)) = some (s, rest) := by
  rw [bracketed?, h, bracketBody?_end]
  simp

theorem bracketed?_balanced {s : Text} (h : balanced 0 false s = true) (rest : Text) :
    bracketed? ('(' :: (s ++ ')' :: rest)) = some (s, rest) :=
  bracketBody?_balanced h rest

/-! ### Lists -/

theorem Cased.not_mem {word s : Text} (h : Cased word s) {c : Char} (hupper : c.toUpper = c)
    (hc : c ∉ Text.toUpper word) : c ∉ s := by
  intro hmem
  have hword : c.toUpper ∈ Text.toUpper s := List.mem_map_of_mem hmem
  rw [h, hupper] at hword
  exact hc hword

theorem Cased.neutral {word s : Text} (h : Cased word s)
    (hword : '\'' ∉ Text.toUpper word ∧ '(' ∉ Text.toUpper word ∧ ')' ∉ Text.toUpper word) :
    Neutral s := by
  obtain ⟨hquote, hopen, hclose⟩ := hword
  refine neutral_of_forall fun c hc => ⟨?_, ?_, ?_⟩
  · rintro rfl
    exact h.not_mem rfl hquote hc
  · rintro rfl
    exact h.not_mem rfl hopen hc
  · rintro rfl
    exact h.not_mem rfl hclose hc

theorem neutral_of_gaps {gap : Text} (h : ∀ c ∈ gap, isGap c = true) : Neutral gap := by
  refine neutral_of_forall fun c hc => ?_
  rcases isGap_cases (h c hc) with rfl | rfl | rfl | rfl <;> decide

theorem neutral_ofInt (n : Int) : Neutral (Numeral.ofInt n) := by
  have hmarks : ∀ n < 10, Char.ofNat (48 + n) ≠ '\'' ∧ Char.ofNat (48 + n) ≠ '(' ∧
      Char.ofNat (48 + n) ≠ ')' := by decide
  have hdigits : Neutral (Numeral.ofNat n.natAbs) := by
    refine neutral_of_forall fun c hc => ?_
    obtain ⟨n, hn, rfl⟩ := exists_digit (Numeral.isDigit_of_mem_ofNat hc)
    exact hmarks n hn
  unfold Numeral.ofInt
  split
  · exact (@neutral_singleton '-' (by decide)).append hdigits
  · exact hdigits

theorem neutral_written {v : Value} (hv : v.isLiteral = true) {s : Text}
    (hs : v.written.Spells s) : Neutral s := by
  cases v with
  | null =>
      have hs : Cased "NULL" s := hs
      exact hs.neutral (by decide)
  | bool b =>
      cases b with
      | true =>
          have hs : Cased "TRUE" s := Value.spells_bool.1 hs
          exact hs.neutral (by decide)
      | false =>
          have hs : Cased "FALSE" s := Value.spells_bool.1 hs
          exact hs.neutral (by decide)
  | int n =>
      have hs : s = Numeral.ofInt n.toInt := hs
      rw [hs]
      exact neutral_ofInt n.toInt
  | string text =>
      have hs : s = Quoted.write '\'' text := hs
      rw [hs]
      exact neutral_write text
  | _ => cases hv

theorem spells_writtenRest_cons {v : Value} {vs : List Value} {s : Text} :
    Spells (Value.writtenRest (v :: vs)) s ↔ ∃ gap t rest, s = ',' :: (gap ++ (t ++ rest)) ∧
      IsGap gap ∧ v.written.Spells t ∧ Spells (Value.writtenRest vs) rest := by
  rw [Value.writtenRest, List.flatMap_cons]
  constructor
  · rintro ⟨comma, _, rfl, rfl, gap, _, rfl, hgap, t, rest, rfl, hv, hrest⟩
    exact ⟨gap, t, rest, rfl, hgap, hv, hrest⟩
  · rintro ⟨gap, t, rest, rfl, hgap, hv, hrest⟩
    exact ⟨[','], _, rfl, rfl, gap, _, rfl, hgap, t, rest, rfl, hv, hrest⟩

theorem stops_writtenRest {vs : List Value} {s : Text} (hs : Spells (Value.writtenRest vs) s) :
    Stops isValueChar s := by
  cases vs with
  | nil =>
      obtain rfl : s = [] := hs
      exact stops_nil
  | cons v vs =>
      obtain ⟨gap, t, rest, rfl, -⟩ := spells_writtenRest_cons.1 hs
      exact stops_cons.2 (by decide)

theorem stops_written {v : Value} (hv : v.isLiteral = true) {s : Text} (hs : v.written.Spells s)
    (rest : Text) : Stops isGap (s ++ rest) := by
  obtain ⟨c, t, rfl, hc⟩ := written_head hv hs
  exact stops_cons.2 (isGap_eq_false (opensValue_spec hc).1)

theorem neutral_writtenRest {vs : List Value} (hvs : ∀ v ∈ vs, v.isLiteral = true) {s : Text}
    (hs : Spells (Value.writtenRest vs) s) : Neutral s := by
  induction vs generalizing s with
  | nil =>
      obtain rfl : s = [] := hs
      exact neutral_nil
  | cons v vs ih =>
      rw [List.forall_mem_cons] at hvs
      obtain ⟨gap, t, rest, rfl, hgap, hv, hrest⟩ := spells_writtenRest_cons.1 hs
      have hcomma : Neutral [','] := neutral_singleton (by decide)
      have hvalue := (neutral_written hvs.1 hv).append (ih hvs.2 hrest)
      exact hcomma.append ((neutral_of_gaps hgap.2).append hvalue)

/-- The values of a list behind the first are read back. -/
theorem many_writtenRest {vs : List Value} (hvs : ∀ v ∈ vs, v.isLiteral = true) {s : Text}
    (hs : Spells (Value.writtenRest vs) s) :
    Reader.many (do blanks; mark ','; blanks; value) s = .done vs [] := by
  induction vs generalizing s with
  | nil =>
      obtain rfl : s = [] := hs
      exact Reader.many_unmatched rfl
  | cons v vs ih =>
      rw [List.forall_mem_cons] at hvs
      obtain ⟨gap, t, rest, rfl, hgap, hv, hrest⟩ := spells_writtenRest_cons.1 hs
      refine Reader.many_done ?_ ?_ (ih hvs.2 hrest)
      · rw [Reader.bind_done (blanks_of_stops (stops_cons.2 (by decide))),
          Reader.bind_done (mark_cons ',' _),
          Reader.bind_done (blanks_gap hgap (stops_written hvs.1 hv rest))]
        exact value_written hvs.1 hv (stops_writtenRest hrest)
      · rw [List.length_cons, List.length_append, List.length_append]
        omega

/-- A written list is read back. -/
theorem valueList_written {v : Value} {vs : List Value}
    (hvs : ∀ w ∈ v :: vs, w.isLiteral = true) {s : Text}
    (hs : Spells (v.written :: Value.writtenRest vs) s) :
    valueList s = .done (v :: vs) [] := by
  rw [List.forall_mem_cons] at hvs
  obtain ⟨t, rest, rfl, hv, hrest⟩ := hs
  rw [valueList, Reader.bind_done (blanks_of_stops (stops_written hvs.1 hv rest)),
    Reader.bind_done (value_written hvs.1 hv (stops_writtenRest hrest)),
    Reader.bind_done (many_writtenRest hvs.2 hrest)]
  rfl

/-- A written list does not begin as a query does. -/
theorem isSubquery_written {v : Value} (hv : v.isLiteral = true) {s : Text}
    (hs : v.written.Spells s) (rest : Text) : isSubquery (s ++ rest) = false := by
  obtain ⟨c, t, rfl, hc⟩ := written_head hv hs
  obtain ⟨hblank, -, -, -, hletter⟩ := opensValue_spec hc
  have htrim : Text.trimStart (c :: t ++ rest) = c :: (t ++ rest) :=
    dropWhile_of_stops (stops_cons.2 hblank)
  have hword : (Text.toLower ((c :: (t ++ rest)).take 6) == "select".toList) = false := by
    rw [beq_eq_false_iff_ne]
    intro hselect
    exact hletter (List.cons.inj hselect).1
  unfold isSubquery
  dsimp only
  rw [htrim, hword, Bool.false_and]

/-! ### Comparisons -/

section Forms

variable {rest : Text}

theorem nullCheck_written {op : Operator} (hop : op.isNullCheck = true) {s : Text}
    (hs : Spells op.written s) (h : Stops isValueChar rest) :
    nullCheck (s ++ rest) = .done (op, .none) rest := by
  cases op with
  | isNull =>
      obtain ⟨is, _, rfl, his, gap, _, rfl, hgap, null, _, rfl, hnull, rfl⟩ := hs
      have his : Cased "IS" is := his
      have hnull : Cased "NULL" null := hnull
      rw [List.append_nil, List.append_assoc, List.append_assoc, nullCheck,
        Reader.bind_done (keyword_cased his (stops_word (stops_gap hgap _))),
        Reader.bind_done (blanks₁_gap hgap (hnull.stops_gap (by decide) rest)),
        Reader.bind_done (Reader.optional_unmatched
          (Reader.bind_unmatched (keyword_other hnull (by decide)))),
        Reader.bind_done (keyword_cased hnull (stops_word h))]
      rfl
  | isNotNull =>
      obtain ⟨is, _, rfl, his, gap, _, rfl, hgap, not, _, rfl, hnot, gap₂, _, rfl, hgap₂, null, _,
        rfl, hnull, rfl⟩ := hs
      have his : Cased "IS" is := his
      have hnot : Cased "NOT" not := hnot
      have hnull : Cased "NULL" null := hnull
      have hnegation : Reader.optional (do keyword "NOT"; blanks₁)
          (not ++ (gap₂ ++ (null ++ rest))) =
          .done (some ()) (null ++ rest) := by
        refine Reader.optional_done ?_
        rw [Reader.bind_done (keyword_cased hnot (stops_word (stops_gap hgap₂ _)))]
        exact blanks₁_gap hgap₂ (hnull.stops_gap (by decide) rest)
      simp only [List.append_nil, List.append_assoc]
      rw [nullCheck, Reader.bind_done (keyword_cased his (stops_word (stops_gap hgap _))),
        Reader.bind_done (blanks₁_gap hgap (hnot.stops_gap (by decide) _)),
        Reader.bind_done hnegation, Reader.bind_done (keyword_cased hnull (stops_word h))]
      rfl
  | _ => cases hop

theorem between_written {low high : Value} (hlow : low.isLiteral = true)
    (hhigh : high.isLiteral = true) {s : Text}
    (hs : Spells (Operator.between.written ++ (Operand.range low high).written) s)
    (h : Stops isValueChar rest) :
    between (s ++ rest) = .done (.between, .range low high) rest := by
  obtain ⟨word, _, rfl, hword, gap, _, rfl, hgap, lowText, _, rfl, hlowText, gap₂, _, rfl, hgap₂,
    conj, _, rfl, hconj, gap₃, _, rfl, hgap₃, highText, _, rfl, hhighText, rfl⟩ := hs
  have hword : Cased "BETWEEN" word := hword
  have hconj : Cased "AND" conj := hconj
  simp only [List.append_nil, List.append_assoc]
  rw [between, Reader.bind_done (keyword_cased hword (stops_word (stops_gap hgap _))),
    Reader.bind_done (blanks_gap hgap (stops_written hlow hlowText _)),
    Reader.bind_done (value_written hlow hlowText (stops_gap hgap₂ _)),
    Reader.bind_done (blanks₁_gap hgap₂ (hconj.stops_gap (by decide) _)),
    Reader.bind_done (keyword_cased hconj (stops_word (stops_gap hgap₃ _))),
    Reader.bind_done (blanks_gap hgap₃ (stops_written hhigh hhighText _)),
    Reader.bind_done (value_written hhigh hhighText h)]
  rfl

/-- The brackets of IN are read with their contents. -/
theorem membership_brackets {word gap body : Text} {operand : Operand} (hword : Cased "IN" word)
    (hgap : IsGap gap) (hbody : bracketed? ('(' :: (body ++ ')' :: rest)) = some (body, rest))
    (hoperand : alternatives body rest = .done operand rest) :
    membership (word ++ (gap ++ '(' :: (body ++ ')' :: rest))) = .done (.isIn, operand) rest := by
  rw [membership, Reader.bind_done (keyword_cased hword (stops_word (stops_gap hgap _))),
    Reader.bind_done (blanks_gap hgap (stops_cons.2 (by decide))),
    Reader.bind_done (Reader.ofOption_some hbody), Reader.bind_done hoperand]
  rfl

theorem membership_list {v : Value} {vs : List Value} (hvs : ∀ w ∈ v :: vs, w.isLiteral = true)
    {s : Text} (hs : Spells (Operator.isIn.written ++ (Operand.list (v :: vs)).written) s) :
    membership (s ++ rest) = .done (.isIn, .list (v :: vs)) rest := by
  obtain ⟨word, _, rfl, hword, gap, _, rfl, hgap, _, _, rfl, rfl, first, _, rfl, hfirst,
    hrest⟩ := hs
  obtain ⟨others, _, rfl, hothers, hclose⟩ := spells_append.1 hrest
  obtain rfl := spells_singleton.1 hclose
  have hv := (List.forall_mem_cons.1 hvs).1
  have hneutral : Neutral (first ++ others) :=
    (neutral_written hv hfirst).append (neutral_writtenRest (List.forall_mem_cons.1 hvs).2 hothers)
  have hoperand : alternatives (first ++ others) rest = .done (.list (v :: vs)) rest := by
    have hlist := valueList_written hvs ⟨first, others, rfl, hfirst, hothers⟩
    rw [alternatives, if_neg (by rw [isSubquery_written hv hfirst]; decide), hlist]
  have hread := membership_brackets hword hgap (bracketed?_neutral hneutral rest) hoperand
  simpa using hread

theorem membership_subquery {query : Text} (hquery : IsQuery query) {s : Text}
    (hs : Spells (Operator.isIn.written ++ (Operand.subquery query).written) s) :
    membership (s ++ rest) = .done (.isIn, .subquery query) rest := by
  obtain ⟨word, _, rfl, hword, gap, _, rfl, hgap, _, _, rfl, rfl, q, _, rfl, hq, _, _, rfl, rfl,
    rfl⟩ := hs
  obtain rfl : q = query := hq
  have hoperand : alternatives q rest = .done (.subquery q) rest := by
    rw [alternatives, if_pos hquery.isSubquery, hquery.trimmed]
  have hread := membership_brackets hword hgap (bracketed?_balanced hquery.balanced rest) hoperand
  simpa using hread

theorem pattern_written {v : Value} (hv : v.isLiteral = true) {s : Text}
    (hs : Spells (Operator.like.written ++ (Operand.scalar v).written) s)
    (h : Stops isValueChar rest) : pattern (s ++ rest) = .done (.like, .scalar v) rest := by
  obtain ⟨word, _, rfl, hword, gap, _, rfl, hgap, t, _, rfl, ht, rfl⟩ := hs
  have hword : Cased "LIKE" word := hword
  simp only [List.append_nil, List.append_assoc]
  rw [pattern, Reader.bind_done (keyword_cased hword (stops_word (stops_gap hgap _))),
    Reader.bind_done (blanks_gap hgap (stops_written hv ht _)),
    Reader.bind_done (value_written hv ht h)]
  rfl

/-- The symbol of a plain comparison is not the beginning of a longer one. -/
theorem symbol?_append {op : Operator} (hop : op ∈ Operator.plain) {c : Char} (s : Text)
    (hequal : c ≠ '=') (hgreater : c ≠ '>') :
    symbol? (op.symbol ++ c :: s) = some (op, c :: s) := by
  have hlonger : ∀ d, c ≠ d → Text.dropStart? [d] (c :: s) = none := fun d hd => by
    rw [Text.dropStart?, if_neg hd]
  rcases Operator.mem_plain.1 hop with rfl | rfl | rfl | rfl | rfl | rfl
  · rfl
  · rfl
  · -- the symbols of two characters are tried first
    have hge : Text.dropStart? ">=" ('>' :: c :: s) = none := hlonger '=' hequal
    change symbols.findSome? (fun p => (Text.dropStart? p.1 ('>' :: c :: s)).map (p.2, ·)) = _
    unfold symbols
    rw [List.findSome?_cons_of_isNone (by rw [hge]; rfl)]
    rfl
  · have hle : Text.dropStart? "<=" ('<' :: c :: s) = none := hlonger '=' hequal
    have hne : Text.dropStart? "<>" ('<' :: c :: s) = none := hlonger '>' hgreater
    change symbols.findSome? (fun p => (Text.dropStart? p.1 ('<' :: c :: s)).map (p.2, ·)) = _
    unfold symbols
    rw [List.findSome?_cons_of_isNone (by rfl), List.findSome?_cons_of_isNone (by rw [hle]; rfl),
      List.findSome?_cons_of_isNone (by rfl), List.findSome?_cons_of_isNone (by rw [hne]; rfl)]
    rfl
  · rfl
  · rfl

theorem written_plain {op : Operator} (hop : op ∈ Operator.plain) :
    op.written = [.verbatim op.symbol] := by
  rcases Operator.mem_plain.1 hop with rfl | rfl | rfl | rfl | rfl | rfl <;> rfl

theorem plainComparison_written {op : Operator} (hop : op ∈ Operator.plain) {v : Value}
    (hv : v.isLiteral = true) {s : Text}
    (hs : Spells (op.written ++ (Operand.scalar v).written) s) (h : Stops isValueChar rest) :
    plainComparison (s ++ rest) = .done (op, .scalar v) rest := by
  rw [written_plain hop] at hs
  obtain ⟨_, _, rfl, rfl, gap, _, rfl, hgap, t, _, rfl, ht, rfl⟩ := hs
  obtain ⟨c, g, rfl⟩ := List.exists_cons_of_ne_nil hgap.1
  have hc : c ≠ '=' ∧ c ≠ '>' := by
    rcases isGap_cases (hgap.2 c (by simp)) with rfl | rfl | rfl | rfl <;> decide
  simp only [List.append_nil, List.append_assoc]
  rw [plainComparison, List.cons_append,
    Reader.bind_done (Reader.ofOption_some (symbol?_append hop _ hc.1 hc.2)), ← List.cons_append,
    Reader.bind_done (blanks_gap hgap (stops_written hv ht _)),
    Reader.bind_done (value_written hv ht h)]
  rfl

end Forms

/-! ### Any form -/

section Other

variable {s rest : Text} {e : Expected}

theorem nullCheck_other (h : keyword "IS" s = .unmatched e rest) :
    nullCheck s = .unmatched e rest :=
  Reader.bind_unmatched h

theorem between_other (h : keyword "BETWEEN" s = .unmatched e rest) :
    between s = .unmatched e rest :=
  Reader.bind_unmatched h

theorem membership_other (h : keyword "IN" s = .unmatched e rest) :
    membership s = .unmatched e rest :=
  Reader.bind_unmatched h

theorem pattern_other (h : keyword "LIKE" s = .unmatched e rest) :
    pattern s = .unmatched e rest :=
  Reader.bind_unmatched h

/-- The keyword of an operator rules out another one. -/
theorem keyword_skip {word other : Text} {ps : List Piece} (hs : Spells (.word word :: ps) s)
    (hne : ¬Agree word other) (rest : Text) :
    keyword other (s ++ rest) = .unmatched .symbol (s ++ rest) := by
  obtain ⟨first, tail, rfl, hword, -⟩ := hs
  rw [List.append_assoc]
  exact keyword_other hword hne

/-- The symbol of a plain comparison rules out every keyword. -/
theorem keyword_skip_symbol {op : Operator} (hop : op ∈ Operator.plain) (word : Text) {k : Char}
    (hk : word.head? = some k) (hletter : foldCase k ∉ "=!<>".toList) (s : Text) :
    keyword word (op.symbol ++ s) = .unmatched .symbol (op.symbol ++ s) := by
  obtain ⟨c, t, hsymbol, hc⟩ : ∃ c t, op.symbol = c :: t ∧ foldCase c ∈ "=!<>".toList := by
    rcases Operator.mem_plain.1 hop with rfl | rfl | rfl | rfl | rfl | rfl <;>
      exact ⟨_, _, rfl, by decide⟩
  rw [hsymbol, List.cons_append]
  refine keyword_head word hk fun hfold => hletter ?_
  rwa [← hfold]

end Other

/-- A written operator with its operand is read back. -/
theorem comparison_written {op : Operator} {operand : Operand} (hshape : Operand.Shape op operand)
    (hvalues : ∀ v ∈ operand.values, v.isLiteral = true)
    (hquery : ∀ query, operand = .subquery query → IsQuery query) {s rest : Text}
    (hs : Spells (op.written ++ operand.written) s) (h : Stops isValueChar rest) :
    comparison (s ++ rest) = .done (op, operand) rest := by
  cases hshape with
  | isNull =>
      exact Reader.orElse_done (nullCheck_written rfl (by simpa [Operand.written] using hs) h)
  | isNotNull =>
      exact Reader.orElse_done (nullCheck_written rfl (by simpa [Operand.written] using hs) h)
  | between low high =>
      have hlow := hvalues low (by simp [Operand.values])
      have hhigh := hvalues high (by simp [Operand.values])
      rw [comparison, Reader.orElse_unmatched (nullCheck_other (keyword_skip hs (by decide) rest))]
      exact Reader.orElse_done (between_written hlow hhigh hs h)
  | list v vs =>
      rw [comparison, Reader.orElse_unmatched (nullCheck_other (keyword_skip hs (by decide) rest)),
        Reader.orElse_unmatched (between_other (keyword_skip hs (by decide) rest))]
      exact Reader.orElse_done (membership_list hvalues hs)
  | @subquery query _ =>
      rw [comparison, Reader.orElse_unmatched (nullCheck_other (keyword_skip hs (by decide) rest)),
        Reader.orElse_unmatched (between_other (keyword_skip hs (by decide) rest))]
      exact Reader.orElse_done (membership_subquery (hquery query rfl) hs)
  | @like v _ =>
      have hv := hvalues v (by simp [Operand.values])
      rw [comparison, Reader.orElse_unmatched (nullCheck_other (keyword_skip hs (by decide) rest)),
        Reader.orElse_unmatched (between_other (keyword_skip hs (by decide) rest)),
        Reader.orElse_unmatched (membership_other (keyword_skip hs (by decide) rest))]
      exact Reader.orElse_done (pattern_written hv hs h)
  | plain v hop =>
      have hv := hvalues v (by simp [Operand.values])
      have hread := plainComparison_written hop hv hs h
      -- all four keywords are ruled out by the first character of the symbol
      obtain ⟨t, rfl⟩ : ∃ t, s = op.symbol ++ t := by
        rw [written_plain hop] at hs
        obtain ⟨_, t, rfl, rfl, -⟩ := hs
        exact ⟨t, rfl⟩
      rw [List.append_assoc] at hread ⊢
      rw [comparison,
        Reader.orElse_unmatched (nullCheck_other (keyword_skip_symbol hop _ rfl (by decide) _)),
        Reader.orElse_unmatched (between_other (keyword_skip_symbol hop _ rfl (by decide) _)),
        Reader.orElse_unmatched (membership_other (keyword_skip_symbol hop _ rfl (by decide) _)),
        Reader.orElse_unmatched (pattern_other (keyword_skip_symbol hop _ rfl (by decide) _))]
      exact hread

end WhereClause.Shorthand
