import WhereClause.Proofs.Cuts
import WhereClause.Proofs.WordValues

/-!
# The bracket that belongs to an opening one

The alternatives of IN stand in brackets, and where they end is decided before they are read.  The
search looks at one character at a time and keeps a counter of open brackets and whether a quote is
open; it knows nothing of values, and a quote that is written twice inside a text closes that text
and opens another one as far as it is concerned.  All the same it stops where the reader of values
stops: at the bracket in front of which the brackets outside of quotes match.

Main definitions:

* `outside`: the characters of a text that stand outside of quotes;
* `Matched`: the brackets outside of quotes match, and no quote is left open;
* `NeutralTo`: a part of a text does not change what the search looks for.

Main results:

* `bracketBody?_passed`: where the search has got to behind a text;
* `bracketBody?_eq_some`: the text that the search finds;
* `matched_iff_balanced`: matching brackets are those of the grammar;
* `Grammar.LiteralList.neutral`: values with commas between them leave the search where it was;
* `bracketed_matched`: **the bracket that is found is the one that matches**.
-/

set_option autoImplicit false

namespace WhereClause.Shorthand

/-! ### Matching brackets -/

/-- The characters outside of single quotes.  Every quote opens or closes; `quoted` tells whether
one is open at the start. -/
def outside (quoted : Bool) : Text → Text
  | [] => []
  | c :: s =>
    if c = '\'' then outside (!quoted) s
    else if quoted then outside quoted s
    else c :: outside quoted s

/-- Outside of quotes no bracket is closed that was not opened before, and every bracket that is
opened is closed; and every quote that is opened is closed. -/
structure Matched (s : Text) : Prop where
  /-- Nowhere have more brackets been closed than opened. -/
  opened : ∀ t, t <+: s → (outside false t).count ')' ≤ (outside false t).count '('
  /-- As many brackets are closed as opened. -/
  closed : (outside false s).count '(' = (outside false s).count ')'
  /-- Quotes come in pairs. -/
  quotes : Even (s.count '\'')

/-- The counter of brackets is what its name says. -/
theorem bracketDepth_eq (quoted : Bool) (s : Text) :
    bracketDepth quoted s =
      ((outside quoted s).count '(' : Int) - ((outside quoted s).count ')' : Int) := by
  induction s generalizing quoted with
  | nil => rfl
  | cons c s ih =>
      rw [bracketDepth, outside, ih, ih]
      split_ifs with hquote hquoted hopen hclose
      · rfl
      · rfl
      · subst hopen
        rw [List.count_cons_self, List.count_cons_of_ne (by decide)]
        push_cast
        ring
      · subst hclose
        rw [List.count_cons_self, List.count_cons_of_ne (by decide)]
        push_cast
        ring
      · rw [List.count_cons_of_ne hopen, List.count_cons_of_ne hclose]

/-! ### The search -/

variable {depth : Nat} {quoted : Bool} {s t body rest : Text}

/-- Behind a text along which the counter is never negative, the search goes on with the counter at
the brackets that are open there, and inside quotes if the text has an odd number of them. -/
theorem bracketBody?_passed (h : ∀ p, p <+: t → 0 ≤ depth + bracketDepth quoted p) :
    ∃ depth' : Nat, (depth' : Int) = depth + bracketDepth quoted t ∧
      ∀ s, bracketBody? depth quoted (t ++ s) =
        (bracketBody? depth' (quoted ^^ decide (Odd (t.count '\''))) s).map fun (body, rest) =>
          (t ++ body, rest) := by
  induction t generalizing depth quoted with
  | nil =>
      refine ⟨depth, (Int.add_zero _).symm, fun s => ?_⟩
      simp
  | cons c t ih =>
      have hc := h [c] (by simp)
      obtain ⟨rfl, rfl, rfl⟩ | ⟨depth₁, hdepth₁, hstep⟩ := bracketBody?_cases depth quoted c
      · exact absurd hc (by decide)
      · have hnext : ∀ p, p <+: t → 0 ≤ depth₁ + bracketDepth (quoted ^^ (c == '\'')) p := by
          intro p hp
          have hle := h (c :: p) (List.cons_prefix_cons.2 ⟨rfl, hp⟩)
          rw [bracketDepth_cons] at hle
          omega
        obtain ⟨depth', hdepth', hrest⟩ := ih hnext
        refine ⟨depth', ?_, fun s => ?_⟩
        · rw [bracketDepth_cons]
          omega
        · have hparity : ((quoted ^^ (c == '\'')) ^^ decide (Odd (t.count '\''))) =
              (quoted ^^ decide (Odd ((c :: t).count '\''))) := by
            rw [List.count_cons]
            cases c == '\'' <;> simp [Nat.odd_add_one, -Nat.not_odd_iff_even]
          rw [List.cons_append, hstep, hrest, hparity, Option.map_map]
          rfl

/-- Wherever the search has got to, its counter is the number of brackets opened so far less those
closed, of which there are no more. -/
theorem bracketBody?_counter (h : t <+: passedBy 0 false s) :
    ∃ depth, (outside false t).count '(' = (outside false t).count ')' + depth ∧
      ∀ rest, bracketBody? 0 false (t ++ rest) =
        (bracketBody? depth (decide (Odd (t.count '\''))) rest).map fun (body, rest) =>
          (t ++ body, rest) := by
  have hnonneg : ∀ p, p <+: t → 0 ≤ ((0 : Nat) : Int) + bracketDepth false p := fun p hp =>
    bracketDepth_nonneg s (hp.trans h)
  obtain ⟨depth, hdepth, hrest⟩ := bracketBody?_passed hnonneg
  rw [bracketDepth_eq] at hdepth
  refine ⟨depth, by omega, fun rest => ?_⟩
  rw [hrest, Bool.false_xor]

/-- Nothing is found where the search ends. -/
theorem bracketBody?_eq_nil {c : Char} (h : bracketBody? depth quoted (c :: s) = some ([], rest)) :
    depth = 0 ∧ quoted = false := by
  obtain ⟨hdepth, hquoted, -⟩ | ⟨depth', -, hstep⟩ := bracketBody?_cases depth quoted c
  · exact ⟨hdepth, hquoted⟩
  · rw [hstep] at h
    obtain ⟨_, _, hbody⟩ := exists_of_keep h
    cases hbody

theorem Matched.found (h : Matched body) (rest : Text) :
    bracketBody? 0 false (body ++ ')' :: rest) = some (body, rest) := by
  have hnonneg : ∀ p, p <+: body → 0 ≤ ((0 : Nat) : Int) + bracketDepth false p := by
    intro p hp
    have hle := h.opened p hp
    rw [bracketDepth_eq]
    omega
  obtain ⟨depth, hdepth, hrest⟩ := bracketBody?_passed hnonneg
  have hclosed := h.closed
  rw [bracketDepth_eq] at hdepth
  obtain rfl : depth = 0 := by omega
  rw [hrest, Bool.false_xor, decide_eq_false (Nat.not_odd_iff_even.2 h.quotes), bracketBody?_end]
  simp

/-- The search finds the text up to a bracket in front of which the brackets match. -/
theorem bracketBody?_eq_some : bracketBody? 0 false s = some (body, rest) ↔
    s = body ++ ')' :: rest ∧ Matched body := by
  constructor
  · intro h
    obtain ⟨rfl, -⟩ := balanced_of_bracketBody? h
    have hpassed : passedBy 0 false (body ++ ')' :: rest) = body := by rw [passedBy, h]
    have hcounter := fun t (ht : t <+: body) => bracketBody?_counter (hpassed ▸ ht)
    obtain ⟨depth, hdepth, hrest⟩ := hcounter body List.prefix_rfl
    -- behind the body the search is at its end
    rw [hrest] at h
    obtain ⟨⟨body', rest'⟩, hend, heq⟩ := Option.map_eq_some_iff.1 h
    obtain ⟨hbody, rfl⟩ := Prod.mk.inj heq
    obtain rfl : body' = [] := by simpa using hbody
    obtain ⟨rfl, hquoted⟩ := bracketBody?_eq_nil hend
    refine ⟨rfl, fun t ht => ?_, hdepth, Nat.not_odd_iff_even.1 (decide_eq_false_iff_not.1 hquoted)⟩
    obtain ⟨depth, hdepth, -⟩ := hcounter t ht
    omega
  · rintro ⟨rfl, h⟩
    exact h.found rest

/-- The grammar asks for the same brackets, one character after the other. -/
theorem matched_iff_balanced : Matched s ↔ balanced 0 false s = true :=
  ⟨fun h => (balanced_of_bracketBody? (h.found [])).2,
    fun h => (bracketBody?_eq_some.1 (bracketBody?_balanced h [])).2⟩

instance (s : Text) : Decidable (Matched s) :=
  decidable_of_iff _ matched_iff_balanced.symm

theorem bracketed?_eq_some : bracketed? s = some (body, rest) ↔
    s = '(' :: (body ++ ')' :: rest) ∧ Matched body := by
  constructor
  · intro h
    unfold bracketed? at h
    split at h
    · obtain ⟨rfl, hmatched⟩ := bracketBody?_eq_some.1 h
      exact ⟨rfl, hmatched⟩
    · cases h
  · rintro ⟨rfl, h⟩
    exact h.found rest

/-! ### Lists of values -/

/-- What stands in the text in front of the rest does not change what the search looks for. -/
def NeutralTo (s rest : Text) : Prop :=
  ∃ t, s = t ++ rest ∧ Neutral t

theorem NeutralTo.trans {s₁ : Text} (h : NeutralTo s s₁) (h₁ : NeutralTo s₁ rest) :
    NeutralTo s rest := by
  obtain ⟨t, rfl, ht⟩ := h
  obtain ⟨t₁, rfl, ht₁⟩ := h₁
  exact ⟨t ++ t₁, (List.append_assoc ..).symm, ht.append ht₁⟩

namespace Grammar

theorem Gap.neutral (h : Gap s rest) : NeutralTo s rest := by
  obtain ⟨gap, hgap, rfl⟩ := h
  exact ⟨gap, rfl, neutral_of_gaps hgap⟩

theorem Keyword.neutral {word : Text} (h : Keyword word s rest)
    (hword : '\'' ∉ Text.toUpper word ∧ '(' ∉ Text.toUpper word ∧ ')' ∉ Text.toUpper word) :
    NeutralTo s rest := by
  obtain ⟨written, hwritten, rfl, -⟩ := h
  exact ⟨written, rfl, hwritten.neutral hword⟩

theorem Number.neutral {v : Value} (h : Number v s rest) : NeutralTo s rest := by
  cases h with
  | @whole negative digits _ _ hne hdigits _ _ =>
      exact ⟨_, rfl, neutral_of_bare (IsNumber.whole negative hne hdigits).run.2⟩
  | @decimal negative _ _ _ hne hdigits hfraction hfractionDigits _ =>
      have hnumber := IsNumber.fraction negative hne hdigits hfraction hfractionDigits
      exact ⟨_, rfl, neutral_of_bare hnumber.run.2⟩

/-- The brackets, commas and quotes of a value stand in quotes. -/
theorem Literal.neutral {v : Value} (h : Literal v s rest) : NeutralTo s rest := by
  cases h with
  | @quoted content _ _ => exact ⟨_, rfl, neutral_write content⟩
  | null h => exact h.neutral (by decide)
  | true h => exact h.neutral (by decide)
  | false h => exact h.neutral (by decide)
  | number h => exact h.neutral
  | word _ hword _ => exact ⟨_, rfl, neutral_of_bare hword⟩

theorem Items.neutral {vs : List Value} (h : Items vs s rest) : NeutralTo s rest := by
  induction h with
  | nil => exact ⟨[], rfl, neutral_nil⟩
  | @cons _ _ _ s₁ _ _ _ hcomma hgap hv _ ih =>
      have hmark : NeutralTo (',' :: s₁) s₁ := ⟨[','], rfl, neutral_singleton (by decide)⟩
      exact (((hcomma.neutral.trans hmark).trans hgap.neutral).trans hv.neutral).trans ih

/-- A list of values leaves the search where it was. -/
theorem LiteralList.neutral {values : List Value} (h : LiteralList values s) : Neutral s := by
  obtain ⟨hgap, hv, hvs, hend⟩ := h
  obtain ⟨t, rfl, ht⟩ := ((hgap.neutral.trans hv.neutral).trans hvs.neutral).trans hend.neutral
  rwa [List.append_nil]

end Grammar

/-! ### Reading brackets -/

/-- A text in brackets is read where brackets match outside of quotes and nowhere else, and there is
only one bracket to end it.  On the way to it the counter of open brackets is what was opened less
what was closed.  And a list of values is read to its end, whatever its texts hold. -/
theorem bracketed_matched :
    (∀ input body rest, Reader.ofOption .mark bracketed? input = .done body rest ↔
      input = '(' :: (body ++ ')' :: rest) ∧ Matched body) ∧
    (∀ input, Reader.ofOption .mark bracketed? input = .unmatched .mark input ↔
      ¬∃ body rest, input = '(' :: (body ++ ')' :: rest) ∧ Matched body) ∧
    (∀ body rest body' rest', Matched body → Matched body' →
      body ++ ')' :: rest = body' ++ ')' :: rest' → body = body' ∧ rest = rest') ∧
    (∀ s passed, passed <+: passedBy 0 false s →
      ∃ depth, (outside false passed).count '(' = (outside false passed).count ')' + depth ∧
        ∀ rest, bracketBody? 0 false (passed ++ rest) =
          (bracketBody? depth (decide (Odd (passed.count '\''))) rest).map fun (body, rest) =>
            (passed ++ body, rest)) ∧
    (∀ values body rest, Grammar.LiteralList values body →
      Reader.ofOption .mark bracketed? ('(' :: (body ++ ')' :: rest)) = .done body rest) ∧
    ∀ v vs body rest, (∀ w ∈ v :: vs, w.isLiteral = true) →
      Spells (v.written :: Value.writtenRest vs) body →
      Reader.ofOption .mark bracketed? ('(' :: (body ++ ')' :: rest)) = .done body rest ∧
        valueList body = .done (v :: vs) [] := by
  have hlist : ∀ values body rest, Grammar.LiteralList values body →
      Reader.ofOption .mark bracketed? ('(' :: (body ++ ')' :: rest)) = .done body rest :=
    fun values body rest h => Reader.ofOption_some (bracketed?_neutral h.neutral rest)
  refine ⟨fun input body rest => ?_, fun input => ?_, fun body rest body' rest' h h' heq => ?_,
    fun s passed h => bracketBody?_counter h, hlist, fun v vs body rest hvs hbody => ?_⟩
  · rw [Reader.ofOption_eq_done, bracketed?_eq_some]
  · simp only [Reader.ofOption_eq_unmatched, bracketed?_eq_some]
  · have hfound := h.found rest
    rw [heq, h'.found rest'] at hfound
    obtain ⟨hbody, hrest⟩ := Prod.mk.inj (Option.some.inj hfound)
    exact ⟨hbody.symm, hrest.symm⟩
  · have hread := valueList_written hvs hbody
    exact ⟨hlist _ body rest (literalList_of_valueList hread), hread⟩

/-- Brackets in quotes beside brackets outside of them, one of which is still open in the middle; no
closing bracket; and two texts in which there is all that could mislead the search. -/
theorem bracketed_matched_quotes :
    let body : Text := "x = ')' OR (y = 'it''s (')"
    let list : Text := "'a), (' , 'it''s (('"
    Reader.ofOption .mark bracketed? ('(' :: (body ++ [')', ')'])) = .done body [')'] ∧
      Reader.ofOption .mark bracketed? ['(', 'x'] = .unmatched .mark ['(', 'x'] ∧
      (∀ inner rest, Matched inner → inner ++ ')' :: rest = body ++ [')', ')'] → inner = body) ∧
      (∃ depth, (outside false (body.take 12)).count '(' =
        (outside false (body.take 12)).count ')' + depth) ∧
      Reader.ofOption .mark bracketed? ('(' :: (list ++ [')', ')'])) = .done list [')'] ∧
      valueList "'a), (', null" = .done [.string "a), (", .null] [] := by
  intro body list
  obtain ⟨hfound, hnone, hunique, hcounter, hlist, hread⟩ := bracketed_matched
  have hmatched : Matched body := by decide
  refine ⟨(hfound _ _ _).2 ⟨rfl, hmatched⟩, (hnone _).2 ?_, ?_, ?_, ?_, ?_⟩
  · rintro ⟨inner, rest, h, -⟩
    have hmem : ')' ∈ ['(', 'x'] := by simp [h]
    exact absurd hmem (by decide)
  · intro inner rest hinner heq
    exact (hunique inner rest body [')'] hinner hmatched heq).1
  · obtain ⟨depth, hdepth, -⟩ := hcounter (body ++ [')']) (body.take 12) (by decide)
    exact ⟨depth, hdepth⟩
  · have hfirst : Grammar.Literal (.string "a), (") list " , 'it''s (('" :=
      @Grammar.Literal.quoted "a), (" " , 'it''s (('" (by decide)
    have hsecond : Grammar.Literal (.string "it's ((") "'it''s (('" [] :=
      @Grammar.Literal.quoted "it's ((" [] (by decide)
    have hspace : Grammar.Gap " , 'it''s (('" ", 'it''s (('" := ⟨[' '], by simp [isGap], rfl⟩
    have hbehind : Grammar.Gap " 'it''s (('" "'it''s (('" := ⟨[' '], by simp [isGap], rfl⟩
    have hnothing : ∀ s, Grammar.Gap s s := fun s => ⟨[], by simp, rfl⟩
    exact hlist _ list [')'] (.mk (hnothing list) hfirst (.cons hspace hbehind hsecond .nil)
      (hnothing []))
  · have hnull : Cased "NULL" "null" := by decide
    have hspells : Spells ((Value.string "a), (").written :: Value.writtenRest [.null])
        "'a), (', null" :=
      ⟨"'a), ('", ", null", rfl, rfl, [','], " null", rfl, rfl, [' '], "null", rfl,
        ⟨by simp, by simp [isGap]⟩, "null", [], rfl, hnull, rfl⟩
    exact (hread _ _ _ [] (by simp [Value.isLiteral]) hspells).2

end WhereClause.Shorthand
