import WhereClause.Proofs.CalendarText
import WhereClause.Proofs.Construction
import WhereClause.Proofs.QuotedNames
import WhereClause.Proofs.Scan
import WhereClause.Render

/-!
# Names and values stay in their quotes

Whatever a filter holds, the SQL that it renders to is read by the dialect as it was meant: the
quoted tokens are the names and the texts of the tree, one by one and in order, and nothing that
a name or a value holds comes to stand outside of quotes.

Main definitions:

* `Node.quotedTokens`: the quoted tokens that a tree calls for;
* `Escaper.Obeys`: the escaper writes what the lexical rules of a dialect read back.

Main results:

* `Dialect.obeys`: the escaper of every dialect obeys the rules of the dialect;
* `scan_joinAll`: **the quoted tokens of a rendered filter are those of its tree**.
-/

set_option autoImplicit false

namespace WhereClause

/-! ### What a tree holds -/

def Column.quotedTokens (column : Column) : List Token :=
  (Text.pieces '.' column.name).map .name

/-- The quoted tokens of a value: the names of the column that it refers to, or its text. -/
def Value.quotedTokens (v : Value) : List Token :=
  match v.fieldReference? with
  | some identifier => (Column.ofIdentifier identifier).quotedTokens
  | none =>
    match v with
    | .string s => [.string s]
    | .date d => [.string d.text]
    | .dateTime t => [.string t.text]
    | _ => []

/-- The pattern that a value stands for: its text, with `%` at both ends if it holds none. -/
def Value.patternText (v : Value) : Text :=
  if '%' ∈ v.plainText then v.plainText else '%' :: (v.plainText ++ ['%'])

def Operand.quotedTokens (op : Operator) : Operand → List Token
  | .none => []
  | .scalar v => if op = .like then [.string v.patternText] else v.quotedTokens
  | .range low high => low.quotedTokens ++ high.quotedTokens
  | .list values => values.flatMap Value.quotedTokens
  | .subquery _ => []

/-- The quoted tokens of a condition: for each column its names, and after them those of the
operand. -/
def Condition.quotedTokens (c : Condition) : List Token :=
  c.columns.flatMap fun column => column.quotedTokens ++ c.operand.quotedTokens c.operator

def Node.quotedTokens (nodes : List Node) : List Token :=
  (Node.conditionsAll nodes).flatMap Condition.quotedTokens

/-! ### Escapers that obey the rules -/

/-- The escaper writes names, texts and truth values as the lexical rules read them. -/
structure Escaper.Obeys (e : Escaper) (l : Lexicon) : Prop where
  /-- A name is read as its dotted parts. -/
  column : ∀ {name written : Text}, e.column name = .ok written →
    l.Renders written ((Text.pieces '.' name).map .name)
  /-- A name in a cast is read as its dotted parts. -/
  cast : ∀ {name written : Text} {kind : CastKind}, e.cast name kind = .ok written →
    l.Renders written ((Text.pieces '.' name).map .name)
  /-- The contents of a text are read as the text. -/
  string : ∀ {s written : Text}, e.string s = .ok written → l.Encodes written s
  /-- A truth value stands outside of quotes. -/
  bool : ∀ b, IsOuterText (e.bool b)

section Writing

variable {l : Lexicon}

/-- Pieces with the same unquoted text between them are one piece. -/
theorem renders_joinWith {separator : Text} (hsep : IsOuterText separator) (hne : separator ≠ [])
    {pieces : List Text} {quoted : List (List Token)}
    (h : List.Forall₂ l.Renders pieces quoted) :
    l.Renders (Text.joinWith separator pieces) quoted.flatten := by
  induction h with
  | nil => simpa [Text.joinWith] using Lexicon.Renders.nil
  | @cons piece ts pieces quoted h hs ih =>
      cases hs with
      | nil => simpa [Text.joinWith] using h
      | cons h' hs =>
          rw [Text.joinWith, List.intercalate_cons_cons, List.append_assoc, List.flatten_cons]
          exact h.append_text hsep hne ih

theorem renders_castTo {written type : Text} {quoted : List Token}
    (h : l.Renders written quoted) (htype : IsOuterText type) :
    l.Renders (castTo written type) quoted := by
  have hcast : IsOuterText ("CAST(" : Text) := by decide
  have has : IsOuterText (" AS " : Text) := by decide
  have hclose : IsOuterText (")" : Text) := by decide
  have hafter := has.append (htype.append hclose)
  have := (h.append_outer hafter (by simp)).text_append hcast
  unfold castTo
  simp only [List.append_assoc]
  exact this

/-- A dotted name is read as its parts. -/
theorem renders_quoteIdentifier {name written : Text}
    (h : quoteIdentifier l.nameQuote name = .ok written) :
    l.Renders written ((Text.pieces '.' name).map .name) := by
  obtain ⟨-, rfl⟩ := quoteIdentifier_eq_ok.1 h
  have hall : List.Forall₂ l.Renders
      ((Text.pieces '.' name).map (Quoted.write l.nameQuote))
      ((Text.pieces '.' name).map fun part => [.name part]) := by
    rw [List.forall₂_map_left_iff, List.forall₂_map_right_iff, List.forall₂_same]
    exact fun part _ => Lexicon.renders_name part
  have hdot : IsOuterText ("." : Text) := by decide
  rw [← List.flatMap_pure_eq_map, List.flatMap_def]
  exact renders_joinWith hdot (by decide) hall

end Writing

/-! ### The dialects -/

theorem encodes_double {s written : Text} (h : doubleSingleQuotes s = .ok written) :
    Lexicon.standard.Encodes written s := by
  unfold doubleSingleQuotes at h
  split at h
  · cases h
  · obtain rfl := Except.ok.inj h
    exact Quoted.readBody?_double_append s

/-- What MySQL reads behind the escape of a character is the character. -/
theorem encodes_escapeChar (c : Char) : Lexicon.backslash.Encodes (MySql.escapeChar c) [c] := by
  have hescape (d : Char) (h : Lexicon.unescape d = c) :
      Lexicon.backslash.Encodes ['\\', d] [c] := by
    intro rest
    exact h ▸ Lexicon.readEscaped_backslash d rest
  unfold MySql.escapeChar
  -- seven characters have an escape, and any other is neither a quote nor a backslash
  split_ifs with h₁ h₂ h₃ h₄ h₅ h₆ h₇
  · exact hescape _ (by rw [h₁]; decide)
  · exact hescape _ (by rw [h₂]; decide)
  · exact hescape _ (by rw [h₃]; decide)
  · exact hescape _ (by rw [h₄]; decide)
  · exact hescape _ (by rw [h₅]; decide)
  · exact hescape _ (by rw [h₆]; decide)
  · exact hescape _ (by rw [h₇]; decide)
  · exact .plain (by simpa using ⟨h₂, h₁⟩)

theorem encodes_escapeString (s : Text) :
    Lexicon.backslash.Encodes (MySql.escapeString s) s := by
  induction s with
  | nil => exact .nil
  | cons c s ih => exact (encodes_escapeChar c).append ih

theorem Postgres.obeys : Postgres.escaper.Obeys .standard where
  column h := renders_quoteIdentifier (l := .standard) h
  cast {name written kind} h := by
    obtain ⟨quoted, hquoted, rfl⟩ := map_eq_ok.1 h
    refine renders_castTo (renders_quoteIdentifier (l := .standard) hquoted) ?_
    cases kind <;> decide
  string h := encodes_double h
  bool b := by cases b <;> decide

theorem MySql.obeys : MySql.escaper.Obeys .backslash where
  column h := renders_quoteIdentifier (l := .backslash) h
  cast {name written kind} h := by
    obtain ⟨quoted, hquoted, rfl⟩ := map_eq_ok.1 h
    refine renders_castTo (renders_quoteIdentifier (l := .backslash) hquoted) ?_
    cases kind <;> decide
  string h := Except.ok.inj h ▸ encodes_escapeString _
  bool b := by cases b <;> decide

theorem Sqlite.obeys : Sqlite.escaper.Obeys .standard where
  column h := renders_quoteIdentifier (l := .standard) h
  cast {name written kind} h := by
    obtain ⟨quoted, hquoted, rfl⟩ := map_eq_ok.1 h
    have hname := renders_quoteIdentifier (l := .standard) hquoted
    cases kind with
    | integer => exact renders_castTo hname (by decide)
    | decimal => exact renders_castTo hname (by decide)
    | text => exact renders_castTo hname (by decide)
    | date =>
        have hdate : IsOuterText ("date(" : Text) := by decide
        exact (hname.text_append hdate).append_outer (by decide) (by decide)
    | timestamp =>
        have hdatetime : IsOuterText ("datetime(" : Text) := by decide
        exact (hname.text_append hdatetime).append_outer (by decide) (by decide)
  string h := encodes_double h
  bool b := by cases b <;> decide

/-- The escaper of a dialect obeys the rules of the dialect. -/
theorem Dialect.obeys (d : Dialect) : d.escaper.Obeys d.lexicon := by
  cases d with
  | postgres => exact Postgres.obeys
  | mysql => exact MySql.obeys
  | sqlite => exact Sqlite.obeys

/-! ### Numbers and dates -/

theorem isOuterText_of_isDigit {s : Text} (h : ∀ c ∈ s, c.isDigit = true) : IsOuterText s := by
  intro c hc
  have hdigit := h c hc
  refine ⟨by simp [isOuter, Char.isAlphanum, hdigit], ?_⟩
  rintro rfl
  exact absurd hdigit (by decide)

theorem isOuterText_ofNat (n : Nat) : IsOuterText (Numeral.ofNat n) :=
  isOuterText_of_isDigit fun _ => Numeral.isDigit_of_mem_ofNat

theorem isOuterText_replicate_zero (n : Nat) : IsOuterText (List.replicate n '0') := by
  intro c hc
  obtain ⟨-, rfl⟩ := List.mem_replicate.1 hc
  decide

theorem IsOuterText.sublist {s t : Text} (ht : IsOuterText t) (h : s.Sublist t) :
    IsOuterText s :=
  fun c hc => ht c (h.subset hc)

/-- A decimal number without an exponent has only digits and a point. -/
theorem isOuterText_positional (d : Decimal) : IsOuterText d.positional := by
  have hdigits := isOuterText_ofNat d.digits
  have hpoint : IsOuterText ['.'] := by decide
  have hzero : IsOuterText ['0'] := by decide
  unfold Decimal.positional
  dsimp only
  split_ifs
  · exact hdigits.append (isOuterText_replicate_zero _)
  · exact (hdigits.sublist (List.take_sublist _ _)).append
      (hpoint.append (hdigits.sublist (List.drop_sublist _ _)))
  · exact hzero.append (hpoint.append ((isOuterText_replicate_zero _).append hdigits))

theorem positional_ne_nil (d : Decimal) : d.positional ≠ [] := by
  have := Numeral.ofNat_ne_nil d.digits
  unfold Decimal.positional
  dsimp only
  split_ifs
  · simp [this]
  · simp
  · simp

section Rendering

variable {l : Lexicon}

/-- Unquoted text, with or without a minus sign. -/
theorem renders_signed {s : Text} (hs : IsOuterText s) (hne : s ≠ []) (negative : Bool) :
    l.Renders (Binary64.withSign negative s) [] := by
  cases negative with
  | false => exact .text hs
  | true =>
      obtain ⟨c, s, rfl⟩ := List.exists_cons_of_ne_nil hne
      exact Lexicon.renders_hyphen hs

theorem renders_ofInt (n : Int) : l.Renders (Numeral.ofInt n) [] := by
  have := renders_signed (l := l) (isOuterText_ofNat n.natAbs) (Numeral.ofNat_ne_nil _)
    (decide (n < 0))
  simpa [Numeral.ofInt, Binary64.withSign] using this

/-- The text of a day or a time holds neither a quote nor a backslash. -/
theorem encodes_calendarText {s : Text} (h : IsCalendarText s) : l.Encodes s s :=
  .plain fun c hc => ⟨h.ne (by decide) c hc, h.ne (by decide) c hc⟩

/-! ### From values to filters -/

variable {e : Escaper}

theorem escaped_eq_ok {α : Type} {x : Except EscapeError α} {a : α} :
    escaped x = .ok a ↔ x = .ok a :=
  mapError_eq_ok

theorem renders_column (he : e.Obeys l) {column : Column} {s : Text}
    (h : column.render e = .ok s) : l.Renders s column.quotedTokens := by
  unfold Column.render at h
  split at h
  · exact he.cast (escaped_eq_ok.1 h)
  · exact he.column (escaped_eq_ok.1 h)

theorem renders_literal (he : e.Obeys l) {v : Value} {s : Text} (h : e.literal v = .ok s)
    (hv : v.fieldReference? = none) : l.Renders s v.quotedTokens := by
  unfold Value.quotedTokens
  rw [hv]
  cases v with
  | null =>
      obtain rfl := Except.ok.inj h
      exact .text (by decide)
  | bool b =>
      obtain rfl := Except.ok.inj h
      exact .text (he.bool b)
  | int n =>
      obtain rfl := Except.ok.inj h
      exact renders_ofInt _
  | float x =>
      simp only [Escaper.literal] at h
      split at h
      · obtain rfl := Except.ok.inj h
        rename_i hx
        cases x with
        | finite negative m =>
            exact renders_signed (isOuterText_positional _) (positional_ne_nil _) _
        | _ => cases hx
      · cases h
  | string s =>
      obtain ⟨written, hwritten, rfl⟩ := map_eq_ok.1 h
      exact Lexicon.renders_string (he.string hwritten)
  | date d =>
      obtain rfl := Except.ok.inj h
      exact Lexicon.renders_string (encodes_calendarText (isCalendarText_date d))
  | dateTime t =>
      obtain rfl := Except.ok.inj h
      exact Lexicon.renders_string (encodes_calendarText (isCalendarText_dateTime t))

theorem renders_value (he : e.Obeys l) {v : Value} {s : Text} (h : v.render e = .ok s) :
    l.Renders s v.quotedTokens := by
  unfold Value.render at h
  split at h
  · rename_i identifier hv
    have := renders_column he h
    simpa only [Value.quotedTokens, hv] using this
  · rename_i hv
    exact renders_literal he (escaped_eq_ok.1 h) hv

theorem renders_likePattern (he : e.Obeys l) {v : Value} {s : Text}
    (h : likePattern e v = .ok s) : l.Renders (inQuotes s) [.string v.patternText] := by
  obtain ⟨written, hwritten, h⟩ := bind_eq_ok.1 h
  obtain rfl := pure_eq_ok.1 h
  have hencodes := he.string (escaped_eq_ok.1 hwritten)
  have hpercent : l.Encodes ['%'] ['%'] := .plain (by simp)
  refine Lexicon.renders_string ?_
  unfold Value.patternText
  split_ifs
  · exact hencodes
  · exact hpercent.append (hencodes.append hpercent)

theorem isOuterText_symbol (op : Operator) : IsOuterText op.symbol := by
  cases op <;> decide

theorem isOuterText_keyword (j : Joiner) : IsOuterText j.keyword := by
  cases j <;> decide

theorem renderComparison_plain {op : Operator} (hop : op ∈ Operator.plain) (column : Text)
    (v : Value) :
    renderComparison e column op (.scalar v) =
      (do let v ← v.render e; return column ++ ' ' :: op.symbol ++ ' ' :: v) := by
  rcases Operator.mem_plain.1 hop with rfl | rfl | rfl | rfl | rfl | rfl <;> rfl

/-- A comparison holds the tokens of its column and after them those of its operand. -/
theorem renders_comparison (he : e.Obeys l) {column s : Text} {names : List Token}
    (hcolumn : l.Renders column names) {op : Operator} {operand : Operand}
    (hshape : Operand.Shape op operand) (hquery : ∀ query, operand ≠ .subquery query)
    (h : renderComparison e column op operand = .ok s) :
    l.Renders s (names ++ operand.quotedTokens op) := by
  cases hshape with
  | isNull =>
      obtain rfl := Except.ok.inj h
      rw [Operand.quotedTokens, List.append_nil]
      exact hcolumn.append_outer (by decide) (by decide)
  | isNotNull =>
      obtain rfl := Except.ok.inj h
      rw [Operand.quotedTokens, List.append_nil]
      exact hcolumn.append_outer (by decide) (by decide)
  | between low high =>
      obtain ⟨lowText, hlow, h⟩ := bind_eq_ok.1 h
      obtain ⟨highText, hhigh, h⟩ := bind_eq_ok.1 h
      obtain rfl := pure_eq_ok.1 h
      have hbetween : IsOuterText (" BETWEEN " : Text) := by decide
      have hand : IsOuterText (" AND " : Text) := by decide
      have hbounds := (renders_value he hlow).append_text hand (by decide) (renders_value he hhigh)
      have := hcolumn.append_text hbetween (by decide) hbounds
      simp only [List.append_assoc]
      exact this
  | list v vs =>
      obtain ⟨items, hitems, h⟩ := bind_eq_ok.1 h
      obtain rfl := pure_eq_ok.1 h
      have hin : IsOuterText (" IN (" : Text) := by decide
      have hcomma : IsOuterText (", " : Text) := by decide
      have hclose : IsOuterText (")" : Text) := by decide
      have hall : List.Forall₂ l.Renders items ((v :: vs).map Value.quotedTokens) := by
        rw [List.forall₂_map_right_iff]
        exact ((mapM_eq_ok.1 hitems).imp fun _ _ => renders_value he).flip
      have hlist := renders_joinWith hcomma (by decide) hall
      have := hcolumn.append_text hin (by decide) (hlist.append_outer hclose (by decide))
      simp only [List.append_assoc, Operand.quotedTokens, List.flatMap_def]
      exact this
  | subquery _ => exact absurd rfl (hquery _)
  | like _ =>
      obtain ⟨pattern, hpattern, h⟩ := bind_eq_ok.1 h
      obtain rfl := pure_eq_ok.1 h
      have hlower : IsOuterText ("LOWER(" : Text) := by decide
      have hlike : IsOuterText (") LIKE LOWER(" : Text) := by decide
      have hclose : IsOuterText (")" : Text) := by decide
      have hright := (renders_likePattern he hpattern).append_outer hclose (by decide)
      have := (hcolumn.append_text hlike (by decide) hright).text_append hlower
      simp only [List.append_assoc, Operand.quotedTokens, if_pos]
      exact this
  | plain v hop =>
      rw [renderComparison_plain hop] at h
      obtain ⟨valueText, hvalue, h⟩ := bind_eq_ok.1 h
      obtain rfl := pure_eq_ok.1 h
      have hop' : op ≠ .like := by rintro rfl; exact absurd hop (by decide)
      have hspace : IsOuterText [' '] := by decide
      have hsymbol := hspace.append ((isOuterText_symbol op).append hspace)
      have := hcolumn.append_text hsymbol (by simp) (renders_value he hvalue)
      simp only [Operand.quotedTokens, if_neg hop']
      simpa using this

theorem renders_condition (he : e.Obeys l) {c : Condition} {s : Text}
    (hbuilt : c.Built) (hquery : ∀ query, c.operand ≠ .subquery query)
    (h : c.render e = .ok s) : l.Renders s c.quotedTokens := by
  have hcolumn : ∀ column s, c.renderColumn e column = .ok s →
      l.Renders s (column.quotedTokens ++ c.operand.quotedTokens c.operator) := by
    intro column s h
    obtain ⟨written, hwritten, h⟩ := bind_eq_ok.1 h
    exact renders_comparison he (renders_column he hwritten) hbuilt.shape hquery h
  obtain ⟨comparisons, hcomparisons, h⟩ := bind_eq_ok.1 h
  have hall : List.Forall₂ l.Renders comparisons
      (c.columns.map fun column => column.quotedTokens ++ c.operand.quotedTokens c.operator) := by
    rw [List.forall₂_map_right_iff]
    exact ((mapM_eq_ok.1 hcomparisons).imp hcolumn).flip
  rw [Condition.quotedTokens, List.flatMap_def]
  split at h
  · -- one comparison stands alone, and it is its own alternative
    obtain rfl := pure_eq_ok.1 h
    have hspace : IsOuterText [' '] := by decide
    have := renders_joinWith hspace (by decide) hall
    simpa [Text.joinWith] using this
  · obtain rfl := pure_eq_ok.1 h
    have hor : IsOuterText (" OR " : Text) := by decide
    have hopen : IsOuterText ['('] := by decide
    have hclose : IsOuterText (")" : Text) := by decide
    have := renders_joinWith hor (by decide) hall
    exact (this.append_outer hclose (by decide)).text_append hopen

/-- The nodes after the first, if each of them renders to its own tokens. -/
theorem renders_renderRest {nodes : List Node}
    (hnodes : ∀ node ∈ nodes, ∀ s, node.render e = .ok s →
      l.Renders s (node.conditions.flatMap Condition.quotedTokens))
    {first rest : Text} {quoted : List Token} (hfirst : l.Renders first quoted)
    (h : Node.renderRest e nodes = .ok rest) :
    l.Renders (first ++ rest) (quoted ++ Node.quotedTokens nodes) := by
  induction nodes generalizing first rest quoted with
  | nil =>
      rw [Node.renderRest] at h
      obtain rfl := pure_eq_ok.1 h
      simpa [Node.quotedTokens] using hfirst
  | cons node nodes ih =>
      obtain ⟨hnode, hnodes⟩ := List.forall_mem_cons.1 hnodes
      rw [Node.renderRest_cons] at h
      obtain ⟨next, hnext, h⟩ := bind_eq_ok.1 h
      obtain ⟨others, hothers, h⟩ := bind_eq_ok.1 h
      obtain rfl := pure_eq_ok.1 h
      -- what was rendered so far and the next node are one piece with the joiner between them
      have hspace : IsOuterText [' '] := by decide
      have hjoiner := hspace.append ((isOuterText_keyword node.joiner).append hspace)
      have htwo := hfirst.append_text hjoiner (by simp) (hnode next hnext)
      have := ih hnodes htwo hothers
      simpa [Node.quotedTokens] using this

theorem renders_joinAll {nodes : List Node}
    (hnodes : ∀ node ∈ nodes, ∀ s, node.render e = .ok s →
      l.Renders s (node.conditions.flatMap Condition.quotedTokens))
    {s : Text} (h : Node.joinAll e nodes = .ok s) : l.Renders s (Node.quotedTokens nodes) := by
  cases nodes with
  | nil =>
      rw [Node.joinAll] at h
      obtain rfl := pure_eq_ok.1 h
      exact .nil
  | cons node nodes =>
      obtain ⟨hnode, hnodes⟩ := List.forall_mem_cons.1 hnodes
      rw [Node.joinAll_cons] at h
      obtain ⟨first, hfirst, h⟩ := bind_eq_ok.1 h
      obtain ⟨rest, hrest, h⟩ := bind_eq_ok.1 h
      obtain rfl := pure_eq_ok.1 h
      simpa [Node.quotedTokens] using renders_renderRest hnodes (hnode first hfirst) hrest

/-- A node renders to its own tokens. -/
theorem renders_node (he : e.Obeys l) (node : Node) (hbuilt : node.Built)
    (hquery : ∀ c ∈ node.conditions, ∀ query, c.operand ≠ .subquery query) :
    ∀ s, node.render e = .ok s → l.Renders s (node.conditions.flatMap Condition.quotedTokens) := by
  induction node using Node.induction with
  | condition j c =>
      intro s h
      rw [Node.render] at h
      have hc := hquery c (by simp)
      simpa using renders_condition he (Node.built_condition.1 hbuilt) hc h
  | group j children ih =>
      intro s h
      rw [Node.render] at h
      obtain ⟨inner, hinner, h⟩ := bind_eq_ok.1 h
      obtain rfl := pure_eq_ok.1 h
      obtain ⟨-, hchildren⟩ := Node.built_group.1 hbuilt
      rw [Node.conditions_group, Node.forall_mem_conditionsAll] at hquery
      have hall := renders_joinAll (fun child hchild => ih child hchild (hchildren child hchild)
        (hquery child hchild)) hinner
      have hopen : IsOuterText ['('] := by decide
      have hclose : IsOuterText (")" : Text) := by decide
      rw [Node.conditions_group]
      exact (hall.append_outer hclose (by decide)).text_append hopen

end Rendering

/-! ### The main theorem -/

/-- The quoted tokens of a rendered filter are the names and the texts of its tree, in order, and
what stands outside of them are letters, digits and the marks of operators, lists and numbers. -/
theorem scan_joinAll (d : Dialect) (nodes : List Node) (hbuilt : ∀ node ∈ nodes, node.Built)
    (hquery : ∀ c ∈ Node.conditionsAll nodes, ∀ query, c.operand ≠ .subquery query)
    (sql : Text) (h : Node.joinAll d.escaper nodes = .ok sql) :
    ∃ tokens, d.lexicon.scan sql = some tokens ∧
      tokens.filter Token.isQuoted = Node.quotedTokens nodes ∧
      ∀ c, .mark c ∈ tokens → isOuter c = true := by
  rw [Node.forall_mem_conditionsAll] at hquery
  refine (renders_joinAll ?_ h).scan_eq
  intro node hnode
  exact renders_node d.obeys node (hbuilt node hnode) (hquery node hnode)

set_option maxRecDepth 4000 in
/-- A quote of each kind, a comment opener in a text, and a column on the right-hand side. -/
theorem scan_joinAll_quotes :
    let nodes : List Node := [
      .group .and [.condition .and
        ⟨"date:a\"b", [⟨"a\"b", some .date⟩], .like, .scalar (.string "it's --")⟩],
      .condition .or ⟨"n", [⟨"n", none⟩], .isIn, .list [.string "field:t.c", .int (-5)]⟩]
    let sql : Text :=
      "(LOWER(date(\"a\"\"b\")) LIKE LOWER('%it''s --%')) OR \"n\" IN (\"t\".\"c\", -5)"
    (∀ node ∈ nodes, node.Built) ∧
      (∀ c ∈ Node.conditionsAll nodes, ∀ query, c.operand ≠ .subquery query) ∧
      Node.joinAll Dialect.sqlite.escaper nodes = .ok sql ∧
      ∃ tokens, Dialect.sqlite.lexicon.scan sql = some tokens ∧
        tokens.filter Token.isQuoted =
          [.name "a\"b", .string "%it's --%", .name "n", .name "t", .name "c"] ∧
        ∀ c, .mark c ∈ tokens → isOuter c = true := by
  intro nodes sql
  have hbuilt : ∀ node ∈ nodes, node.Built := by
    simp only [nodes, List.forall_mem_cons, Node.built_group, Node.built_condition]
    exact ⟨⟨by decide, rfl, by simp⟩, rfl, by simp⟩
  have hquery : ∀ c ∈ Node.conditionsAll nodes, ∀ query, c.operand ≠ .subquery query := by
    simp [nodes]
  have hsql : Node.joinAll Dialect.sqlite.escaper nodes = .ok sql := rfl
  exact ⟨hbuilt, hquery, hsql, scan_joinAll .sqlite nodes hbuilt hquery sql hsql⟩

end WhereClause
