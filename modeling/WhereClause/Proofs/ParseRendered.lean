import WhereClause.Proofs.Containment
import WhereClause.Proofs.Expansion
import WhereClause.Proofs.ParseWritten

/-!
# Rendered filters are parsed as their expansion

An escaper that leaves names as they are and writes literals as standard SQL does renders a filter
to text that the shorthand has as well.  Rendering says nothing of brackets around alternatives and
of joiners that are left out, so what the text stands for is not the filter but its expansion.

Main definitions:

* `Escaper.IsPlain`: the escaper writes names and literals as the shorthand does.

Main results:

* `spells_renderComparison`, `spells_render`, `spells_joinAll`: what is rendered spells what is
  written for the expansion;
* `parse_joinAll`: **a rendered filter is parsed as its expansion**.
-/

set_option autoImplicit false

namespace WhereClause

open Shorthand

/-- The escaper leaves names as they are, doubles single quotes in texts and writes truth values as
keywords. -/
structure Escaper.IsPlain (e : Escaper) : Prop where
  /-- A name stands as it is. -/
  column : ∀ name, e.column name = .ok name
  /-- A single quote in a text is written twice. -/
  string : ∀ s, e.string s = .ok (Quoted.double '\'' s)
  /-- A truth value is a keyword. -/
  bool : ∀ b, e.bool b = if b then ("TRUE" : Text) else "FALSE"

section Rendering

variable {e : Escaper}

/-! ### Values and comparisons -/

/-- A literal spells what is written for the value. -/
theorem spells_renderValue (he : e.IsPlain) {v : Value} (hv : v.isLiteral = true)
    (href : v.fieldReference? = none) : ∃ s, v.render e = .ok s ∧ v.written.Spells s := by
  have hliteral : ∀ s, e.literal v = .ok s → v.render e = .ok s := by
    intro s hs
    rw [Value.render, href]
    exact escaped_eq_ok.2 hs
  cases v with
  | null => exact ⟨"NULL", hliteral _ rfl, Cased.refl "NULL"⟩
  | bool b =>
      refine ⟨e.bool b, hliteral _ rfl, Value.spells_bool.2 ?_⟩
      rw [he.bool]
      cases b with
      | true => exact Cased.refl "TRUE"
      | false => exact Cased.refl "FALSE"
  | int n => exact ⟨Numeral.ofInt n.toInt, hliteral _ rfl, rfl⟩
  | string text =>
      refine ⟨Quoted.write '\'' text, hliteral _ ?_, rfl⟩
      rw [Escaper.literal, he.string]
      rfl
  | _ => cases hv

/-- Texts joined with a separator are the first and then each other one behind the separator. -/
theorem joinWith_cons (separator first : Text) (texts : List Text) :
    Text.joinWith separator (first :: texts) = first ++ texts.flatMap (separator ++ ·) := by
  induction texts generalizing first with
  | nil => simp [Text.joinWith]
  | cons second texts ih =>
      have hstep : Text.joinWith separator (first :: second :: texts) =
          first ++ separator ++ Text.joinWith separator (second :: texts) :=
        List.intercalate_cons_cons
      rw [hstep, ih, List.flatMap_cons, List.append_assoc, List.append_assoc]

/-- The literals of a list behind the first spell what is written for the values. -/
theorem spells_writtenRest_values {vs : List Value} {texts : List Text}
    (h : List.Forall₂ (fun v s => v.written.Spells s) vs texts) :
    Spells (Value.writtenRest vs) (texts.flatMap ([',', ' '] ++ ·)) := by
  induction h with
  | nil => rfl
  | @cons v s vs texts hv _ ih =>
      refine spells_writtenRest_cons.2 ⟨[' '], s, texts.flatMap ([',', ' '] ++ ·), ?_, isGap_space,
        hv, ih⟩
      rw [List.flatMap_cons]
      rfl

/-- A comparison spells what is written for its operator and operand, behind the column. -/
theorem spells_renderComparison (he : e.IsPlain) (column : Text) {op : Operator}
    {operand : Operand} (hshape : Operand.Shape op operand) (hop : op ≠ .like)
    (hquery : ∀ query, operand ≠ .subquery query)
    (hvalues : ∀ v ∈ operand.values, v.isLiteral = true)
    (href : ∀ v ∈ operand.values, v.fieldReference? = none) :
    ∃ s, renderComparison e column op operand = .ok (column ++ ' ' :: s) ∧
      Spells (op.written ++ operand.written) s := by
  have hword : ∀ w : Text, (Piece.word w).Spells w := Cased.refl
  have hmark : ∀ s : Text, (Piece.verbatim s).Spells s := fun _ => rfl
  have hgap : Piece.gap.Spells [' '] := isGap_space
  cases hshape with
  | isNull =>
      refine ⟨Operator.isNull.symbol, rfl, ?_⟩
      exact (hword "IS").append (hgap.append (hword "NULL").spells)
  | isNotNull =>
      refine ⟨Operator.isNotNull.symbol, rfl, ?_⟩
      exact (hword "IS").append (hgap.append ((hword "NOT").append (hgap.append
        (hword "NULL").spells)))
  | between low high =>
      simp only [Operand.values, List.forall_mem_cons] at hvalues href
      obtain ⟨lowText, hlow, hlowSpells⟩ := spells_renderValue he hvalues.1 href.1
      obtain ⟨highText, hhigh, hhighSpells⟩ := spells_renderValue he hvalues.2.1 href.2.1
      refine ⟨"BETWEEN ".toList ++ (lowText ++ (" AND ".toList ++ highText)), ?_, ?_⟩
      · rw [renderComparison, hlow, ok_bind, hhigh, ok_bind, pure_eq_ok]
        simp
      · exact (hword "BETWEEN").append (hgap.append (hlowSpells.append (hgap.append
          ((hword "AND").append (hgap.append hhighSpells.spells)))))
  | list v vs =>
      simp only [Operand.values] at hvalues href
      obtain ⟨texts, htexts, hall⟩ := exists_mapM fun w hw =>
        spells_renderValue he (hvalues w hw) (href w hw)
      obtain ⟨s, rest, hv, hrest, rfl⟩ := List.forall₂_cons_left_iff.1 hall
      have hlist := spells_writtenRest_values hrest
      refine ⟨"IN (".toList ++ (s ++ (rest.flatMap ([',', ' '] ++ ·) ++ [')'])), ?_, ?_⟩
      · rw [renderComparison, htexts, ok_bind, pure_eq_ok, joinWith_cons]
        simp
      · exact (hword "IN").append (hgap.append ((hmark ['(']).append (hv.append
          (spells_append.2 ⟨_, _, rfl, hlist, (hmark [')']).spells⟩))))
  | subquery _ => exact absurd rfl (hquery _)
  | like _ => exact absurd rfl hop
  | plain v hplain =>
      simp only [Operand.values, List.forall_mem_cons] at hvalues href
      obtain ⟨s, hs, hspells⟩ := spells_renderValue he hvalues.1 href.1
      refine ⟨op.symbol ++ ' ' :: s, ?_, ?_⟩
      · rw [renderComparison_plain hplain, hs, ok_bind, pure_eq_ok]
        simp
      · rw [written_plain hplain]
        exact (hmark op.symbol).append (hgap.append hspells.spells)

/-! ### Conditions -/

/-- The comparison of one column spells what is written for the condition on it. -/
theorem spells_renderColumn (he : e.IsPlain) {c : Condition} (hbuilt : c.Built)
    (hc : c.IsReadable) {column : Column} (hcolumn : column ∈ c.columns) :
    ∃ s, c.renderColumn e column = .ok s ∧ Spells (c.onColumn column).written s := by
  have hname : column.render e = .ok column.name := by
    rw [Column.render, hc.uncast column hcolumn]
    exact escaped_eq_ok.2 (he.column column.name)
  obtain ⟨s, hs, hspells⟩ := spells_renderComparison he column.name hbuilt.shape hc.operator
    hc.query hc.values hc.references
  have hgap : Piece.gap.Spells [' '] := isGap_space
  refine ⟨column.name ++ ([' '] ++ s), ?_, ?_⟩
  · rw [Condition.renderColumn, hname, ok_bind, hs]
    rfl
  · exact ⟨column.name, _, rfl, rfl, hgap.append hspells⟩

/-- The alternatives behind the first spell what is written for the conditions they are. -/
theorem spells_writtenRest_columns {c : Condition} {columns : List Column} {texts : List Text}
    (h : List.Forall₂ (fun column s => Spells (c.onColumn column).written s) columns texts) :
    Spells (Node.writtenRest (columns.map fun column => .condition .or (c.onColumn column)))
      (texts.flatMap ([' ', 'O', 'R', ' '] ++ ·)) := by
  induction h with
  | nil =>
      rw [List.map_nil, Node.writtenRest]
      rfl
  | @cons column s columns texts hcolumn _ ih =>
      rw [List.map_cons, List.flatMap_cons]
      refine spells_writtenRest_node.2 ⟨[' '], ['O', 'R'], [' '], s, _, ?_, isGap_space,
        Cased.refl "OR", isGap_space, ?_, ih⟩
      · simp
      · rwa [Node.written_condition]

/-- A condition spells what is written for its expansion. -/
theorem spells_renderCondition (he : e.IsPlain) {c : Condition} (hbuilt : c.Built)
    (hc : c.IsReadable) (j : Joiner) :
    ∃ s, c.render e = .ok s ∧ Spells (c.expand j).written s := by
  obtain ⟨texts, htexts, hall⟩ := exists_mapM fun column hcolumn =>
    spells_renderColumn he hbuilt hc hcolumn
  have hne := Condition.columns_ne_nil hbuilt
  have hmark : ∀ s : Text, (Piece.verbatim s).Spells s := fun _ => rfl
  rw [Condition.render, htexts, ok_bind, Condition.expand, Condition.alternatives]
  generalize c.columns = columns at hall hne ⊢
  -- rendering and expansion both tell one column from several
  cases hall with
  | nil => exact absurd rfl hne
  | @cons column s columns texts hfirst hrest =>
      cases hrest with
      | nil => exact ⟨s, rfl, by rwa [Node.written_condition]⟩
      | @cons second t columns texts hsecond hrest =>
          have hothers := spells_writtenRest_columns (.cons hsecond hrest)
          refine ⟨_, rfl, ?_⟩
          rw [joinWith_cons, Node.written_group, List.map_cons, Node.leadWithAnd, Node.writtenAll,
            Node.written_withJoiner, Node.written_condition]
          exact (hmark ['(']).append (spells_append.2 ⟨_, [')'], rfl,
            spells_append.2 ⟨s, _, rfl, hfirst, hothers⟩, (hmark [')']).spells⟩)

/-! ### Nodes -/

/-- The nodes of a sequence behind the first, if each of them is rendered as it is written. -/
theorem spells_renderRest {nodes : List Node}
    (h : ∀ node ∈ nodes, ∃ s, node.render e = .ok s ∧ Spells node.expand.written s) :
    ∃ s, Node.renderRest e nodes = .ok s ∧ Spells (Node.writtenRest (nodes.map Node.expand)) s := by
  induction nodes with
  | nil =>
      rw [Node.renderRest, List.map_nil, Node.writtenRest]
      exact ⟨[], rfl, rfl⟩
  | cons node nodes ih =>
      rw [List.forall_mem_cons] at h
      obtain ⟨⟨next, hnext, hspells⟩, hnodes⟩ := h
      obtain ⟨rest, hrest, hothers⟩ := ih hnodes
      refine ⟨' ' :: node.joiner.keyword ++ ' ' :: next ++ rest, ?_, ?_⟩
      · rw [Node.renderRest_cons, hnext, ok_bind, hrest]
        rfl
      · -- the expansion of a node behind the first keeps the joiner that is rendered
        rw [List.map_cons]
        refine spells_writtenRest_node.2 ⟨[' '], node.joiner.keyword, [' '], next, rest, ?_,
          isGap_space, ?_, isGap_space, hspells, hothers⟩
        · simp
        · rw [Node.joiner_expand]
          exact Cased.refl node.joiner.keyword

/-- A sequence, if each of its nodes is rendered as it is written. -/
theorem spells_joinAll {nodes : List Node}
    (h : ∀ node ∈ nodes, ∃ s, node.render e = .ok s ∧ Spells node.expand.written s) :
    ∃ s, Node.joinAll e nodes = .ok s ∧ Spells (Node.writtenAll (Node.expandAll nodes)) s := by
  cases nodes with
  | nil =>
      rw [Node.joinAll, Node.expandAll, Node.expandEach, Node.leadWithAnd, Node.writtenAll]
      exact ⟨[], rfl, rfl⟩
  | cons node nodes =>
      rw [List.forall_mem_cons] at h
      obtain ⟨⟨first, hfirst, hspells⟩, hnodes⟩ := h
      obtain ⟨rest, hrest, hothers⟩ := spells_renderRest hnodes
      refine ⟨first ++ rest, ?_, ?_⟩
      · rw [Node.joinAll_cons, hfirst, ok_bind, hrest]
        rfl
      · rw [Node.expandAll_cons, Node.writtenAll, Node.written_withJoiner]
        exact spells_append.2 ⟨first, rest, rfl, hspells, hothers⟩

/-- A readable node is rendered as its expansion is written. -/
theorem spells_render (he : e.IsPlain) {node : Node} (hbuilt : node.Built)
    (hreadable : ∀ c ∈ node.conditions, c.IsReadable) :
    ∃ s, node.render e = .ok s ∧ Spells node.expand.written s := by
  induction node using Node.induction with
  | condition j c =>
      rw [Node.render, Node.expand_condition]
      exact spells_renderCondition he (Node.built_condition.1 hbuilt) (hreadable c (by simp)) j
  | group j children ih =>
      obtain ⟨-, hchildren⟩ := Node.built_group.1 hbuilt
      rw [Node.conditions_group, Node.forall_mem_conditionsAll] at hreadable
      obtain ⟨inner, hinner, hspells⟩ := spells_joinAll fun child hchild =>
        ih child hchild (hchildren child hchild) (hreadable child hchild)
      refine ⟨'(' :: (inner ++ [')']), ?_, ?_⟩
      · rw [Node.render, hinner]
        rfl
      · rw [Node.expand_group, Node.written_group]
        have hclose : (Piece.verbatim [')']).Spells [')'] := rfl
        exact ⟨['('], _, rfl, rfl, spells_append.2 ⟨inner, [')'], rfl, hspells, hclose.spells⟩⟩

/-! ### The main theorem -/

/-- A rendered filter is parsed as its expansion: the alternatives of a condition on several
columns are a group, and no joiner is left of the first node of a sequence. -/
theorem parse_joinAll (he : e.IsPlain) {nodes : List Node} (hbuilt : ∀ node ∈ nodes, node.Built)
    (hreadable : ∀ c ∈ Node.conditionsAll nodes, c.IsReadable)
    (hdepth : Node.nestingAll (Node.expandAll nodes) ≤ 128) :
    ∃ s, Node.joinAll e nodes = .ok s ∧ parse s = .ok (Node.expandAll nodes) := by
  rw [Node.forall_mem_conditionsAll] at hreadable
  obtain ⟨s, hs, hspells⟩ := spells_joinAll fun node hnode =>
    spells_render he (hbuilt node hnode) (hreadable node hnode)
  refine ⟨s, hs, parse_of_isSentence ?_ (Node.joiner_leadWithAnd _) hdepth hspells⟩
  refine Node.isSentence_leadWithAnd ?_
  rw [Node.expandEach_eq_map, List.forall_mem_map]
  exact fun node hnode => Node.isSentence_expand (hbuilt node hnode) (hreadable node hnode)

end Rendering

set_option maxRecDepth 4000 in
/-- The first condition has two columns and a joiner that is not rendered, the second is in a
group. -/
theorem parse_joinAll_alternatives :
    let e : Escaper :=
      { name := "plain", column := .ok, string := fun s => .ok (Quoted.double '\'' s),
        cast := fun name _ => .ok name }
    let nodes : List Node := [
      .condition .or ⟨"a|t.b", [⟨"a", none⟩, ⟨"t.b", none⟩], .equal, .scalar (.string "it's")⟩,
      .group .or [.condition .or ⟨" n ", [⟨"n", none⟩], .isIn, .list [.int (-5), .null]⟩]]
    let sql : Text := "(a = 'it''s' OR t.b = 'it''s') OR (n IN (-5, NULL))"
    e.IsPlain ∧ (∀ node ∈ nodes, node.Built) ∧
      (∀ c ∈ Node.conditionsAll nodes, c.IsReadable) ∧
      Node.nestingAll (Node.expandAll nodes) ≤ 128 ∧ Node.joinAll e nodes = .ok sql ∧
      parse sql = .ok [
        .group .and [
          .condition .and ⟨"a", [⟨"a", none⟩], .equal, .scalar (.string "it's")⟩,
          .condition .or ⟨"t.b", [⟨"t.b", none⟩], .equal, .scalar (.string "it's")⟩],
        .group .or [.condition .and ⟨"n", [⟨"n", none⟩], .isIn, .list [.int (-5), .null]⟩]] := by
  intro e nodes sql
  have he : e.IsPlain := ⟨fun _ => rfl, fun _ => rfl, fun _ => rfl⟩
  have hbuilt : ∀ node ∈ nodes, node.Built := by
    simp only [nodes, List.forall_mem_cons, Node.built_group, Node.built_condition]
    exact ⟨rfl, ⟨by decide, rfl, by simp⟩, by simp⟩
  have hreadable : ∀ c ∈ Node.conditionsAll nodes, c.IsReadable := by
    simp only [nodes, Node.conditionsAll_cons, Node.conditionsAll_nil, Node.conditions_group,
      Node.conditions_condition, List.append_nil, List.singleton_append, List.forall_mem_cons]
    have hcolumn : ∀ name : Text, name.all (fun ch => isWordChar ch || ch == '.' || ch == ':') →
        ∀ ch ∈ name, isWordChar ch = true ∨ ch = '.' ∨ ch = ':' := by
      intro name hname
      simpa [or_assoc] using hname
    refine ⟨⟨by simp, ?_, by decide, by simp, ?_, ?_⟩, ⟨by simp, ?_, by decide, by simp, ?_, ?_⟩,
      by simp⟩
    · simp only [List.forall_mem_cons]
      exact ⟨hcolumn _ rfl, hcolumn _ rfl, by simp⟩
    · simp [Operand.values, Value.isLiteral]
    · simp only [Operand.values, List.forall_mem_cons]
      exact ⟨rfl, by simp⟩
    · simp only [List.forall_mem_cons]
      exact ⟨hcolumn _ rfl, by simp⟩
    · simp [Operand.values, Value.isLiteral]
    · simp only [Operand.values, List.forall_mem_cons]
      exact ⟨rfl, rfl, by simp⟩
  have hdepth : Node.nestingAll (Node.expandAll nodes) ≤ 128 := by
    simp [nodes, Node.expandAll_cons, Node.expand_condition, Node.expand_group, Condition.expand,
      Condition.alternatives, Node.leadWithAnd, Node.withJoiner]
  obtain ⟨s, hs, hparse⟩ := parse_joinAll he hbuilt hreadable hdepth
  have hsql : Node.joinAll e nodes = .ok sql := rfl
  obtain rfl : sql = s := Except.ok.inj (hsql.symm.trans hs)
  refine ⟨he, hbuilt, hreadable, hdepth, hsql, hparse.trans ?_⟩
  simp [nodes, Node.expandAll_cons, Node.expand_condition, Node.expand_group, Condition.expand,
    Condition.alternatives, Condition.onColumn, Node.leadWithAnd, Node.withJoiner]

end WhereClause
