import WhereClause.Proofs.Refusal

/-!
# The dialects agree

A filter is written once and rendered in any dialect, so it should not depend on the dialect whether
it can be rendered at all.  It nearly does not: all of the dialects refuse the same names and the
same numbers, and only the character NUL in a text is refused by two of them and accepted by the
third.  What is rendered differs in quotes, casts and truth values; PostgreSQL and SQLite quote in
the same way, so that nothing differs between them where there is neither a cast nor a truth value.

Main definitions:

* `Condition.Common`: a condition that asks for neither casts nor truth values.

Main results:

* `ask_sqlite`, `ask_mysql`: what one dialect refuses and another one answers;
* `Node.joinAll_congr`: escapers that answer all questions alike render alike;
* `Node.joinAll_agrees`: **which sequences render in which dialects, and when two of them render to
  the same text**.
-/

set_option autoImplicit false

namespace WhereClause

/-! ### Questions to two dialects -/

/-- The quote character does not decide whether a name is refused. -/
theorem sameOutcome_quoteIdentifier (quote quote' : Char) (name : Text) :
    SameOutcome (fun _ _ => True) (quoteIdentifier quote name) (quoteIdentifier quote' name) := by
  have hpart : ∀ part ∈ Text.pieces '.' name, SameOutcome (fun _ _ => True)
      (quotePart quote name part) (quotePart quote' name part) := by
    intro part _
    unfold quotePart
    split
    · exact .error _
    · split
      · exact .error _
      · exact .ok trivial
  exact (SameOutcome.mapM hpart).map fun _ _ _ => trivial

/-- PostgreSQL and SQLite differ in casts and truth values only. -/
theorem ask_sqlite_eq {call : EscaperCall} (hcast : ∀ name kind, call ≠ .cast name kind)
    (hbool : ∀ b, call ≠ .literal (.bool b)) :
    Postgres.escaper.ask call = Sqlite.escaper.ask call := by
  cases call with
  | column name => rfl
  | cast name kind => exact absurd rfl (hcast name kind)
  | string s => rfl
  | literal v =>
      cases v with
      | bool b => exact absurd rfl (hbool b)
      | _ => rfl

/-- PostgreSQL and SQLite refuse the same, for the same reasons. -/
theorem ask_sqlite (call : EscaperCall) :
    SameOutcome (fun _ _ => True) (Postgres.escaper.ask call) (Sqlite.escaper.ask call) := by
  have hrefl := SameOutcome.refl (R := fun _ _ => True) (fun _ => trivial)
    (Postgres.escaper.ask call)
  cases call with
  | cast name kind => exact (sameOutcome_quoteIdentifier '"' '"' name).map fun _ _ _ => trivial
  | literal v =>
      cases v with
      | bool b => exact .ok trivial
      | _ => exact hrefl
  | _ => exact hrefl

/-- MySQL refuses what PostgreSQL does, for the same reasons, except for a text with a NUL. -/
theorem ask_mysql (call : EscaperCall) :
    SameOutcome (fun _ _ => True) (Postgres.escaper.ask call) (MySql.escaper.ask call) ∨
      Postgres.escaper.ask call = .error .nulInString ∧ ∃ s, MySql.escaper.ask call = .ok s := by
  have hstring : ∀ s, SameOutcome (fun _ _ => True) (doubleSingleQuotes s)
      (MySql.escaper.string s) ∨ doubleSingleQuotes s = .error .nulInString := by
    intro s
    unfold doubleSingleQuotes
    split
    · exact .inr rfl
    · exact .inl (.ok trivial)
  cases call with
  | column name => exact .inl (sameOutcome_quoteIdentifier _ _ name)
  | cast name kind =>
      exact .inl ((sameOutcome_quoteIdentifier _ _ name).map fun _ _ _ => trivial)
  | string s => exact (hstring s).imp_right fun hnul => ⟨hnul, _, rfl⟩
  | literal v =>
      cases v with
      | string s =>
          rcases hstring s with hsame | hnul
          · exact .inl (hsame.map fun _ _ _ => trivial)
          · have hrefused : Postgres.escaper.ask (.literal (.string s)) = .error .nulInString :=
              congrArg (Except.map inQuotes) hnul
            exact .inr ⟨hrefused, _, rfl⟩
      | bool b => exact .inl (.ok trivial)
      | _ => exact .inl (SameOutcome.refl (fun _ => trivial) _)

/-! ### Escapers that answer alike -/

section Alike

variable {e e' : Escaper}

theorem askAll_congr {calls : List EscaperCall}
    (h : ∀ call ∈ calls, SameOutcome (fun _ _ => True) (e.ask call) (e'.ask call)) :
    e.askAll calls = e'.askAll calls := by
  induction calls with
  | nil => rfl
  | cons call calls ih =>
      rw [List.forall_mem_cons] at h
      rw [Escaper.askAll, Escaper.askAll, ih h.2]
      have hcall := h.1
      generalize e.ask call = answer, e'.ask call = answer' at hcall
      cases hcall <;> rfl

theorem render_column_congr {column : Column} (h : e.ask column.call = e'.ask column.call) :
    column.render e = column.render e' := by
  unfold Column.call at h
  unfold Column.render
  cases hcast : column.cast with
  | none =>
      rw [hcast] at h
      exact congrArg escaped h
  | some kind =>
      rw [hcast] at h
      exact congrArg escaped h

theorem render_value_congr {v : Value} (h : e.ask v.call = e'.ask v.call) :
    v.render e = v.render e' := by
  unfold Value.call at h
  unfold Value.render
  cases href : v.fieldReference? with
  | none =>
      rw [href] at h
      exact congrArg escaped h
  | some identifier =>
      rw [href] at h
      exact render_column_congr h

theorem render_comparison_congr {op : Operator} {operand : Operand}
    (hshape : Operand.Shape op operand) (h : ∀ call ∈ operand.calls op, e.ask call = e'.ask call)
    (column : Text) :
    renderComparison e column op operand = renderComparison e' column op operand := by
  have hvalues : op ≠ .like → ∀ v ∈ operand.values, v.render e = v.render e' := by
    intro hop v hv
    rw [Operand.calls_of_ne_like hop, List.forall_mem_map] at h
    exact render_value_congr (h v hv)
  cases hshape with
  | isNull => rfl
  | isNotNull => rfl
  | between low high =>
      have hbounds := hvalues (by decide)
      simp only [Operand.values, List.forall_mem_cons] at hbounds
      simp only [renderComparison, hbounds.1, hbounds.2.1]
  | list v vs =>
      have hitems : (v :: vs).mapM (Value.render e) = (v :: vs).mapM (Value.render e') :=
        mapM_congr (hvalues (by decide))
      simp only [renderComparison, hitems]
  | subquery _ => rfl
  | @like v _ =>
      have hpattern : e.string v.plainText = e'.string v.plainText :=
        h (.string v.plainText) (by simp [Operand.calls, Operand.values])
      simp only [renderComparison, likePattern, hpattern]
  | plain v hop =>
      have hlike : op ≠ .like := by
        rintro rfl
        exact absurd hop (by decide)
      rw [renderComparison_plain hop, renderComparison_plain hop,
        hvalues hlike v (by simp [Operand.values])]

theorem render_condition_congr {c : Condition} (hbuilt : c.Built)
    (h : ∀ call ∈ c.calls, e.ask call = e'.ask call) : c.render e = c.render e' := by
  have hcolumns : c.columns.mapM (c.renderColumn e) = c.columns.mapM (c.renderColumn e') := by
    refine mapM_congr fun column hcolumn => ?_
    have hcalls := fun call hcall => h call (List.mem_flatMap.2 ⟨column, hcolumn, hcall⟩)
    rw [List.forall_mem_cons] at hcalls
    unfold Condition.renderColumn
    rw [render_column_congr hcalls.1]
    exact congrArg _ (funext fun written => render_comparison_congr hbuilt.shape hcalls.2 written)
  unfold Condition.render
  rw [hcolumns]

namespace Node

theorem renderRest_congr {nodes : List Node} (h : ∀ node ∈ nodes, node.render e = node.render e') :
    renderRest e nodes = renderRest e' nodes := by
  induction nodes with
  | nil => rw [renderRest, renderRest]
  | cons node nodes ih =>
      rw [List.forall_mem_cons] at h
      rw [renderRest_cons, renderRest_cons, h.1, ih h.2]

theorem joinAll_congr_of_render {nodes : List Node}
    (h : ∀ node ∈ nodes, node.render e = node.render e') : joinAll e nodes = joinAll e' nodes := by
  cases nodes with
  | nil => rw [joinAll, joinAll]
  | cons node nodes =>
      rw [List.forall_mem_cons] at h
      rw [joinAll_cons, joinAll_cons, h.1, renderRest_congr h.2]

theorem render_congr {node : Node} (hbuilt : node.Built)
    (h : ∀ c ∈ node.conditions, ∀ call ∈ c.calls, e.ask call = e'.ask call) :
    node.render e = node.render e' := by
  induction node using Node.induction with
  | condition j c =>
      rw [render, render]
      exact render_condition_congr (built_condition.1 hbuilt) (h c (by simp))
  | group j children ih =>
      rw [conditions_group, forall_mem_conditionsAll] at h
      rw [render, render, joinAll_congr_of_render fun child hchild =>
        ih child hchild ((built_group.1 hbuilt).2 child hchild) (h child hchild)]

/-- Escapers that answer all the questions of a sequence alike render it to the same text. -/
theorem joinAll_congr {nodes : List Node} (hbuilt : ∀ node ∈ nodes, node.Built)
    (h : ∀ c ∈ conditionsAll nodes, ∀ call ∈ c.calls, e.ask call = e'.ask call) :
    joinAll e nodes = joinAll e' nodes :=
  joinAll_congr_of_render fun node hnode =>
    render_congr (hbuilt node hnode) (forall_mem_conditionsAll.1 h node hnode)

end Node

end Alike

/-! ### What PostgreSQL and SQLite have in common -/

/-- No column is cast, and outside LIKE no value is a truth value or refers to a cast column. -/
structure Condition.Common (c : Condition) : Prop where
  columns : ∀ column ∈ c.columns, column.cast = none
  /-- A value is a literal but no truth value, or refers to a column that stands for itself. -/
  values : c.operator ≠ .like → ∀ v ∈ c.operand.values, (∀ b, v ≠ .bool b) ∧
    ∀ identifier, v.fieldReference? = some identifier → (Column.ofIdentifier identifier).cast = none

theorem Column.call_of_uncast {column : Column} (h : column.cast = none) :
    column.call = .column column.name := by
  rw [Column.call, h]

/-- Such a condition asks for nothing that PostgreSQL and SQLite answer differently. -/
theorem Condition.Common.ask_eq {c : Condition} (h : c.Common) :
    ∀ call ∈ c.calls, Postgres.escaper.ask call = Sqlite.escaper.ask call := by
  have hcolumn : ∀ column : Column, column.cast = none →
      Postgres.escaper.ask column.call = Sqlite.escaper.ask column.call := by
    intro column hcast
    rw [Column.call_of_uncast hcast]
    rfl
  intro call hcall
  obtain ⟨column, hmem, hcall⟩ := List.mem_flatMap.1 hcall
  rcases List.mem_cons.1 hcall with rfl | hcall
  · exact hcolumn column (h.columns column hmem)
  by_cases hlike : c.operator = .like
  · rw [hlike, Operand.calls, List.mem_map] at hcall
    obtain ⟨v, -, rfl⟩ := hcall
    rfl
  · rw [Operand.calls_of_ne_like hlike, List.mem_map] at hcall
    obtain ⟨v, hv, rfl⟩ := hcall
    obtain ⟨hbool, hreference⟩ := h.values hlike v hv
    unfold Value.call
    cases hfield : v.fieldReference? with
    | some identifier => exact hcolumn _ (hreference identifier hfield)
    | none => exact ask_sqlite_eq (by simp) (by simpa using hbool)

/-! ### The main theorem -/

namespace Node

/-- PostgreSQL and SQLite render the same sequences, and fail with the same errors.  MySQL renders
what they render, and otherwise only what they refuse for a NUL in a text.  PostgreSQL and SQLite
render to the same text, unless there are casts, or truth values outside LIKE. -/
theorem joinAll_agrees {nodes : List Node} (hbuilt : ∀ node ∈ nodes, node.Built) :
    SameOutcome (fun _ _ => True) (joinAll Dialect.postgres.escaper nodes)
        (joinAll Dialect.sqlite.escaper nodes) ∧
      ((∃ sql, joinAll Dialect.postgres.escaper nodes = .ok sql) →
        ∃ sql, joinAll Dialect.mysql.escaper nodes = .ok sql) ∧
      (∀ err, joinAll Dialect.postgres.escaper nodes = .error err →
        (∃ sql, joinAll Dialect.mysql.escaper nodes = .ok sql) → err = .escape .nulInString) ∧
      ((∀ c ∈ conditionsAll nodes, c.Common) →
        joinAll Dialect.postgres.escaper nodes = joinAll Dialect.sqlite.escaper nodes) := by
  -- the questions are the same for every dialect, and their answers settle the outcome
  have hfollows : ∀ d : Dialect, Follows d.escaper (joinAll d.escaper nodes) (calls nodes) :=
    fun d => follows_joinAll fun node hnode => follows_render (hbuilt node hnode)
  have hok : ∀ d : Dialect, (∃ sql, joinAll d.escaper nodes = .ok sql) ↔
      ∀ call ∈ calls nodes, ∃ s, d.escaper.ask call = .ok s := by
    intro d
    rw [← askAll_eq_ok]
    exact (hfollows d).exists_ok_iff.trans ⟨fun ⟨_, h⟩ => h, fun h => ⟨(), h⟩⟩
  refine ⟨?_, ?_, ?_, ?_⟩
  · have hasked : Postgres.escaper.askAll (calls nodes) = Sqlite.escaper.askAll (calls nodes) :=
      askAll_congr fun call _ => ask_sqlite call
    have hpostgres : SameOutcome (fun _ _ => True) (joinAll Dialect.postgres.escaper nodes)
        (Postgres.escaper.askAll (calls nodes)) := hfollows .postgres
    rw [hasked] at hpostgres
    exact hpostgres.of_common (hfollows .sqlite)
  · rw [hok, hok]
    intro h call hcall
    rcases ask_mysql call with hsame | ⟨-, hanswer⟩
    · exact hsame.exists_ok_iff.1 (h call hcall)
    · exact hanswer
  · intro err herr hmysql
    obtain ⟨before, call, after, refusal, hcalls, -, hrefused, rfl⟩ :=
      askAll_eq_error.1 ((hfollows .postgres).eq_error_iff.1 herr)
    -- the first question that PostgreSQL refuses is one that MySQL answers
    have hanswer := (hok .mysql).1 hmysql call (by simp [hcalls])
    rcases ask_mysql call with hsame | ⟨hnul, -⟩
    · obtain ⟨s, hs⟩ := hsame.exists_ok_iff.2 hanswer
      rw [Dialect.escaper, hs] at hrefused
      cases hrefused
    · rw [Dialect.escaper, hnul] at hrefused
      cases hrefused
      rfl
  · exact fun hcommon => joinAll_congr hbuilt fun c hc => (hcommon c hc).ask_eq

/-- A text with a NUL and, in the same list, a column that is not cast; a truth value as a
pattern. -/
theorem joinAll_agrees_nul :
    let nodes : List Node := [
      .condition .and ⟨"a|t.b", [⟨"a", none⟩, ⟨"t.b", none⟩], .isIn,
        .list [.int 1, .string "field:c", .string ['x', nul]]⟩,
      .group .or [.condition .and ⟨"d", [⟨"d", none⟩], .like, .scalar (.bool true)⟩]]
    (∀ node ∈ nodes, node.Built) ∧ (∀ c ∈ conditionsAll nodes, c.Common) ∧
      (∃ sql, joinAll Dialect.mysql.escaper nodes = .ok sql) ∧
      joinAll Dialect.postgres.escaper nodes = .error (.escape .nulInString) ∧
      joinAll Dialect.sqlite.escaper nodes = .error (.escape .nulInString) := by
  intro nodes
  have hbuilt : ∀ node ∈ nodes, node.Built := by
    simp only [nodes, List.forall_mem_cons, built_group, built_condition]
    exact ⟨rfl, ⟨by simp, rfl, by simp⟩, by simp⟩
  have hcommon : ∀ c ∈ conditionsAll nodes, c.Common := by
    simp only [nodes, conditionsAll_cons, conditions_condition, conditions_group, conditionsAll_nil,
      List.append_nil, List.singleton_append, List.forall_mem_cons]
    refine ⟨⟨by simp, fun _ => ?_⟩, ⟨by simp, fun h => absurd rfl h⟩, by simp⟩
    simp only [Operand.values, List.forall_mem_cons]
    refine ⟨⟨by simp, ?_⟩, ⟨by simp, ?_⟩, ⟨by simp, ?_⟩, by simp⟩
    · rintro _ ⟨⟩
    · rintro _ ⟨⟩
      rfl
    · rintro _ ⟨⟩
  have hmysql : ∃ sql, joinAll Dialect.mysql.escaper nodes = .ok sql := ⟨_, rfl⟩
  obtain ⟨err, hpostgres⟩ : ∃ err, joinAll Dialect.postgres.escaper nodes = .error err := ⟨_, rfl⟩
  obtain ⟨-, -, hnul, hsame⟩ := joinAll_agrees hbuilt
  obtain rfl := hnul err hpostgres hmysql
  exact ⟨hbuilt, hcommon, hmysql, hpostgres, hsame hcommon ▸ hpostgres⟩

end Node

end WhereClause
