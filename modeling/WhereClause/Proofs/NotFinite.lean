import WhereClause.Proofs.Composition
import WhereClause.Proofs.Refusal

/-!
# Numbers without a literal

Neither NaN nor an infinity has a literal in SQL, and an escaper that is asked for one refuses.  So
wherever a value is written as a literal, a single such number ends the whole rendering.  A pattern
is no literal: it is put together from the text of its value, and these numbers have a text.  As
patterns they are rendered like the texts `NaN`, `inf` and `-inf`.

Main definitions:

* `Condition.spellPattern`, `Node.spellPatterns`: the text of each pattern in the place of its
  value.

Main results:

* `Node.exists_refusal`: a number without a literal ends the rendering, whatever the escaper;
* `Node.joinAll_spellPatterns`: a pattern is rendered as its text is;
* `Node.joinAll_notFinite`: **both, for each dialect**.
-/

set_option autoImplicit false

namespace WhereClause

/-! ### Patterns as texts -/

/-- The condition with the text of its pattern in the place of its value. -/
def Condition.spellPattern (c : Condition) : Condition :=
  match c.operator, c.operand with
  | .like, .scalar v => { c with operand := .scalar (.string v.plainText) }
  | _, _ => c

theorem Condition.render_spellPattern (e : Escaper) (c : Condition) :
    c.spellPattern.render e = c.render e := by
  obtain ⟨fields, columns, op, operand⟩ := c
  unfold spellPattern
  split
  · rename_i v hop hoperand
    obtain rfl : op = .like := hop
    obtain rfl : operand = .scalar v := hoperand
    rfl
  · rfl

namespace Node

mutual

def spellPatterns : Node → Node
  | condition j c => condition j c.spellPattern
  | group j children => group j (spellEach children)

def spellEach : List Node → List Node
  | [] => []
  | node :: nodes => spellPatterns node :: spellEach nodes

end

theorem spellEach_eq_map (nodes : List Node) : spellEach nodes = nodes.map spellPatterns := by
  induction nodes with
  | nil => rw [spellEach, List.map_nil]
  | cons node nodes ih => rw [spellEach, List.map_cons, ih]

theorem joiner_spellPatterns (node : Node) : node.spellPatterns.joiner = node.joiner := by
  cases node with
  | condition j c => rw [spellPatterns, joiner, joiner]
  | group j children => rw [spellPatterns, joiner, joiner]

theorem render_spellPatterns (e : Escaper) (node : Node) :
    node.spellPatterns.render e = node.render e := by
  induction node using Node.induction with
  | condition j c => rw [spellPatterns, render, render, Condition.render_spellPattern]
  | group j children ih =>
      rw [spellPatterns, render, render, spellEach_eq_map, joinAll_map e ih joiner_spellPatterns]

/-- A pattern is rendered as its text is. -/
theorem joinAll_spellPatterns (e : Escaper) (nodes : List Node) :
    joinAll e (nodes.map spellPatterns) = joinAll e nodes :=
  joinAll_map e (fun node _ => render_spellPatterns e node) joiner_spellPatterns

/-! ### Literals -/

/-- Outside LIKE, a sequence asks for a literal of each of its numbers. -/
theorem literal_mem_calls {nodes : List Node} (hbuilt : ∀ node ∈ nodes, node.Built) {c : Condition}
    (hc : c ∈ conditionsAll nodes) (hop : c.operator ≠ .like) {x : Binary64}
    (hx : .float x ∈ c.operand.values) : .literal (.float x) ∈ calls nodes := by
  obtain ⟨node, hnode, hmem⟩ := mem_conditionsAll.1 hc
  have hcondition := built_of_mem_conditions (hbuilt node hnode) hmem
  obtain ⟨column, columns, hcolumns⟩ :=
    List.exists_cons_of_ne_nil (Condition.columns_ne_nil hcondition)
  have hvalue : .literal (.float x) ∈ c.operand.calls c.operator := by
    rw [Operand.calls_of_ne_like hop]
    exact List.mem_map.2 ⟨.float x, hx, rfl⟩
  refine List.mem_flatMap.2 ⟨c, hc, List.mem_flatMap.2 ⟨column, ?_, List.mem_cons_of_mem _ hvalue⟩⟩
  rw [hcolumns]
  exact List.mem_cons_self

/-- Outside LIKE, a number without a literal ends the rendering. -/
theorem exists_refusal (e : Escaper) {nodes : List Node} (hbuilt : ∀ node ∈ nodes, node.Built)
    {c : Condition} (hc : c ∈ conditionsAll nodes) (hop : c.operator ≠ .like) {x : Binary64}
    (hx : .float x ∈ c.operand.values) (hfinite : x.isFinite = false) :
    ∃ refusal, joinAll e nodes = .error (.escape refusal) := by
  have hfollows := follows_joinAll fun node hnode => follows_render (e := e) (hbuilt node hnode)
  cases hrender : joinAll e nodes with
  | ok sql =>
      -- every question would have been answered, and this one is not
      obtain ⟨⟨⟩, hanswered⟩ := hfollows.exists_ok_iff.1 ⟨sql, hrender⟩
      obtain ⟨s, hs⟩ := askAll_eq_ok.1 hanswered _ (literal_mem_calls hbuilt hc hop hx)
      simp [Escaper.ask, Escaper.literal, hfinite] at hs
  | error err =>
      obtain ⟨-, -, -, refusal, -, -, -, rfl⟩ :=
        askAll_eq_error.1 (hfollows.eq_error_iff.1 hrender)
      exact ⟨refusal, rfl⟩

/-! ### The main theorem -/

/-- In each dialect, a number that is not finite ends the rendering unless it is a pattern, and a
pattern is rendered as its text is, also if it is such a number. -/
theorem joinAll_notFinite (d : Dialect) {nodes : List Node} (hbuilt : ∀ node ∈ nodes, node.Built) :
    ((∃ c ∈ conditionsAll nodes, c.operator ≠ .like ∧
        ∃ x, .float x ∈ c.operand.values ∧ x.isFinite = false) →
      ∃ refusal, joinAll d.escaper nodes = .error (.escape refusal)) ∧
      joinAll d.escaper nodes = joinAll d.escaper (nodes.map spellPatterns) := by
  refine ⟨?_, (joinAll_spellPatterns d.escaper nodes).symm⟩
  rintro ⟨c, hc, hop, x, hx, hfinite⟩
  exact exists_refusal d.escaper hbuilt hc hop hx hfinite

/-- An infinite bound in a group, and NaN as a pattern in front of it. -/
theorem joinAll_notFinite_bound :
    let pattern : Node := .condition .and ⟨"a", [⟨"a", none⟩], .like, .scalar (.float .nan)⟩
    let bounds : Node := .group .or
      [.condition .and ⟨"b", [⟨"b", none⟩], .between, .range (.int 1) (.float (.infinite false))⟩]
    (∀ node ∈ [pattern, bounds], node.Built) ∧
      (∃ refusal, joinAll Dialect.sqlite.escaper [pattern, bounds] = .error (.escape refusal)) ∧
      joinAll Dialect.sqlite.escaper [pattern] = .ok "LOWER(\"a\") LIKE LOWER('%NaN%')" := by
  intro pattern bounds
  have hbuilt : ∀ node ∈ [pattern, bounds], node.Built := by
    simp only [pattern, bounds, List.forall_mem_cons, built_group, built_condition]
    exact ⟨rfl, ⟨by simp, rfl, by simp⟩, by simp⟩
  have hpattern := (List.forall_mem_cons.1 hbuilt).1
  refine ⟨hbuilt, (joinAll_notFinite .sqlite hbuilt).1 ?_, ?_⟩
  · refine ⟨⟨"b", [⟨"b", none⟩], .between, .range (.int 1) (.float (.infinite false))⟩, ?_, by simp,
      .infinite false, by simp [Operand.values], rfl⟩
    simp [pattern, bounds]
  · exact (joinAll_notFinite .sqlite (List.forall_mem_singleton.2 hpattern)).2.trans rfl

/-- Not every sequence that holds such a number is refused. -/
theorem not_joinAll_notFinite :
    ¬∀ (d : Dialect) (nodes : List Node), (∀ node ∈ nodes, node.Built) →
      (∃ c ∈ conditionsAll nodes, ∃ x, .float x ∈ c.operand.values ∧ x.isFinite = false) →
        ∃ refusal, joinAll d.escaper nodes = .error (.escape refusal) := by
  intro h
  let c : Condition := ⟨"a", [⟨"a", none⟩], .like, .scalar (.float .nan)⟩
  have hbuilt : ∀ node ∈ [Node.condition .and c], node.Built :=
    List.forall_mem_singleton.2 (built_condition.2 rfl)
  obtain ⟨refusal, hrefused⟩ := h .postgres [.condition .and c] hbuilt
    ⟨c, by simp, .nan, by simp [c, Operand.values], rfl⟩
  have hrendered : joinAll Dialect.postgres.escaper [.condition .and c] =
      .ok "LOWER(\"a\") LIKE LOWER('%NaN%')" := rfl
  have hboth := hrendered.symm.trans hrefused
  cases hboth

end Node

end WhereClause
