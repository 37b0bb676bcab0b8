import WhereClause.Proofs.Derivation
import WhereClause.Proofs.ParseWritten
import WhereClause.Proofs.Reload

/-!
# Saving what was parsed

What the shorthand accepts can be saved and loaded again within two limits that the shorthand itself
does not have.  It allows 128 groups inside each other, of which JSON holds only 62; and it reads
any decimal number, of which those beyond the largest finite one are saved as null.  Every other
value that can be written has a form in JSON, as days and times cannot be written.

Main definitions:

* `Node.bracketed`, `Text.bracketed`: a node inside more groups, a text inside more brackets.

Main results:

* `Node.load_save_eq_self`: what loads as itself;
* `Shorthand.parse_bracketed`: a sentence in brackets stands for its node in groups;
* `Shorthand.load_save_of_parse`: **what was parsed loads as itself if and only if there are no more
  than 62 groups inside each other and every number is finite**, provided that JSON reads the finite
  ones back;
* `Shorthand.load_save_bracketed`: what is nested deeper is parsed and saved, but does not load.
-/

set_option autoImplicit false

namespace WhereClause

/-! ### What loads as itself -/

namespace Node

theorem reloadedAll_eq_self {nodes : List Node} :
    reloadedAll nodes = nodes ↔ ∀ node ∈ nodes, node.IsJson := by
  rw [reloadedAll_eq_map]
  constructor
  · intro h node hnode
    have hsame : node.reloaded = node :=
      List.map_inj_left.1 (h.trans (List.map_id nodes).symm) node hnode
    rw [← hsame]
    exact node.isJson_reloaded
  · intro h
    exact (List.map_congr_left fun node hnode => reloaded_of_isJson (h node hnode)).trans
      (List.map_id nodes)

/-- A number that JSON has a form for stays a pattern. -/
theorem keepsPattern_of_isJson {node : Node} (h : node.IsJson) :
    ∀ c ∈ node.conditions, c.KeepsPattern := by
  intro c hc _ x hx
  exact h c hc (.float x) (by simp [hx, Operand.values])

/-- A sequence loads as itself if it is not nested too deep and JSON has a form for all values. -/
theorem load_save_eq_self {nodes : List Node} (h : ∀ node ∈ nodes, node.Built)
    (hread : ∀ c ∈ conditionsAll nodes, c.ReadsBack) :
    Document.load (save nodes) = .ok nodes ↔
      nestingAll nodes ≤ 62 ∧ ∀ node ∈ nodes, node.IsJson := by
  rw [load_save_eq_ok h hread, @eq_comm _ nodes, reloadedAll_eq_self]
  constructor
  · rintro ⟨hdepth, -, hjson⟩
    exact ⟨hdepth, hjson⟩
  · rintro ⟨hdepth, hjson⟩
    refine ⟨hdepth, ?_, hjson⟩
    rw [forall_mem_conditionsAll]
    exact fun node hnode => keepsPattern_of_isJson (hjson node hnode)

end Node

/-! ### Brackets -/

def Node.bracketed : Nat → Node → Node
  | 0, node => node
  | n + 1, node => .group .and [bracketed n node]

def Text.bracketed (n : Nat) (s : Text) : Text :=
  List.replicate n '(' ++ s ++ List.replicate n ')'

theorem Text.bracketed_succ (n : Nat) (s : Text) :
    bracketed (n + 1) s = '(' :: (bracketed n s ++ [')']) := by
  simp only [bracketed, List.replicate_succ' (a := ')'), List.replicate_succ (a := '('),
    List.cons_append, List.append_assoc]

namespace Node

theorem nesting_bracketed (n : Nat) (node : Node) :
    (bracketed n node).nesting = n + node.nesting := by
  induction n with
  | zero => simp [bracketed]
  | succ n ih =>
      rw [bracketed, nesting_group, nestingAll_cons, nestingAll_nil, ih]
      omega

theorem joiner_bracketed (n : Nat) {node : Node} (h : node.joiner = .and) :
    (bracketed n node).joiner = .and := by
  cases n with
  | zero => exact h
  | succ n => rfl

theorem conditions_bracketed (n : Nat) (node : Node) :
    (bracketed n node).conditions = node.conditions := by
  induction n with
  | zero => rfl
  | succ n ih => simp [bracketed, ih]

theorem isSentence_bracketed (n : Nat) {node : Node} (h : node.IsSentence)
    (hand : node.joiner = .and) : (bracketed n node).IsSentence := by
  induction n with
  | zero => exact h
  | succ n ih =>
      refine ⟨?_, ?_, ?_⟩
      · exact built_group.2 ⟨List.cons_ne_nil _ _, by simpa using ih.built⟩
      · exact .group .and (by simpa using joiner_bracketed n hand) (by simpa using ih.led)
      · rw [conditions_bracketed]
        exact h.conditions

end Node

namespace Shorthand

theorem spells_bracketed (n : Nat) {node : Node} {s : Text} (h : Spells node.written s) :
    Spells (Node.bracketed n node).written (Text.bracketed n s) := by
  induction n with
  | zero => simpa [Node.bracketed, Text.bracketed] using h
  | succ n ih =>
      rw [Node.bracketed, Node.written_group, Text.bracketed_succ, Node.writtenAll,
        Node.writtenRest, List.append_nil]
      have hclose : Spells [.verbatim [')']] [')'] := Piece.Spells.spells rfl
      exact Piece.Spells.append (s := ['(']) rfl (spells_append.2 ⟨_, _, rfl, ih, hclose⟩)

/-- Every pair of brackets around a sentence makes a group. -/
theorem parse_bracketed {node : Node} (hnode : node.IsSentence) (hand : node.joiner = .and)
    {s : Text} (hs : Spells node.written s) {n : Nat} (hn : n + node.nesting ≤ 128) :
    parse (Text.bracketed n s) = .ok [node.bracketed n] := by
  refine parse_of_isSentence ?_ ?_ ?_ ?_
  · simpa using Node.isSentence_bracketed n hnode hand
  · simpa using Node.joiner_bracketed n hand
  · simpa [Node.nesting_bracketed] using hn
  · rw [Node.writtenAll, Node.writtenRest, List.append_nil]
    exact spells_bracketed n hs

/-! ### Values that were parsed -/

/-- JSON has a form for every value that can be written, save for numbers that are not finite. -/
theorem isJson_of_literal {v : Value} {s rest : Text} (h : Grammar.Literal v s rest) :
    v.isJson = true ↔ ∀ x, v = .float x → x.isFinite = true := by
  cases h with
  | number h => cases h <;> simp [Value.isJson]
  | _ => simp [Value.isJson]

/-- Every value in what was parsed was written as one. -/
theorem exists_literal_of_parse {s : Text} {nodes : List Node} (h : parse s = .ok nodes) :
    ∀ c ∈ Node.conditionsAll nodes, ∀ v ∈ c.operand.values, ∃ t u, Grammar.Literal v t u := by
  obtain ⟨-, rfl⟩ | ⟨-, drafts, rest, hread, -, hbuild⟩ := parse_eq_ok.1 h
  · simp
  · exact (sequence_derives (term_derives maxDepth) hread hbuild).exists_literal

theorem isJson_of_parse {s : Text} {nodes : List Node} (h : parse s = .ok nodes) :
    (∀ node ∈ nodes, node.IsJson) ↔
      ∀ c ∈ Node.conditionsAll nodes, ∀ x, .float x ∈ c.operand.values → x.isFinite = true := by
  have hjson : (∀ node ∈ nodes, node.IsJson) ↔
      ∀ c ∈ Node.conditionsAll nodes, ∀ v ∈ c.operand.values, v.isJson = true :=
    Node.forall_mem_conditionsAll.symm
  rw [hjson]
  constructor
  · intro h c hc x hx
    exact h c hc _ hx
  · intro hfinite c hc v hv
    obtain ⟨t, u, hliteral⟩ := exists_literal_of_parse h c hc v hv
    refine (isJson_of_literal hliteral).2 fun x hx => ?_
    exact hfinite c hc x (hx ▸ hv)

/-! ### The round trip -/

/-- What was parsed is saved as a text that loads as the same nodes, unless there are more than 62
groups inside each other or a number is not finite; all this if the finite numbers are read back. -/
theorem load_save_of_parse {s : Text} {nodes : List Node} (h : parse s = .ok nodes)
    (hread : ∀ c ∈ Node.conditionsAll nodes, c.ReadsBack) :
    Document.load (Node.save nodes) = .ok nodes ↔
      Node.nestingAll nodes ≤ 62 ∧
        ∀ c ∈ Node.conditionsAll nodes, ∀ x, .float x ∈ c.operand.values → x.isFinite = true := by
  rw [Node.load_save_eq_self (built_of_parse h) hread, isJson_of_parse h]

set_option maxRecDepth 4000 in
/-- A group of a number with a point and a list. -/
theorem load_save_of_parse_group :
    let s : Text := "(a > -0.0 OR b in (x, 2))"
    let nodes : List Node := [.group .and [
      .condition .and ⟨"a", [⟨"a", none⟩], .greater,
        .scalar (.float (.finite true Magnitude.zero))⟩,
      .condition .or ⟨"b", [⟨"b", none⟩], .isIn, .list [.string "x", .int 2]⟩]]
    parse s = .ok nodes ∧ (∀ c ∈ Node.conditionsAll nodes, c.ReadsBack) ∧
      Document.load (Node.save nodes) = .ok nodes := by
  intro s nodes
  have hparse : parse s = .ok nodes := by
    subst s nodes
    cbv
  have hread : ∀ c ∈ Node.conditionsAll nodes, c.ReadsBack := by
    have hzero : Json.ReadsBack (.finite true Magnitude.zero) :=
      Json.readsBack_of_short (Magnitude.shortest_zero .even) (by decide) (by decide)
    simp [nodes, Condition.ReadsBack, Operand.values, Binary64.isFinite, hzero]
  have hdepth : Node.nestingAll nodes ≤ 62 := by simp [nodes]
  refine ⟨hparse, hread, (load_save_of_parse hparse hread).2 ⟨hdepth, ?_⟩⟩
  simp [nodes, Operand.values, Binary64.isFinite]

/-- No floating point number can be written in a sentence. -/
theorem readsBack_bracketed {node : Node} (hnode : node.IsSentence) (n : Nat) :
    ∀ c ∈ Node.conditionsAll [node.bracketed n], c.ReadsBack := by
  rw [Node.conditionsAll_cons, Node.conditionsAll_nil, List.append_nil, Node.conditions_bracketed]
  intro c hc x hx
  cases (hnode.conditions c hc).values _ hx

/-- A sentence that is nested deeper than JSON can hold is parsed and saved, but does not load. -/
theorem load_save_bracketed {node : Node} (hnode : node.IsSentence) (hand : node.joiner = .and)
    {s : Text} (hs : Spells node.written s) {n : Nat} (hlow : 62 < n + node.nesting)
    (hhigh : n + node.nesting ≤ 128) :
    parse (Text.bracketed n s) = .ok [node.bracketed n] ∧
      ∀ loaded, Document.load (Node.save [node.bracketed n]) ≠ .ok loaded := by
  refine ⟨parse_bracketed hnode hand hs hhigh, fun loaded hload => ?_⟩
  have hbuilt : ∀ other ∈ [node.bracketed n], other.Built := by
    simpa using (Node.isSentence_bracketed n hnode hand).built
  obtain ⟨hdepth, -⟩ := (Node.load_save_eq_ok hbuilt (readsBack_bracketed hnode n)).1 hload
  rw [Node.nestingAll_cons, Node.nestingAll_nil, Node.nesting_bracketed] at hdepth
  omega

/-- Not everything that is parsed can be saved and loaded. -/
theorem not_load_save_of_parse :
    let s : Text := List.replicate 63 '(' ++ "a = 1".toList ++ List.replicate 63 ')'
    ¬ ∀ nodes, parse s = .ok nodes → (∀ c ∈ Node.conditionsAll nodes, c.ReadsBack) →
      Document.load (Node.save nodes) = .ok nodes := by
  intro s h
  let c : Condition := ⟨"a", [⟨"a", none⟩], .equal, .scalar (.int 1)⟩
  have hnode : (Node.condition .and c).IsSentence := by
    refine ⟨Node.built_condition.2 rfl, .condition .and c, ?_⟩
    rw [Node.conditions_condition, List.forall_mem_singleton]
    exact ⟨List.all_eq_true.1 rfl, by simp [c, Operand.values, Value.isLiteral], by simp [c]⟩
  have hs : Spells (Node.condition .and c).written "a = 1" := by
    have hgap : IsGap [' '] := ⟨by simp, List.all_eq_true.1 rfl⟩
    have htexts : "a = 1".toList = [['a'], [' '], ['='], [' '], ['1']].flatten := rfl
    rw [htexts]
    exact spells_flatten (.cons rfl (.cons hgap (.cons rfl (.cons hgap (.cons rfl .nil)))))
  obtain ⟨hparse, hload⟩ := load_save_bracketed hnode rfl hs (n := 63) (by simp) (by simp)
  exact hload _ (h _ hparse (readsBack_bracketed hnode 63))

end Shorthand

end WhereClause
