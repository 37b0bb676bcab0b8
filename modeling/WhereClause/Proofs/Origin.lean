import WhereClause.Document.Load
import WhereClause.Node.Named
import WhereClause.Proofs.Construction
import WhereClause.Shorthand.Parse

/-!
# Where nodes come from

A node is made by a constructor, read from the shorthand or loaded from a document, and a group may
hold nodes of any origin.  Rendering and saving rely on what all of these nodes have in common: the
columns are those that the text names, and the operand has the one shape that the operator has.
Nothing else is common to them, since a node with these properties is built from its own parts.

Main definitions:

* `Condition.WellFormed`, `Node.WellFormed`: the common properties, at every depth;
* `Node.Arises`: the node comes to exist in one of the ways there are.

Main results:

* `Node.wellFormed_iff_built`: the well-formed nodes are those that the two basic constructors build;
* `Shorthand.parse_eq_ok`, `Document.load_eq_ok`: the stages of a text that is accepted;
* `Node.arises_iff_wellFormed`: **a node comes to exist in one of the ways there are if and only if
  it is well formed**.
-/

set_option autoImplicit false

namespace WhereClause

/-! ### Well-formed nodes -/

/-- The parts of the condition agree with each other. -/
structure Condition.WellFormed (c : Condition) : Prop where
  /-- The columns are those that the list names. -/
  columns : Column.listOfText c.fields = .ok c.columns
  columns_ne_nil : c.columns ≠ []
  name_ne_nil : ∀ column ∈ c.columns, column.name ≠ []
  shape : Operand.Shape c.operator c.operand

theorem Condition.wellFormed_iff_built {c : Condition} : c.WellFormed ↔ c.Built := by
  constructor
  · intro h
    exact ofParts_eq_ok.2 ⟨rfl, h.columns, rfl, Operand.fit_of_shape h.shape⟩
  · intro h
    refine ⟨h.columns, columns_ne_nil h, fun column hcolumn => ?_, h.shape⟩
    obtain ⟨piece, hpiece⟩ := Column.exists_ofPiece h.columns hcolumn
    exact (Column.ofPiece_eq_ok.1 hpiece).2.2

namespace Node

/-- All conditions of the node are well formed, and no group in it is empty. -/
inductive WellFormed : Node → Prop
  | condition (j : Joiner) {c : Condition} (h : c.WellFormed) : WellFormed (condition j c)
  | group (j : Joiner) {children : List Node} (hne : children ≠ [])
      (h : ∀ child ∈ children, WellFormed child) : WellFormed (group j children)

/-- The well-formed nodes are those that the two basic constructors build. -/
theorem wellFormed_iff_built {node : Node} : node.WellFormed ↔ node.Built := by
  induction node using Node.induction with
  | condition j c =>
      rw [built_condition, ← Condition.wellFormed_iff_built]
      constructor
      · rintro ⟨⟩
        assumption
      · exact WellFormed.condition j
  | group j children ih =>
      rw [built_group]
      constructor
      · intro h
        cases h with
        | group _ hne h => exact ⟨hne, fun child hchild => (ih child hchild).1 (h child hchild)⟩
      · rintro ⟨hne, h⟩
        exact .group j hne fun child hchild => (ih child hchild).2 (h child hchild)

/-! ### The ways in which nodes come to exist -/

/-- The named constructors that take an operand. -/
def comparing : List (Text → Operand → Except BuildError Node) :=
  [equalTo, orEqualTo, notEqualTo, orNotEqualTo, greaterThan, orGreaterThan, atLeast, orAtLeast,
    lessThan, orLessThan, atMost, orAtMost, isIn, orIsIn, like, orLike]

/-- The named constructors that take two bounds. -/
def bounding : List (Text → Value → Value → Except BuildError Node) :=
  [between, orBetween]

/-- The named constructors that take nothing but columns. -/
def checking : List (Text → Except BuildError Node) :=
  [isNull, orIsNull, isNotNull, orIsNotNull]

def grouping : List (List Node → Except BuildError Node) :=
  [sub, orSub]

/-- The node comes to exist in one of the ways there are. -/
inductive Arises : Node → Prop
  | comparing {make : Text → Operand → Except BuildError Node} {fields : Text} {operand : Operand}
      {node : Node} (hmake : make ∈ comparing) (h : make fields operand = .ok node) : Arises node
  | bounding {make : Text → Value → Value → Except BuildError Node} {fields : Text}
      {low high : Value} {node : Node} (hmake : make ∈ bounding)
      (h : make fields low high = .ok node) : Arises node
  | checking {make : Text → Except BuildError Node} {fields : Text} {node : Node}
      (hmake : make ∈ checking) (h : make fields = .ok node) : Arises node
  | ofParts {fields : Text} {op : Operator} {operand : Operand} {j : Joiner} {node : Node}
      (h : ofParts fields op operand j = .ok node) : Arises node
  | ofSymbol {fields : Text} {operand : Operand} {symbol : Text} {j : Joiner} {node : Node}
      (h : ofSymbol fields operand symbol j = .ok node) : Arises node
  | grouping {make : List Node → Except BuildError Node} {children : List Node} {node : Node}
      (hmake : make ∈ grouping) (hchildren : ∀ child ∈ children, Arises child)
      (h : make children = .ok node) : Arises node
  | enclose {children : List Node} {j : Joiner} {node : Node}
      (hchildren : ∀ child ∈ children, Arises child) (h : enclose children j = .ok node) :
      Arises node
  | parse {s : Text} {nodes : List Node} {node : Node} (h : Shorthand.parse s = .ok nodes)
      (hnode : node ∈ nodes) : Arises node
  | load {s : Text} {nodes : List Node} {node : Node} (h : Document.load s = .ok nodes)
      (hnode : node ∈ nodes) : Arises node

/-! ### Named constructors -/

/-- A named constructor with an operand fixes the operator and the joiner. -/
theorem exists_of_mem_comparing {make : Text → Operand → Except BuildError Node}
    (h : make ∈ comparing) :
    ∃ op j, ∀ fields operand, make fields operand = Node.ofParts fields op operand j := by
  simp only [comparing, List.mem_cons, List.not_mem_nil, or_false] at h
  rcases h with rfl | rfl | rfl | rfl | rfl | rfl | rfl | rfl | rfl | rfl | rfl | rfl | rfl | rfl |
    rfl | rfl
  all_goals exact ⟨_, _, fun _ _ => rfl⟩

theorem exists_of_mem_bounding {make : Text → Value → Value → Except BuildError Node}
    (h : make ∈ bounding) :
    ∃ j, ∀ fields low high,
      make fields low high = Node.ofParts fields .between (.range low high) j := by
  simp only [bounding, List.mem_cons, List.not_mem_nil, or_false] at h
  rcases h with rfl | rfl
  all_goals exact ⟨_, fun _ _ _ => rfl⟩

theorem exists_of_mem_checking {make : Text → Except BuildError Node} (h : make ∈ checking) :
    ∃ op j, ∀ fields, make fields = Node.ofParts fields op .none j := by
  simp only [checking, List.mem_cons, List.not_mem_nil, or_false] at h
  rcases h with rfl | rfl | rfl | rfl
  all_goals exact ⟨_, _, fun _ => rfl⟩

theorem exists_of_mem_grouping {make : List Node → Except BuildError Node} (h : make ∈ grouping) :
    ∃ j, ∀ children, make children = Node.enclose children j := by
  simp only [grouping, List.mem_cons, List.not_mem_nil, or_false] at h
  rcases h with rfl | rfl
  all_goals exact ⟨_, fun _ => rfl⟩

theorem ofSymbol_eq_ok {fields : Text} {operand : Operand} {symbol : Text} {j : Joiner}
    {node : Node} :
    Node.ofSymbol fields operand symbol j = .ok node ↔
      ∃ op, Operator.ofText? symbol = some op ∧ Node.ofParts fields op operand j = .ok node := by
  unfold Node.ofSymbol
  cases Operator.ofText? symbol <;> simp

end Node

/-! ### Texts that are accepted -/

namespace Shorthand

theorem parse_of_trim_ne_nil {s : Text} (h : Text.trim s ≠ []) :
    parse s = match sequence (term maxDepth) (Text.trim s) with
      | .done drafts rest =>
        match Text.trimStart rest with
        | [] => (Draft.buildAll drafts).mapError .invalid
        | c :: rest => .error (malformed s (c :: rest) (.trailing (c :: rest)))
      | .unmatched expected rest => .error (malformed s rest (.unmatched rest expected))
      | .tooDeep rest => .error (malformed s rest .tooDeep)
      | .insideChar => .error .insideChar :=
  if_neg h

/-- A text that is accepted is blank, or it is read to its end and its drafts are built. -/
theorem parse_eq_ok {s : Text} {nodes : List Node} :
    parse s = .ok nodes ↔
      (Text.trim s = [] ∧ nodes = []) ∨
        Text.trim s ≠ [] ∧ ∃ drafts rest,
          sequence (term maxDepth) (Text.trim s) = .done drafts rest ∧ Text.trimStart rest = [] ∧
            Draft.buildAll drafts = .ok nodes := by
  unfold parse
  dsimp only
  generalize sequence (term maxDepth) (Text.trim s) = reading
  by_cases hblank : Text.trim s = []
  · simp [hblank, @eq_comm _ [] nodes]
  · rw [if_neg hblank]
    cases reading with
    | done drafts rest =>
        cases hrest : Text.trimStart rest with
        | nil => simp [hblank, hrest, mapError_eq_ok]
        | cons c trailing => simp [hblank, hrest]
    | _ => simp [hblank]

/-- A text without white space around it that is read to its end stands for what its drafts
build. -/
theorem parse_of_read {s : Text} {drafts : List Draft} {nodes : List Node}
    (htrim : Text.trim s = s) (hne : s ≠ [])
    (hread : sequence (term maxDepth) s = .done drafts [])
    (hbuild : Draft.buildAll drafts = .ok nodes) : parse s = .ok nodes := by
  refine parse_eq_ok.2 (.inr ⟨?_, drafts, [], ?_, Text.trimStart_nil, hbuild⟩)
  · rwa [htrim]
  · rwa [htrim]

theorem Draft.buildAll_cons {draft : Draft} {drafts : List Draft} {nodes : List Node} :
    Draft.buildAll (draft :: drafts) = .ok nodes ↔
      ∃ node others, draft.build = .ok node ∧ Draft.buildAll drafts = .ok others ∧
        nodes = node :: others := by
  rw [Draft.buildAll, bind_eq_ok]
  simp only [bind_eq_ok, pure_eq_ok]
  constructor
  · rintro ⟨node, hnode, others, hothers, rfl⟩
    exact ⟨node, others, hnode, hothers, rfl⟩
  · rintro ⟨node, others, hnode, hothers, rfl⟩
    exact ⟨node, hnode, others, hothers, rfl⟩

theorem Draft.ne_nil_of_buildAll {drafts : List Draft} {nodes : List Node} (hne : drafts ≠ [])
    (h : Draft.buildAll drafts = .ok nodes) : nodes ≠ [] := by
  obtain ⟨draft, others, rfl⟩ := List.exists_cons_of_ne_nil hne
  obtain ⟨node, otherNodes, -, -, rfl⟩ := Draft.buildAll_cons.1 h
  exact List.cons_ne_nil node otherNodes

mutual

/-- What a draft stands for was built. -/
theorem Draft.built_of_build : ∀ {draft : Draft} {node : Node}, draft.build = .ok node → node.Built
  | .condition _ _ _ _, _, h => by
    rw [Draft.build] at h
    exact .ofParts h
  | .group _ _, _, h => by
    rw [Draft.build] at h
    obtain ⟨nodes, hnodes, h⟩ := bind_eq_ok.1 h
    exact .enclose (built_of_buildAll hnodes) h

theorem Draft.built_of_buildAll : ∀ {drafts : List Draft} {nodes : List Node},
    Draft.buildAll drafts = .ok nodes → ∀ node ∈ nodes, node.Built
  | [], _, h => by
    rw [Draft.buildAll] at h
    cases h
    simp
  | draft :: drafts, _, h => by
    obtain ⟨node, nodes, hnode, hnodes, rfl⟩ := Draft.buildAll_cons.1 h
    exact List.forall_mem_cons.2 ⟨built_of_build hnode, built_of_buildAll hnodes⟩

end

/-- What a text stands for was built. -/
theorem built_of_parse {s : Text} {nodes : List Node} (h : parse s = .ok nodes) :
    ∀ node ∈ nodes, node.Built := by
  obtain ⟨-, rfl⟩ | ⟨-, drafts, rest, -, -, hbuild⟩ := parse_eq_ok.1 h
  · simp
  · exact Draft.built_of_buildAll hbuild

end Shorthand

namespace Document

theorem loadItem_eq_ok {item : Json} {node : Node} :
    loadItem item = .ok node ↔
      ∃ document, ofJson? item = some document ∧ document.build = .ok node := by
  unfold loadItem
  cases ofJson? item with
  | none => simp
  | some document => simp [mapError_eq_ok]

/-- A text that is accepted holds an array and nothing behind it, and each item of the array is the
shape of a node that is built. -/
theorem load_eq_ok {s : Text} {nodes : List Node} :
    load s = .ok nodes ↔
      ∃ rest items, Json.skipGap s = '[' :: rest ∧ Json.readList rest = (items, .ok ()) ∧
        List.Forall₂ (fun item node => loadItem item = .ok node) items nodes := by
  unfold load
  cases hstart : Json.skipGap s with
  | nil => simp
  | cons c rest =>
      dsimp only
      by_cases hc : c = '['
      · subst hc
        rw [if_pos rfl]
        cases hread : Json.readList rest with
        | mk items outcome =>
            simp only [bind_eq_ok, mapError_eq_ok, pure_eq_ok, mapM_eq_ok]
            constructor
            · rintro ⟨built, hbuilt, ⟨⟩, houtcome, rfl⟩
              exact ⟨rest, items, rfl, by rw [hread, houtcome], hbuilt⟩
            · rintro ⟨_, _, heq, hitems, hbuilt⟩
              cases heq
              rw [hread] at hitems
              cases hitems
              exact ⟨nodes, hbuilt, (), rfl, rfl⟩
      · rw [if_neg hc]
        constructor
        · intro h
          split at h
          · cases h
          · split at h <;> cases h
        · rintro ⟨_, _, heq, -⟩
          cases heq
          exact absurd rfl hc

mutual

/-- What a document stands for was built. -/
theorem built_of_build : ∀ {document : Document} {node : Node},
    document.build = .ok node → node.Built
  | .group _ _, _, h => by
    rw [build] at h
    obtain ⟨nodes, hnodes, h⟩ := bind_eq_ok.1 h
    exact .enclose (built_of_buildAll hnodes) h
  | .condition _ _ _ _ _, _, h => by
    rw [build] at h
    obtain ⟨operand, -, h⟩ := bind_eq_ok.1 h
    obtain ⟨op, -, h⟩ := Node.ofSymbol_eq_ok.1 h
    exact .ofParts h

theorem built_of_buildAll : ∀ {documents : List Document} {nodes : List Node},
    buildAll documents = .ok nodes → ∀ node ∈ nodes, node.Built
  | [], _, h => by
    rw [buildAll] at h
    cases h
    simp
  | document :: documents, _, h => by
    rw [buildAll] at h
    obtain ⟨node, hnode, h⟩ := bind_eq_ok.1 h
    obtain ⟨nodes, hnodes, h⟩ := bind_eq_ok.1 h
    cases h
    exact List.forall_mem_cons.2 ⟨built_of_build hnode, built_of_buildAll hnodes⟩

end

/-- What is loaded from a text was built. -/
theorem built_of_load {s : Text} {nodes : List Node} (h : load s = .ok nodes) :
    ∀ node ∈ nodes, node.Built := by
  obtain ⟨_, items, -, -, hall⟩ := load_eq_ok.1 h
  clear h
  induction hall with
  | nil => simp
  | cons hitem _ ih =>
      obtain ⟨document, -, hbuild⟩ := loadItem_eq_ok.1 hitem
      exact List.forall_mem_cons.2 ⟨built_of_build hbuild, ih⟩

end Document

/-! ### The invariant -/

namespace Node

theorem built_of_arises {node : Node} (h : node.Arises) : node.Built := by
  induction h with
  | @comparing make fields operand node hmake h =>
      obtain ⟨op, j, hparts⟩ := exists_of_mem_comparing hmake
      exact .ofParts (hparts fields operand ▸ h)
  | @bounding make fields low high node hmake h =>
      obtain ⟨j, hparts⟩ := exists_of_mem_bounding hmake
      exact .ofParts (hparts fields low high ▸ h)
  | @checking make fields node hmake h =>
      obtain ⟨op, j, hparts⟩ := exists_of_mem_checking hmake
      exact .ofParts (hparts fields ▸ h)
  | ofParts h => exact .ofParts h
  | ofSymbol h =>
      obtain ⟨op, -, h⟩ := ofSymbol_eq_ok.1 h
      exact .ofParts h
  | @grouping make children node hmake _ h ih =>
      obtain ⟨j, hparts⟩ := exists_of_mem_grouping hmake
      exact .enclose ih (hparts children ▸ h)
  | enclose _ h ih => exact .enclose ih h
  | parse h hnode => exact Shorthand.built_of_parse h _ hnode
  | load h hnode => exact Document.built_of_load h _ hnode

theorem arises_of_built {node : Node} (h : node.Built) : node.Arises := by
  induction h with
  | ofParts h => exact .ofParts h
  | enclose _ h ih => exact .enclose ih h

/-- A node comes to exist in one of the ways there are, from whatever input, if and only if it is
well formed: the properties hold at every depth of every node, and no others do. -/
theorem arises_iff_wellFormed {node : Node} : node.Arises ↔ node.WellFormed := by
  rw [wellFormed_iff_built]
  constructor
  · exact built_of_arises
  · exact arises_of_built

end Node

end WhereClause
