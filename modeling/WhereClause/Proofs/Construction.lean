import WhereClause.Node.Basic
import WhereClause.Proofs.Outcome

/-!
# Nodes that the constructors build

Every constructor goes through `Node.ofParts` or `Node.enclose`, so a node that was built is a
tree whose leaves came from the one and whose groups came from the other.  What this says about a
leaf is that building it again from its own parts gives the same leaf.

Main definitions:

* `Operator.plain`: the operators that compare with one value;
* `Operand.values`: the values of an operand;
* `Operand.Shape`: the shapes of operands under their operators;
* `Condition.Built`, `Node.Built`: the condition or the node was built by the constructors;
* `Node.conditions`, `Node.conditionsAll`: the conditions of a tree, from left to right;
* `Node.nesting`, `Node.nestingAll`: the greatest number of groups around a condition.

Main statements:

* `Node.induction`: induction on nodes;
* `Operand.fit_fit`: **bringing an operand into the shape of an operator twice is bringing it
  there once**;
* `Condition.built_of_ofParts`: a condition that was built is built again from its own parts;
* `Node.built_condition`, `Node.built_group`: what it means for a leaf and for a group.
-/

set_option autoImplicit false

namespace WhereClause

/-! ### Induction on nodes -/

/-- Induction on nodes: a group may use the property of each of its children. -/
@[elab_as_elim]
theorem Node.induction {motive : Node → Prop}
    (condition : ∀ j c, motive (.condition j c))
    (group : ∀ j children, (∀ child ∈ children, motive child) → motive (.group j children)) :
    ∀ node, motive node
  | .condition j c => condition j c
  | .group j children => group j children fun child _ => Node.induction condition group child
termination_by node => sizeOf node
decreasing_by
  have := List.sizeOf_lt_of_mem ‹child ∈ children›
  simp only [Node.group.sizeOf_spec]
  omega

/-! ### Shapes of operands -/

/-- The operators that compare with one value as it is. -/
def Operator.plain : List Operator :=
  [equal, notEqual, greater, less, greaterOrEqual, lessOrEqual]

theorem Operator.mem_plain {op : Operator} :
    op ∈ plain ↔ op = equal ∨ op = notEqual ∨ op = greater ∨ op = less ∨ op = greaterOrEqual ∨
      op = lessOrEqual := by
  simp [plain]

namespace Operand

/-- The values that the operand holds, from left to right. -/
def values : Operand → List Value
  | none => []
  | scalar v => [v]
  | range low high => [low, high]
  | list values => values
  | subquery _ => []

theorem fitBetween_ok {operand fitted : Operand} (h : operand.fitBetween = .ok fitted) :
    ∃ low high, fitted = range low high := by
  unfold fitBetween at h
  split at h
  · exact ⟨_, _, (Except.ok.inj h).symm⟩
  · exact ⟨_, _, (Except.ok.inj h).symm⟩
  · cases h
  · cases h

theorem pieces_ne_nil (c : Char) (s : Text) : Text.pieces c s ≠ [] :=
  List.splitOn_ne_nil c s

theorem fitIn_ok {operand fitted : Operand} (h : operand.fitIn = .ok fitted) :
    (∃ v vs, fitted = list (v :: vs)) ∨
      ∃ query, fitted = subquery query ∧ Text.trim query ≠ [] := by
  unfold fitIn at h
  split at h
  · cases h
  · exact .inl ⟨_, _, (Except.ok.inj h).symm⟩
  · exact .inl ⟨_, _, (Except.ok.inj h).symm⟩
  · rename_i query
    split at h
    · cases h
    · exact .inr ⟨query, (Except.ok.inj h).symm, ‹_›⟩
  · rename_i s
    split at h
    · cases h
    · split at h
      · exact .inr ⟨s, (Except.ok.inj h).symm, ‹_›⟩
      · obtain ⟨piece, pieces, hs⟩ := List.exists_cons_of_ne_nil (pieces_ne_nil ',' s)
        refine .inl ⟨.string (Text.trim piece), pieces.map fun p => .string (Text.trim p), ?_⟩
        rw [← Except.ok.inj h, alternatives, hs, List.map_cons]
  · cases h
  · exact .inl ⟨_, _, (Except.ok.inj h).symm⟩
  · cases h

theorem fitLike_ok {operand fitted : Operand} (h : operand.fitLike = .ok fitted) :
    ∃ v, fitted = scalar v ∧ v ≠ .null := by
  unfold fitLike at h
  split at h
  · cases h
  · cases h
  · exact ⟨_, (Except.ok.inj h).symm, fun hv => by simp_all⟩
  · cases h

theorem fitPlain_ok {op : Operator} {operand fitted : Operand}
    (h : operand.fitPlain op = .ok fitted) : ∃ v, fitted = scalar v := by
  unfold fitPlain at h
  split at h
  · exact ⟨_, (Except.ok.inj h).symm⟩
  · exact ⟨_, (Except.ok.inj h).symm⟩
  · cases h

/-- The shape of an operand under the operator it was fitted to. -/
inductive Shape : Operator → Operand → Prop
  | isNull : Shape .isNull .none
  | isNotNull : Shape .isNotNull .none
  | between (low high : Value) : Shape .between (.range low high)
  | list (v : Value) (vs : List Value) : Shape .isIn (.list (v :: vs))
  | subquery {query : Text} (h : Text.trim query ≠ []) : Shape .isIn (.subquery query)
  | like {v : Value} (h : v ≠ .null) : Shape .like (.scalar v)
  | plain {op : Operator} (v : Value) (h : op ∈ Operator.plain) : Shape op (.scalar v)

theorem shape_of_fit {op : Operator} {operand fitted : Operand}
    (h : operand.fit op = .ok fitted) : Shape op fitted := by
  cases op with
  | isNull => exact Except.ok.inj h ▸ .isNull
  | isNotNull => exact Except.ok.inj h ▸ .isNotNull
  | between =>
      obtain ⟨low, high, rfl⟩ := fitBetween_ok h
      exact .between low high
  | isIn =>
      obtain ⟨v, vs, rfl⟩ | ⟨query, rfl, hq⟩ := fitIn_ok h
      · exact .list v vs
      · exact .subquery hq
  | like =>
      obtain ⟨v, rfl, hv⟩ := fitLike_ok h
      exact .like hv
  | _ =>
      obtain ⟨v, rfl⟩ := fitPlain_ok h
      exact .plain v (by decide)

theorem fit_of_shape {op : Operator} {operand : Operand} (h : Shape op operand) :
    operand.fit op = .ok operand := by
  cases h with
  | isNull => rfl
  | isNotNull => rfl
  | between low high => rfl
  | list v vs => rfl
  | subquery hq => simp [fit, fitIn, hq]
  | like hv =>
      rename_i v
      cases v with
      | null => exact absurd rfl hv
      | _ => rfl
  | plain v hop =>
      rcases Operator.mem_plain.1 hop with rfl | rfl | rfl | rfl | rfl | rfl <;> rfl

/-- An operand keeps its shape when it is fitted again. -/
theorem fit_fit {op : Operator} {operand fitted : Operand} (h : operand.fit op = .ok fitted) :
    fitted.fit op = .ok fitted :=
  fit_of_shape (shape_of_fit h)

end Operand

/-! ### Lists of columns -/

namespace Column

theorem ofPiece_eq_ok {fields piece : Text} {column : Column} :
    ofPiece fields piece = .ok column ↔
      column = ofIdentifier (Text.trim piece) ∧ Text.trim piece ≠ [] ∧ column.name ≠ [] := by
  unfold ofPiece
  dsimp only
  constructor
  · intro h
    split at h
    · cases h
    · split at h
      · cases h
      · obtain rfl := Except.ok.inj h
        exact ⟨rfl, ‹_›, ‹_›⟩
  · rintro ⟨rfl, hpiece, hname⟩
    rw [if_neg hpiece, if_neg hname]

/-- A column of a list stands at one of its places. -/
theorem exists_ofPiece {fields : Text} {columns : List Column}
    (h : listOfText fields = .ok columns) {column : Column} (hcolumn : column ∈ columns) :
    ∃ piece, ofPiece fields piece = .ok column := by
  unfold listOfText at h
  split at h
  · cases h
  · have hall := mapM_eq_ok.1 h
    clear h
    generalize Text.pieces separator fields = pieces at hall
    induction hall with
    | nil => cases hcolumn
    | cons hpiece _ ih =>
        rcases List.mem_cons.1 hcolumn with rfl | hcolumn
        · exact ⟨_, hpiece⟩
        · exact ih hcolumn

end Column

/-! ### Conditions that were built -/

theorem Condition.ofParts_eq_ok {fields : Text} {op : Operator} {operand : Operand}
    {c : Condition} :
    Condition.ofParts fields op operand = .ok c ↔
      c.fields = fields ∧ Column.listOfText fields = .ok c.columns ∧ c.operator = op ∧
        operand.fit op = .ok c.operand := by
  unfold Condition.ofParts
  constructor
  · intro h
    split at h
    · cases h
    · split at h
      · cases h
      · obtain rfl := Except.ok.inj h
        exact ⟨rfl, ‹_›, rfl, ‹_›⟩
  · rintro ⟨rfl, hcolumns, rfl, hfit⟩
    rw [hcolumns, hfit]

namespace Condition

/-- The condition was built: its own parts give it again. -/
def Built (c : Condition) : Prop :=
  ofParts c.fields c.operator c.operand = .ok c

/-- A condition that was built is built again from its own parts. -/
theorem built_of_ofParts {fields : Text} {op : Operator} {operand : Operand} {c : Condition}
    (h : ofParts fields op operand = .ok c) : c.Built := by
  obtain ⟨rfl, hcolumns, rfl, hfit⟩ := ofParts_eq_ok.1 h
  exact ofParts_eq_ok.2 ⟨rfl, hcolumns, rfl, Operand.fit_fit hfit⟩

namespace Built

variable {c : Condition}

theorem columns (h : c.Built) : Column.listOfText c.fields = .ok c.columns :=
  (ofParts_eq_ok.1 h).2.1

theorem fit (h : c.Built) : c.operand.fit c.operator = .ok c.operand :=
  (ofParts_eq_ok.1 h).2.2.2

theorem shape (h : c.Built) : Operand.Shape c.operator c.operand :=
  Operand.shape_of_fit h.fit

end Built

theorem columns_ne_nil {c : Condition} (hbuilt : c.Built) : c.columns ≠ [] := by
  have hcolumns := hbuilt.columns
  unfold Column.listOfText at hcolumns
  split at hcolumns
  · cases hcolumns
  · have hlength := (mapM_eq_ok.1 hcolumns).length_eq
    intro hnil
    rw [hnil] at hlength
    exact Operand.pieces_ne_nil _ _ (List.eq_nil_of_length_eq_zero hlength)

end Condition

/-! ### Nodes that were built -/

namespace Node

/-- The node was built by the constructors. -/
inductive Built : Node → Prop
  | ofParts {fields : Text} {op : Operator} {operand : Operand} {j : Joiner} {node : Node} :
      Node.ofParts fields op operand j = .ok node → Built node
  | enclose {children : List Node} {j : Joiner} {node : Node} :
      (∀ child ∈ children, Built child) → Node.enclose children j = .ok node → Built node

theorem ofParts_eq_ok {fields : Text} {op : Operator} {operand : Operand} {j : Joiner}
    {node : Node} :
    ofParts fields op operand j = .ok node ↔
      ∃ c, Condition.ofParts fields op operand = .ok c ∧ node = condition j c := by
  rw [ofParts, map_eq_ok]
  simp only [eq_comm]

theorem enclose_eq_ok {children : List Node} {j : Joiner} {node : Node} :
    enclose children j = .ok node ↔ children ≠ [] ∧ node = group j children := by
  unfold enclose
  cases children with
  | nil => simp
  | cons child children => simp [eq_comm]

/-- A leaf was built if its condition was. -/
theorem built_condition {j : Joiner} {c : Condition} :
    Built (condition j c) ↔ c.Built := by
  constructor
  · intro h
    cases h with
    | ofParts h =>
        obtain ⟨d, hd, hnode⟩ := ofParts_eq_ok.1 h
        obtain ⟨rfl, rfl⟩ := Node.condition.inj hnode
        exact Condition.built_of_ofParts hd
    | enclose _ h =>
        obtain ⟨-, hnode⟩ := enclose_eq_ok.1 h
        cases hnode
  · intro h
    exact .ofParts (ofParts_eq_ok.2 ⟨c, h, rfl⟩)

/-- A group was built if it is not empty and its children were built. -/
theorem built_group {j : Joiner} {children : List Node} :
    Built (group j children) ↔ children ≠ [] ∧ ∀ child ∈ children, Built child := by
  constructor
  · intro h
    cases h with
    | ofParts h =>
        obtain ⟨d, -, hnode⟩ := ofParts_eq_ok.1 h
        cases hnode
    | enclose hchildren h =>
        obtain ⟨hne, hnode⟩ := enclose_eq_ok.1 h
        obtain ⟨rfl, rfl⟩ := Node.group.inj hnode
        exact ⟨hne, hchildren⟩
  · rintro ⟨hne, hchildren⟩
    exact .enclose hchildren (enclose_eq_ok.2 ⟨hne, rfl⟩)

/-! ### The conditions of a tree -/

mutual

/-- The conditions of a node, from left to right. -/
def conditions : Node → List Condition
  | condition _ c => [c]
  | group _ children => conditionsAll children

def conditionsAll : List Node → List Condition
  | [] => []
  | node :: nodes => conditions node ++ conditionsAll nodes

end

@[simp] theorem conditions_condition (j : Joiner) (c : Condition) :
    conditions (condition j c) = [c] := by rw [conditions]

@[simp] theorem conditions_group (j : Joiner) (children : List Node) :
    conditions (group j children) = conditionsAll children := by rw [conditions]

@[simp] theorem conditionsAll_nil : conditionsAll [] = [] := by rw [conditionsAll]

@[simp] theorem conditionsAll_cons (node : Node) (nodes : List Node) :
    conditionsAll (node :: nodes) = conditions node ++ conditionsAll nodes := by
  rw [conditionsAll]

theorem conditionsAll_eq_flatMap (nodes : List Node) :
    conditionsAll nodes = nodes.flatMap conditions := by
  induction nodes with
  | nil => simp
  | cons node nodes ih => simp [ih]

theorem mem_conditionsAll {c : Condition} {nodes : List Node} :
    c ∈ conditionsAll nodes ↔ ∃ node ∈ nodes, c ∈ node.conditions := by
  rw [conditionsAll_eq_flatMap, List.mem_flatMap]

/-- A property of all conditions of a sequence is one of all conditions of each node. -/
theorem forall_mem_conditionsAll {P : Condition → Prop} {nodes : List Node} :
    (∀ c ∈ conditionsAll nodes, P c) ↔ ∀ node ∈ nodes, ∀ c ∈ node.conditions, P c := by
  constructor
  · intro h node hnode c hc
    exact h c (mem_conditionsAll.2 ⟨node, hnode, hc⟩)
  · intro h c hc
    obtain ⟨node, hnode, hc⟩ := mem_conditionsAll.1 hc
    exact h node hnode c hc

theorem built_of_mem_conditions {node : Node} (h : node.Built) {c : Condition}
    (hc : c ∈ node.conditions) : c.Built := by
  induction node using Node.induction with
  | condition j d =>
      obtain rfl : c = d := by simpa using hc
      exact built_condition.1 h
  | group j children ih =>
      rw [conditions_group] at hc
      obtain ⟨child, hchild, hc⟩ := mem_conditionsAll.1 hc
      exact ih child hchild ((built_group.1 h).2 child hchild) hc

mutual

/-- The greatest number of groups around a condition of the node. -/
def nesting : Node → Nat
  | condition _ _ => 0
  | group _ children => nestingAll children + 1

def nestingAll : List Node → Nat
  | [] => 0
  | node :: nodes => max (nesting node) (nestingAll nodes)

end

@[simp] theorem nesting_condition (j : Joiner) (c : Condition) :
    nesting (condition j c) = 0 := by rw [nesting]

@[simp] theorem nesting_group (j : Joiner) (children : List Node) :
    nesting (group j children) = nestingAll children + 1 := by rw [nesting]

@[simp] theorem nestingAll_nil : nestingAll [] = 0 := by rw [nestingAll]

@[simp] theorem nestingAll_cons (node : Node) (nodes : List Node) :
    nestingAll (node :: nodes) = max (nesting node) (nestingAll nodes) := by rw [nestingAll]

theorem nesting_le_nestingAll {node : Node} {nodes : List Node} (h : node ∈ nodes) :
    nesting node ≤ nestingAll nodes := by
  induction nodes with
  | nil => cases h
  | cons other nodes ih =>
      rw [nestingAll_cons]
      rcases List.mem_cons.1 h with rfl | h
      · exact Nat.le_max_left _ _
      · exact Nat.le_trans (ih h) (Nat.le_max_right _ _)

end Node

end WhereClause
