import WhereClause.Proofs.ReadSequence

/-!
# Expanded filters

A condition on several columns is rendered as alternatives in brackets, and the joiner of the first
node of a sequence is not rendered at all.  The expansion of a filter is the filter in which this
has been made explicit: each condition names one column, and each sequence begins with AND.

Main definitions:

* `Condition.expand`, `Node.expand`, `Node.expandAll`: the expansion;
* `Condition.IsReadable`: the condition is rendered to text that the shorthand has as well.

Main results:

* `Column.listOfText_name`: the name of a column that is not cast names that column;
* `Node.isSentence_expand`: **the expansion of a readable filter can be written in the shorthand**.
-/

set_option autoImplicit false

namespace WhereClause

open Shorthand

/-! ### The expansion -/

namespace Condition

def onColumn (c : Condition) (column : Column) : Condition :=
  { c with fields := column.name, columns := [column] }

end Condition

/-- The sequence with AND as the joiner of its first node. -/
def Node.leadWithAnd : List Node → List Node
  | [] => []
  | node :: nodes => node.withJoiner .and :: nodes

/-- The conditions on the single columns, as alternatives. -/
def Condition.alternatives (c : Condition) : List Node :=
  Node.leadWithAnd (c.columns.map fun column => .condition .or (c.onColumn column))

/-- The condition behind its joiner, on one column, or as the group of its alternatives. -/
def Condition.expand (j : Joiner) (c : Condition) : Node :=
  match c.columns with
  | [column] => .condition j (c.onColumn column)
  | _ => .group j c.alternatives

namespace Node

mutual

/-- The node with one column in each condition and AND in front of each sequence. -/
def expand : Node → Node
  | condition j c => c.expand j
  | group j children => group j (leadWithAnd (expandEach children))

def expandEach : List Node → List Node
  | [] => []
  | node :: nodes => expand node :: expandEach nodes

end

def expandAll (nodes : List Node) : List Node :=
  leadWithAnd (expandEach nodes)

theorem expand_condition (j : Joiner) (c : Condition) : expand (condition j c) = c.expand j := by
  rw [expand]

theorem expand_group (j : Joiner) (children : List Node) :
    expand (group j children) = group j (expandAll children) := by
  rw [expand, expandAll]

theorem expandEach_eq_map (nodes : List Node) : expandEach nodes = nodes.map expand := by
  induction nodes with
  | nil => rw [expandEach, List.map_nil]
  | cons node nodes ih => rw [expandEach, List.map_cons, ih]

theorem expandAll_cons (node : Node) (nodes : List Node) :
    expandAll (node :: nodes) = node.expand.withJoiner .and :: nodes.map expand := by
  rw [expandAll, expandEach, expandEach_eq_map, leadWithAnd]

theorem joiner_expand (node : Node) : node.expand.joiner = node.joiner := by
  cases node with
  | condition j c =>
      rw [expand_condition, Condition.expand]
      split <;> rfl
  | group j children => rw [expand_group, joiner, joiner]

theorem written_withJoiner (j : Joiner) (node : Node) :
    (node.withJoiner j).written = node.written := by
  cases node with
  | condition i c => rw [withJoiner, written_condition, written_condition]
  | group i children => rw [withJoiner, written_group, written_group]

theorem conditions_withJoiner (j : Joiner) (node : Node) :
    (node.withJoiner j).conditions = node.conditions := by
  cases node with
  | condition i c => rw [withJoiner, conditions_condition, conditions_condition]
  | group i children => rw [withJoiner, conditions_group, conditions_group]

end Node

/-! ### Readable filters -/

/-- The condition is rendered to text that the shorthand has as well. -/
structure Condition.IsReadable (c : Condition) : Prop where
  uncast : ∀ column ∈ c.columns, column.cast = none
  /-- The names consist of the characters of words, dots and colons. -/
  name : ∀ column ∈ c.columns, ∀ ch ∈ column.name, isWordChar ch = true ∨ ch = '.' ∨ ch = ':'
  /-- LIKE is rendered as a call, which the shorthand does not have. -/
  operator : c.operator ≠ .like
  query : ∀ query, c.operand ≠ .subquery query
  /-- The values have literals in the shorthand. -/
  values : ∀ v ∈ c.operand.values, v.isLiteral = true
  references : ∀ v ∈ c.operand.values, v.fieldReference? = none

/-! ### Columns -/

/-- A text without white space is its own trimmed text. -/
theorem trim_of_forall {s : Text} (h : ∀ c ∈ s, isBlank c = false) : Text.trim s = s := by
  have hstart : ∀ t : Text, (∀ c ∈ t, c ∈ s) → t.dropWhile isBlank = t := fun t ht =>
    dropWhile_of_stops fun c hc => h c (ht c (List.mem_of_mem_head? hc))
  rw [Text.trim, Text.trimStart, hstart s fun _ hc => hc, Text.trimEnd,
    hstart s.reverse fun _ hc => List.mem_reverse.1 hc, List.reverse_reverse]

namespace Column

/-- An identifier without a cast is the name of the column. -/
theorem ofIdentifier_uncast {identifier : Text} (h : (ofIdentifier identifier).cast = none) :
    ofIdentifier identifier = ⟨identifier, none⟩ := by
  obtain ⟨kind, name, -, hcast⟩ | hname := ofIdentifier_cases identifier
  · rw [hcast] at h
    cases h
  · exact hname

/-- An identifier without a cast is a list of one column. -/
theorem listOfText_identifier {identifier : Text} (hne : identifier ≠ [])
    (hcast : (ofIdentifier identifier).cast = none)
    (hname : ∀ ch ∈ identifier, isWordChar ch = true ∨ ch = '.' ∨ ch = ':') :
    listOfText identifier = .ok [⟨identifier, none⟩] := by
  have htrim : Text.trim identifier = identifier := by
    refine trim_of_forall fun ch hch => isBlank_of_isFieldChar ?_
    rcases hname ch hch with hword | rfl | rfl
    · simp [isFieldChar, hword]
    · decide
    · decide
  have hpieces : Text.pieces separator identifier = [identifier] := by
    refine List.splitOn_eq_singleton fun hbar => ?_
    rcases hname _ hbar with hword | hdot | hcolon
    · exact absurd hword (by decide)
    · exact absurd hdot (by decide)
    · exact absurd hcolon (by decide)
  have hread : ofPiece identifier identifier = .ok ⟨identifier, none⟩ := by
    refine ofPiece_eq_ok.2 ⟨?_, ?_, hne⟩
    · rw [htrim, ofIdentifier_uncast hcast]
    · rwa [htrim]
  rw [listOfText, htrim, if_neg hne, hpieces, List.mapM_cons, hread]
  rfl

theorem splitColon?_eq_none {s : Text} (h : ':' ∉ s) : splitColon? s = none := by
  induction s with
  | nil => rfl
  | cons c s ih =>
      rw [List.mem_cons, not_or] at h
      rw [splitColon?, if_neg (Ne.symm h.1), ih h.2]
      rfl

/-- A word is a list of one column. -/
theorem listOfText_word {word : Text} (hne : word ≠ [])
    (hword : ∀ c ∈ word, isWordChar c = true) : listOfText word = .ok [⟨word, none⟩] := by
  refine listOfText_identifier hne ?_ fun c hc => .inl (hword c hc)
  have hcolon : ':' ∉ word := fun hmem => absurd (hword _ hmem) (by decide)
  rw [ofIdentifier, splitColon?_eq_none hcolon]

/-- The name of a column that is not cast names that column. -/
theorem listOfText_name {fields : Text} {columns : List Column}
    (h : listOfText fields = .ok columns) {column : Column} (hcolumn : column ∈ columns)
    (hcast : column.cast = none)
    (hname : ∀ ch ∈ column.name, isWordChar ch = true ∨ ch = '.' ∨ ch = ':') :
    listOfText column.name = .ok [column] := by
  obtain ⟨piece, hpiece⟩ := exists_ofPiece h hcolumn
  obtain ⟨rfl, -, hne⟩ := ofPiece_eq_ok.1 hpiece
  have hself := ofIdentifier_uncast hcast
  rw [hself] at hname hne ⊢
  exact listOfText_identifier hne hcast hname

end Column

/-! ### The expansion can be written -/

namespace Condition

variable {c : Condition}

theorem built_onColumn (hbuilt : c.Built) (hc : c.IsReadable) {column : Column}
    (hcolumn : column ∈ c.columns) : (c.onColumn column).Built := by
  have hname := Column.listOfText_name hbuilt.columns hcolumn (hc.uncast column hcolumn)
    (hc.name column hcolumn)
  exact ofParts_eq_ok.2 ⟨rfl, hname, rfl, hbuilt.fit⟩

theorem isSentence_onColumn (hc : c.IsReadable) {column : Column} (hcolumn : column ∈ c.columns) :
    (c.onColumn column).IsSentence := by
  refine ⟨fun ch hch => ?_, hc.values, fun query hquery => absurd hquery (hc.query query)⟩
  rcases hc.name column hcolumn ch hch with hword | rfl | rfl
  · simp [isFieldChar, hword]
  · decide
  · decide

end Condition

namespace Node

theorem isSentence_withJoiner {node : Node} (h : node.IsSentence) (j : Joiner) :
    (node.withJoiner j).IsSentence := by
  have hconditions : ∀ c ∈ (node.withJoiner j).conditions, c.IsSentence := by
    rw [conditions_withJoiner]
    exact h.conditions
  obtain ⟨hbuilt, hled, -⟩ := h
  cases hled with
  | condition i c =>
      exact ⟨built_condition.2 (built_condition.1 hbuilt), .condition j c, hconditions⟩
  | group i hfirst hchildren =>
      exact ⟨built_group.2 (built_group.1 hbuilt), .group j hfirst hchildren, hconditions⟩

theorem isSentence_leadWithAnd {nodes : List Node} (h : ∀ node ∈ nodes, node.IsSentence) :
    ∀ node ∈ leadWithAnd nodes, node.IsSentence := by
  cases nodes with
  | nil => exact h
  | cons node nodes =>
      rw [List.forall_mem_cons] at h
      rw [leadWithAnd, List.forall_mem_cons]
      exact ⟨isSentence_withJoiner h.1 .and, h.2⟩

theorem joiner_leadWithAnd (nodes : List Node) :
    ∀ node ∈ (leadWithAnd nodes).head?, node.joiner = .and := by
  cases nodes with
  | nil => simp [leadWithAnd]
  | cons node nodes => simp [leadWithAnd]

/-- A group that leads with AND can be written if its children can. -/
theorem isSentence_group_leadWithAnd {nodes : List Node} (hne : nodes ≠ [])
    (h : ∀ node ∈ nodes, node.IsSentence) (j : Joiner) :
    (group j (leadWithAnd nodes)).IsSentence := by
  have hall := isSentence_leadWithAnd h
  refine ⟨built_group.2 ⟨?_, fun node hnode => (hall node hnode).built⟩,
    .group j (joiner_leadWithAnd nodes) fun node hnode => (hall node hnode).led, ?_⟩
  · obtain ⟨node, nodes, rfl⟩ := List.exists_cons_of_ne_nil hne
    exact List.cons_ne_nil _ _
  · rw [conditions_group, forall_mem_conditionsAll]
    exact fun node hnode => (hall node hnode).conditions

theorem isSentence_condition {c : Condition} (hbuilt : c.Built) (hc : c.IsSentence) (j : Joiner) :
    (condition j c).IsSentence := by
  refine ⟨built_condition.2 hbuilt, .condition j c, fun d hd => ?_⟩
  rw [conditions_condition, List.mem_singleton] at hd
  rwa [hd]

/-- The expansion of a readable node can be written in the shorthand. -/
theorem isSentence_expand {node : Node} (hbuilt : node.Built)
    (hreadable : ∀ c ∈ node.conditions, c.IsReadable) : node.expand.IsSentence := by
  induction node using Node.induction with
  | condition j c =>
      have hbuilt := built_condition.1 hbuilt
      have hc := hreadable c (by simp)
      have hsingle : ∀ i, ∀ column ∈ c.columns, (condition i (c.onColumn column)).IsSentence :=
        fun i column hcolumn => isSentence_condition (Condition.built_onColumn hbuilt hc hcolumn)
          (Condition.isSentence_onColumn hc hcolumn) i
      rw [expand_condition, Condition.expand]
      split
      · rename_i column hcolumns
        exact hsingle j column (by simp [hcolumns])
      · refine isSentence_group_leadWithAnd ?_ ?_ j
        · rw [ne_eq, List.map_eq_nil_iff]
          exact Condition.columns_ne_nil hbuilt
        · rw [List.forall_mem_map]
          exact hsingle .or
  | group j children ih =>
      obtain ⟨hne, hchildren⟩ := built_group.1 hbuilt
      rw [conditions_group, forall_mem_conditionsAll] at hreadable
      rw [expand_group, expandAll, expandEach_eq_map]
      refine isSentence_group_leadWithAnd ?_ ?_ j
      · rwa [ne_eq, List.map_eq_nil_iff]
      · rw [List.forall_mem_map]
        intro child hchild
        exact ih child hchild (hchildren child hchild) (hreadable child hchild)

end Node

end WhereClause
