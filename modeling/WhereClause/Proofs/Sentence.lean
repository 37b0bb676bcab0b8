import WhereClause.Proofs.Construction
import WhereClause.Proofs.Reading
import WhereClause.Shorthand.Draft

/-!
# Sentences of the shorthand

How a sequence of nodes is written in the shorthand.  A sentence is given by its parts, so that
one sequence has many texts: a gap between two parts may be any run of white space, and a keyword
may stand in any case.

Main definitions:

* `Piece`, `Spells`: the parts of a sentence, and the texts that spell them;
* `Value.written`, `Operator.written`, `Operand.written`, `Condition.written`, `Node.written`,
  `Node.writtenAll`: the parts that something is written with;
* `Node.IsSentence`: the node can be written in the shorthand.

Main results:

* `spells_append`: a text spells two runs of parts if it splits into texts that spell them;
* `Node.isSentence_group`: the children of a group can be written too.
-/

set_option autoImplicit false

namespace WhereClause

/-! ### Parts of sentences -/

namespace Shorthand

inductive Piece where
  | gap
  /-- A keyword, in any case. -/
  | word (w : Text)
  | verbatim (s : Text)

def Piece.Spells : Piece → Text → Prop
  | gap, s => IsGap s
  | word w, s => Cased w s
  | verbatim t, s => s = t

/-- The text spells the parts one after the other. -/
def Spells : List Piece → Text → Prop
  | [], s => s = []
  | p :: ps, s => ∃ first rest, s = first ++ rest ∧ p.Spells first ∧ Spells ps rest

@[simp] theorem spells_nil {s : Text} : Spells [] s ↔ s = [] := Iff.rfl

theorem spells_cons {p : Piece} {ps : List Piece} {s : Text} :
    Spells (p :: ps) s ↔ ∃ first rest, s = first ++ rest ∧ p.Spells first ∧ Spells ps rest :=
  Iff.rfl

theorem spells_singleton {p : Piece} {s : Text} : Spells [p] s ↔ p.Spells s := by
  constructor
  · rintro ⟨first, rest, rfl, hp, rfl⟩
    rwa [List.append_nil]
  · intro hp
    exact ⟨s, [], (List.append_nil s).symm, hp, rfl⟩

theorem Piece.Spells.append {p : Piece} {ps : List Piece} {s t : Text} (hp : p.Spells s)
    (hps : Shorthand.Spells ps t) : Shorthand.Spells (p :: ps) (s ++ t) :=
  ⟨s, t, rfl, hp, hps⟩

theorem Piece.Spells.spells {p : Piece} {s : Text} (hp : p.Spells s) : Shorthand.Spells [p] s :=
  spells_singleton.2 hp

/-- A text spells two runs of parts if it splits into texts that spell them. -/
theorem spells_append {ps qs : List Piece} {s : Text} :
    Spells (ps ++ qs) s ↔ ∃ first rest, s = first ++ rest ∧ Spells ps first ∧ Spells qs rest := by
  induction ps generalizing s with
  | nil =>
      constructor
      · intro h
        exact ⟨[], s, rfl, rfl, h⟩
      · rintro ⟨first, rest, rfl, rfl, h⟩
        exact h
  | cons p ps ih =>
      rw [List.cons_append, spells_cons]
      constructor
      · rintro ⟨first, rest, rfl, hp, h⟩
        obtain ⟨middle, last, rfl, hps, hqs⟩ := ih.1 h
        exact ⟨first ++ middle, last, (List.append_assoc ..).symm,
          ⟨first, middle, rfl, hp, hps⟩, hqs⟩
      · rintro ⟨first, rest, rfl, ⟨start, middle, rfl, hp, hps⟩, hqs⟩
        exact ⟨start, middle ++ rest, List.append_assoc .., hp, ih.2 ⟨middle, rest, rfl, hps, hqs⟩⟩

/-- Texts that spell the parts make up a text that spells them all. -/
theorem spells_flatten {ps : List Piece} {texts : List Text}
    (h : List.Forall₂ Piece.Spells ps texts) : Spells ps texts.flatten := by
  induction h with
  | nil => rfl
  | cons hp _ ih => exact ⟨_, _, rfl, hp, ih⟩

/-- The brackets outside of quotes belong together, `depth` more being open, and every quote is
closed; `quoted` tells whether one is open. -/
def balanced (depth : Nat) (quoted : Bool) : Text → Bool
  | [] => depth == 0 && !quoted
  | c :: s =>
    if c = '\'' then balanced depth (!quoted) s
    else if quoted then balanced depth quoted s
    else if c = '(' then balanced (depth + 1) quoted s
    else if c = ')' then
      match depth with
      | 0 => false
      | depth + 1 => balanced depth quoted s
    else balanced depth quoted s

/-- The text is a query that can stand in brackets. -/
structure IsQuery (query : Text) : Prop where
  trimmed : Text.trim query = query
  isSubquery : isSubquery query = true
  /-- Its brackets belong together. -/
  balanced : balanced 0 false query = true

end Shorthand

open Shorthand

/-! ### How values and conditions are written -/

namespace Value

/-- Holds of the values that can be written as literals and not only as bare words. -/
def isLiteral : Value → Bool
  | null => true
  | bool _ => true
  | int _ => true
  | string _ => true
  | _ => false

/-- The value as messages show it; the letters of null and of a truth value are in any case. -/
def written : Value → Piece
  | null => .word null.display
  | bool b => .word (bool b).display
  | v => .verbatim v.display

/-- A truth value is one of two keywords. -/
theorem spells_bool {b : Bool} {s : Text} :
    (bool b).written.Spells s ↔ Cased (if b then "TRUE" else "FALSE") s := by
  have htrue : Text.toUpper "true" = Text.toUpper "TRUE" := by decide
  have hfalse : Text.toUpper "false" = Text.toUpper "FALSE" := by decide
  cases b with
  | true =>
      change Text.toUpper s = Text.toUpper "true" ↔ Text.toUpper s = Text.toUpper "TRUE"
      rw [htrue]
  | false =>
      change Text.toUpper s = Text.toUpper "false" ↔ Text.toUpper s = Text.toUpper "FALSE"
      rw [hfalse]

end Value

/-- The keywords or the symbol of the operator. -/
def Operator.written : Operator → List Piece
  | isNull => [.word "IS", .gap, .word "NULL"]
  | isNotNull => [.word "IS", .gap, .word "NOT", .gap, .word "NULL"]
  | between => [.word between.symbol]
  | isIn => [.word isIn.symbol]
  | like => [.word like.symbol]
  | op => [.verbatim op.symbol]

def Value.writtenRest (values : List Value) : List Piece :=
  values.flatMap fun v => [.verbatim [','], .gap, v.written]

namespace Operand

/-- The operand with the gap in front of it. -/
def written : Operand → List Piece
  | none => []
  | scalar v => [.gap, v.written]
  | range low high => [.gap, low.written, .gap, .word "AND", .gap, high.written]
  | list [] => [.gap, .verbatim ['(', ')']]
  | list (v :: vs) =>
    .gap :: .verbatim ['('] :: v.written :: (Value.writtenRest vs ++ [.verbatim [')']])
  | subquery query => [.gap, .verbatim ['('], .verbatim query, .verbatim [')']]

end Operand

namespace Condition

/-- The columns, the operator and the operand. -/
def written (c : Condition) : List Piece :=
  .verbatim c.fields :: .gap :: (c.operator.written ++ c.operand.written)

structure IsSentence (c : Condition) : Prop where
  fields : ∀ ch ∈ c.fields, isFieldChar ch = true
  values : ∀ v ∈ c.operand.values, v.isLiteral = true
  /-- A query can stand in brackets. -/
  query : ∀ query, c.operand = .subquery query → IsQuery query

end Condition

/-! ### How nodes are written -/

namespace Node

mutual

/-- The node without its joiner. -/
def written : Node → List Piece
  | condition _ c => c.written
  | group _ children => .verbatim ['('] :: (writtenAll children ++ [.verbatim [')']])

def writtenAll : List Node → List Piece
  | [] => []
  | node :: nodes => written node ++ writtenRest nodes

def writtenRest : List Node → List Piece
  | [] => []
  | node :: nodes =>
    .gap :: .word node.joiner.keyword :: .gap :: (written node ++ writtenRest nodes)

end

theorem written_condition (j : Joiner) (c : Condition) :
    written (condition j c) = c.written := by rw [written]

theorem written_group (j : Joiner) (children : List Node) :
    written (group j children) = .verbatim ['('] :: (writtenAll children ++ [.verbatim [')']]) := by
  rw [written]

/-- The first node of every group in the node is joined with AND, as nothing stands before it. -/
inductive LedByAnd : Node → Prop
  | condition (j : Joiner) (c : Condition) : LedByAnd (condition j c)
  | group (j : Joiner) {children : List Node}
      (hfirst : ∀ child ∈ children.head?, child.joiner = .and)
      (hchildren : ∀ child ∈ children, LedByAnd child) : LedByAnd (group j children)

structure IsSentence (node : Node) : Prop where
  built : node.Built
  /-- The joiners that are not written are AND. -/
  led : node.LedByAnd
  conditions : ∀ c ∈ node.conditions, c.IsSentence

/-- The children of a group can be written too. -/
theorem isSentence_group {j : Joiner} {children : List Node} (h : IsSentence (group j children)) :
    children ≠ [] ∧ (∀ child ∈ children.head?, child.joiner = .and) ∧
      ∀ child ∈ children, child.IsSentence := by
  obtain ⟨hne, hbuilt⟩ := built_group.1 h.built
  obtain ⟨hfirst, hled⟩ : (∀ child ∈ children.head?, child.joiner = .and) ∧
      ∀ child ∈ children, child.LedByAnd := by
    cases h.led with
    | group _ hfirst hchildren => exact ⟨hfirst, hchildren⟩
  have hconditions := h.conditions
  rw [conditions_group, forall_mem_conditionsAll] at hconditions
  exact ⟨hne, hfirst, fun child hchild => ⟨hbuilt child hchild, hled child hchild,
    hconditions child hchild⟩⟩

end Node

end WhereClause
