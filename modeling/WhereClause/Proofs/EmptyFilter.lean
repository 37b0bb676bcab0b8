import WhereClause.Dialect
import WhereClause.Proofs.Composition
import WhereClause.Proofs.QuotedNames

/-!
# The text that stands for no conditions

Where there are no conditions, a text of its own is printed in place of SQL.  Who looks for it must
not mistake conditions for it, whatever names, texts and queries they are made of.  The text has a
word behind its bracket, and rendered conditions never begin so: they begin with a quoted name or
with a function, or with a bracket in front of one of these or of a further bracket.

Main definitions:

* `BeginsPlain`, `BeginsNode`: how the texts of comparisons and of nodes begin.

Main results:

* `beginsPlain_comparison`, `beginsNode_render`: they begin so in every dialect;
* `Node.joinAll_ne_notice`: no conditions render to the text that stands for none.
-/

set_option autoImplicit false

namespace WhereClause

/-- The text begins, and neither with a bracket nor with the letter that follows it in the text that
stands for no conditions. -/
def BeginsPlain (s : Text) : Prop :=
  ∃ c t, s = c :: t ∧ c ≠ '(' ∧ c ≠ 'n'

theorem BeginsPlain.append {s : Text} (h : BeginsPlain s) (t : Text) : BeginsPlain (s ++ t) := by
  obtain ⟨c, u, rfl, hc⟩ := h
  exact ⟨c, u ++ t, rfl, hc⟩

theorem BeginsPlain.joinWith {separator s : Text} (h : BeginsPlain s) (texts : List Text) :
    BeginsPlain (Text.joinWith separator (s :: texts)) := by
  cases texts with
  | nil => simpa [Text.joinWith] using h
  | cons t texts => simpa [Text.joinWith] using h.append _

theorem beginsPlain_quoteIdentifier {quote : Char} (hbracket : quote ≠ '(') (hn : quote ≠ 'n')
    {name s : Text} (h : quoteIdentifier quote name = .ok s) : BeginsPlain s := by
  obtain ⟨-, rfl⟩ := quoteIdentifier_eq_ok.1 h
  obtain ⟨piece, pieces, hpieces⟩ := List.exists_cons_of_ne_nil (Operand.pieces_ne_nil '.' name)
  rw [hpieces]
  exact BeginsPlain.joinWith ⟨quote, _, rfl, hbracket, hn⟩ _

theorem beginsPlain_cast {d : Dialect} {name s : Text} {kind : CastKind}
    (h : d.escaper.cast name kind = .ok s) : BeginsPlain s := by
  cases d with
  | postgres =>
      obtain ⟨column, -, rfl⟩ := map_eq_ok.1 h
      exact ⟨'C', _, rfl, by decide, by decide⟩
  | mysql =>
      obtain ⟨column, -, rfl⟩ := map_eq_ok.1 h
      exact ⟨'C', _, rfl, by decide, by decide⟩
  | sqlite =>
      obtain ⟨column, -, rfl⟩ := map_eq_ok.1 h
      cases kind <;> exact ⟨_, _, rfl, by decide, by decide⟩

theorem beginsPlain_column {d : Dialect} {column : Column} {s : Text}
    (h : column.render d.escaper = .ok s) : BeginsPlain s := by
  unfold Column.render at h
  split at h
  · exact beginsPlain_cast (mapError_eq_ok.1 h)
  · have hcolumn := mapError_eq_ok.1 h
    cases d with
    | postgres => exact beginsPlain_quoteIdentifier (by decide) (by decide) hcolumn
    | mysql => exact beginsPlain_quoteIdentifier (by decide) (by decide) hcolumn
    | sqlite => exact beginsPlain_quoteIdentifier (by decide) (by decide) hcolumn

theorem beginsPlain_comparison {e : Escaper} {column s : Text} {op : Operator} {operand : Operand}
    (hcolumn : BeginsPlain column) (h : renderComparison e column op operand = .ok s) :
    BeginsPlain s := by
  unfold renderComparison at h
  split at h
  · cases h
    exact hcolumn.append _
  · cases h
    exact hcolumn.append _
  · obtain ⟨low, -, h⟩ := bind_eq_ok.1 h
    obtain ⟨high, -, h⟩ := bind_eq_ok.1 h
    obtain rfl := pure_eq_ok.1 h
    exact (((hcolumn.append _).append _).append _).append _
  · cases h
  · cases h
    exact ((hcolumn.append _).append _).append _
  · obtain ⟨items, -, h⟩ := bind_eq_ok.1 h
    obtain rfl := pure_eq_ok.1 h
    exact ((hcolumn.append _).append _).append _
  · cases h
  · obtain ⟨pattern, -, h⟩ := bind_eq_ok.1 h
    obtain rfl := pure_eq_ok.1 h
    exact ⟨'L', _, rfl, by decide, by decide⟩
  · cases h
  · obtain ⟨v, -, h⟩ := bind_eq_ok.1 h
    obtain rfl := pure_eq_ok.1 h
    exact (hcolumn.append _).append _
  · cases h

/-- A text that begins plainly, or with a bracket and then not with that letter. -/
def BeginsNode (s : Text) : Prop :=
  BeginsPlain s ∨ ∃ c t, s = '(' :: c :: t ∧ c ≠ 'n'

theorem BeginsNode.append {s : Text} (h : BeginsNode s) (t : Text) : BeginsNode (s ++ t) := by
  obtain hplain | ⟨c, u, rfl, hc⟩ := h
  · exact .inl (hplain.append t)
  · exact .inr ⟨c, u ++ t, rfl, hc⟩

/-- Brackets around a text that begins so, or around nothing. -/
theorem BeginsNode.bracketed {s : Text} (h : s ≠ [] → BeginsNode s) :
    BeginsNode ('(' :: (s ++ [')'])) := by
  rcases eq_or_ne s [] with rfl | hne
  · exact .inr ⟨')', [], rfl, by decide⟩
  · obtain ⟨c, t, rfl, -, hc⟩ | ⟨c, t, rfl, -⟩ := h hne
    · exact .inr ⟨c, t ++ [')'], rfl, hc⟩
    · exact .inr ⟨'(', c :: t ++ [')'], rfl, by decide⟩

theorem beginsNode_condition {d : Dialect} {c : Condition} {s : Text}
    (h : c.render d.escaper = .ok s) : BeginsNode s := by
  obtain ⟨parts, hparts, h⟩ := bind_eq_ok.1 h
  have hfirst : ∀ part others, parts = part :: others → BeginsPlain part := by
    rintro part others rfl
    obtain ⟨column, _, hpart, -, -⟩ := List.forall₂_cons_right_iff.1 (mapM_eq_ok.1 hparts)
    obtain ⟨quoted, hquoted, hcomparison⟩ := bind_eq_ok.1 hpart
    exact beginsPlain_comparison (beginsPlain_column hquoted) hcomparison
  split at h
  · obtain rfl := pure_eq_ok.1 h
    exact .inl (hfirst _ _ rfl)
  · obtain rfl := pure_eq_ok.1 h
    refine .bracketed fun hne => .inl ?_
    cases parts with
    | nil => exact absurd rfl hne
    | cons part others => exact (hfirst _ _ rfl).joinWith others

/-- A sequence begins as its first node does. -/
theorem BeginsNode.joinAll {e : Escaper} {nodes : List Node} {s : Text}
    (hnodes : ∀ node ∈ nodes, ∀ t, node.render e = .ok t → BeginsNode t)
    (h : Node.joinAll e nodes = .ok s) (hne : s ≠ []) : BeginsNode s := by
  cases nodes with
  | nil => exact absurd (pure_eq_ok.1 (Node.joinAll.eq_1 e ▸ h)).symm hne
  | cons node nodes =>
      rw [Node.joinAll_cons] at h
      obtain ⟨first, hfirst, h⟩ := bind_eq_ok.1 h
      obtain ⟨rest, -, h⟩ := bind_eq_ok.1 h
      obtain rfl := pure_eq_ok.1 h
      exact (hnodes node List.mem_cons_self first hfirst).append rest

theorem beginsNode_render {d : Dialect} (node : Node) :
    ∀ s, node.render d.escaper = .ok s → BeginsNode s := by
  induction node using Node.induction with
  | condition j c =>
      intro s h
      rw [Node.render] at h
      exact beginsNode_condition h
  | group j children ih =>
      intro s h
      rw [Node.render] at h
      obtain ⟨inner, hinner, h⟩ := bind_eq_ok.1 h
      obtain rfl := pure_eq_ok.1 h
      exact .bracketed fun hne => .joinAll ih hinner hne

/-- No conditions render to the text that stands for none. -/
theorem Node.joinAll_ne_notice (d : Dialect) (nodes : List Node) :
    joinAll d.escaper nodes ≠ .ok "(no condition)" := by
  intro h
  obtain ⟨c, t, heq, hbracket, -⟩ | ⟨c, t, heq, hc⟩ :=
    BeginsNode.joinAll (fun node _ => beginsNode_render node) h (by simp)
  · exact hbracket (List.cons_eq_cons.1 heq).1.symm
  · exact hc (List.cons_eq_cons.1 (List.cons_eq_cons.1 heq).2).1.symm

end WhereClause
