import WhereClause.Proofs.Outcome
import WhereClause.Proofs.ReadComparison
import WhereClause.Shorthand.Parse

/-!
# Written sequences are read

A term is read back from each of its texts, by induction on the node, provided that what stands
behind does not go on like a value.  A sequence is read up to the end of the text or to a closing
bracket, where no joiner can be read.

Main definitions:

* `Node.draft`: the draft that a node is read as;
* `Closes`: a sequence ends in front of the text.

Main results:

* `sequence_written`: **a written sequence is read as its drafts**;
* `buildAll_draft`: the drafts are built as the nodes they came from.
-/

set_option autoImplicit false

namespace WhereClause

open Shorthand

namespace Node

mutual

def draft : Node → Draft
  | condition j c => .condition j c.fields c.operator c.operand
  | group j children => .group j (draftAll children)

def draftAll : List Node → List Draft
  | [] => []
  | node :: nodes => draft node :: draftAll nodes

end

theorem draft_condition (j : Joiner) (c : Condition) :
    draft (condition j c) = .condition j c.fields c.operator c.operand := by rw [draft]

theorem draft_group (j : Joiner) (children : List Node) :
    draft (group j children) = .group j (draftAll children) := by rw [draft]

theorem draftAll_eq_map (nodes : List Node) : draftAll nodes = nodes.map draft := by
  induction nodes with
  | nil => rw [draftAll, List.map_nil]
  | cons node nodes ih => rw [draftAll, List.map_cons, ih]

theorem withJoiner_joiner (node : Node) : node.withJoiner node.joiner = node := by
  cases node <;> rfl

end Node

namespace Shorthand

/-! ### Conditions -/

/-- No white space is a character of a list of columns. -/
theorem isFieldChar_of_isBlank {c : Char} (h : isBlank c = true) : isFieldChar c = false := by
  have hblanks : ∀ n ∈ List.range' 9 5 ++ List.range' 0x2000 11 ++
      [32, 0x85, 0xA0, 0x1680, 0x2028, 0x2029, 0x202F, 0x205F, 0x3000],
      isFieldChar (Char.ofNat n) = false := by decide +kernel
  have hmem : c.toNat ∈ List.range' 9 5 ++ List.range' 0x2000 11 ++
      [32, 0x85, 0xA0, 0x1680, 0x2028, 0x2029, 0x202F, 0x205F, 0x3000] := by
    simp only [isBlank, Bool.or_eq_true, Bool.and_eq_true, decide_eq_true_eq, beq_iff_eq] at h
    simp only [List.mem_append, List.mem_range'_1, List.mem_cons, List.not_mem_nil, or_false]
    omega
  have hc := hblanks c.toNat hmem
  rwa [Char.ofNat_toNat] at hc

theorem isBlank_of_isFieldChar {c : Char} (h : isFieldChar c = true) : isBlank c = false := by
  cases hblank : isBlank c with
  | false => rfl
  | true =>
      rw [isFieldChar_of_isBlank hblank] at h
      contradiction

theorem isBlank_of_isBareChar {c : Char} (h : isBareChar c = true) : isBlank c = false := by
  simp only [isBareChar, Bool.or_eq_true, beq_iff_eq] at h
  rcases h with (((h | rfl) | rfl) | rfl) | rfl
  · exact isBlank_of_isFieldChar (by simp [isFieldChar, h])
  all_goals decide

theorem stops_field {gap : Text} (hgap : IsGap gap) (rest : Text) :
    Stops isFieldChar (gap ++ rest) := by
  obtain ⟨hne, hall⟩ := hgap
  obtain ⟨c, gap, rfl⟩ := List.exists_cons_of_ne_nil hne
  exact stops_cons.2 (isFieldChar_of_isBlank (isBlank_of_isGap (hall c (by simp))))

/-- No white space stands where an operator was written. -/
theorem stops_operator {op : Operator} {ps : List Piece} {s : Text}
    (hs : Spells (op.written ++ ps) s) (rest : Text) : Stops isGap (s ++ rest) := by
  cases op with
  | isNull | isNotNull =>
      obtain ⟨word, tail, rfl, hword, -⟩ := hs
      have hword : Cased "IS" word := hword
      rw [List.append_assoc]
      exact hword.stops_gap (by decide) _
  | between =>
      obtain ⟨word, tail, rfl, hword, -⟩ := hs
      have hword : Cased "BETWEEN" word := hword
      rw [List.append_assoc]
      exact hword.stops_gap (by decide) _
  | isIn =>
      obtain ⟨word, tail, rfl, hword, -⟩ := hs
      have hword : Cased "IN" word := hword
      rw [List.append_assoc]
      exact hword.stops_gap (by decide) _
  | like =>
      obtain ⟨word, tail, rfl, hword, -⟩ := hs
      have hword : Cased "LIKE" word := hword
      rw [List.append_assoc]
      exact hword.stops_gap (by decide) _
  | _ =>
      obtain ⟨_, tail, rfl, rfl, -⟩ := hs
      exact stops_cons.2 (by decide)

theorem fields_ne_nil {c : Condition} (h : c.Built) : c.fields ≠ [] := by
  have hcolumns := h.columns
  intro hnil
  rw [hnil] at hcolumns
  cases hcolumns

/-- A written condition is read back. -/
theorem condition_written {c : Condition} (hbuilt : c.Built) (hc : c.IsSentence) {s rest : Text}
    (hs : Spells c.written s) (h : Stops isValueChar rest) (j : Joiner) :
    condition j (s ++ rest) = .done (.condition j c.fields c.operator c.operand) rest := by
  obtain ⟨fields, _, rfl, hfields, gap, tail, rfl, hgap, htail⟩ := hs
  have hfields : fields = c.fields := hfields
  have hshape := hbuilt.shape
  rw [hfields, List.append_assoc, List.append_assoc, condition,
    Reader.bind_done (run_append (fields_ne_nil hbuilt) hc.fields (stops_field hgap _)),
    Reader.bind_done (blanks_gap hgap (stops_operator htail rest)),
    Reader.bind_done (comparison_written hshape hc.values hc.query htail h)]
  rfl

/-! ### Joiners -/

/-- A sequence ends in front of the text: it is empty, or closes a bracket. -/
def Closes (rest : Text) : Prop :=
  ∀ c ∈ rest.head?, c = ')'

theorem Closes.stops {rest : Text} (h : Closes rest) {p : Char → Bool} (hp : p ')' = false) :
    Stops p rest := by
  intro c hc
  rw [h c hc, hp]

theorem joiner_cased {j : Joiner} {s rest : Text} (hs : Cased j.keyword s)
    (h : Stops isWordChar rest) : joiner (s ++ rest) = .done j rest := by
  cases j with
  | and => exact Reader.orElse_done (Reader.seqRight_done (keyword_cased hs h))
  | or =>
      have hs : Cased "OR" s := hs
      rw [joiner, Reader.orElse_unmatched (Reader.seqRight_unmatched
        (keyword_other hs (by decide)))]
      exact Reader.seqRight_done (keyword_cased hs h)

theorem joiner_head {c : Char} (hand : foldCase c ≠ foldCase 'A') (hor : foldCase c ≠ foldCase 'O')
    (rest : Text) : joiner (c :: rest) = .unmatched .symbol (c :: rest) := by
  rw [joiner, Reader.orElse_unmatched (Reader.seqRight_unmatched (keyword_head "AND" rfl hand))]
  exact Reader.seqRight_unmatched (keyword_head "OR" rfl hor)

theorem joiner_closes {rest : Text} (h : Closes rest) :
    joiner rest = .unmatched .symbol rest := by
  cases rest with
  | nil => rfl
  | cons c rest =>
      obtain rfl : c = ')' := h c rfl
      exact joiner_head (by decide) (by decide) rest

/-! ### Sequences -/

/-- The reader reads the node behind any joiner. -/
def ReadsTerm (term : Joiner → Reader Draft) (node : Node) : Prop :=
  ∀ j s rest, Spells node.written s → Stops isValueChar rest →
    term j (s ++ rest) = .done (node.withJoiner j).draft rest

/-- A text of the node begins with no white space. -/
def OpensTerm (node : Node) : Prop :=
  ∀ s rest, Spells node.written s → Stops isBlank (s ++ rest)

theorem OpensTerm.stops_gap {node : Node} (h : OpensTerm node) {s : Text}
    (hs : Spells node.written s) (rest : Text) : Stops isGap (s ++ rest) :=
  (h s rest hs).mono fun _ hc => isBlank_of_isGap hc

section Sequences

variable {term : Joiner → Reader Draft}

theorem spells_writtenRest_node {node : Node} {nodes : List Node} {s : Text} :
    Spells (Node.writtenRest (node :: nodes)) s ↔ ∃ gap word gap₂ t rest,
      s = gap ++ (word ++ (gap₂ ++ (t ++ rest))) ∧ IsGap gap ∧ Cased node.joiner.keyword word ∧
        IsGap gap₂ ∧ Spells node.written t ∧ Spells (Node.writtenRest nodes) rest := by
  rw [Node.writtenRest]
  constructor
  · rintro ⟨gap, _, rfl, hgap, word, _, rfl, hword, gap₂, _, rfl, hgap₂, h⟩
    obtain ⟨t, rest, rfl, ht, hrest⟩ := spells_append.1 h
    exact ⟨gap, word, gap₂, t, rest, rfl, hgap, hword, hgap₂, ht, hrest⟩
  · rintro ⟨gap, word, gap₂, t, rest, rfl, hgap, hword, hgap₂, ht, hrest⟩
    exact ⟨gap, _, rfl, hgap, word, _, rfl, hword, gap₂, _, rfl, hgap₂,
      spells_append.2 ⟨t, rest, rfl, ht, hrest⟩⟩

/-- What follows a term in a sequence does not go on like a value. -/
theorem stops_writtenRest_nodes {nodes : List Node} {s rest : Text}
    (hs : Spells (Node.writtenRest nodes) s) (h : Closes rest) : Stops isValueChar (s ++ rest) := by
  cases nodes with
  | nil =>
      rw [Node.writtenRest] at hs
      obtain rfl : s = [] := hs
      exact h.stops (by decide)
  | cons node nodes =>
      obtain ⟨gap, word, gap₂, t, last, rfl, hgap, -⟩ := spells_writtenRest_node.1 hs
      rw [List.append_assoc]
      exact stops_gap hgap _

theorem joiner_stops_gap {j : Joiner} {s : Text} (hs : Cased j.keyword s) (rest : Text) :
    Stops isGap (s ++ rest) := by
  cases j with
  | and =>
      have hs : Cased "AND" s := hs
      exact hs.stops_gap (by decide) rest
  | or =>
      have hs : Cased "OR" s := hs
      exact hs.stops_gap (by decide) rest

/-- The terms of a sequence behind the first are read with their joiners. -/
theorem many_writtenRest_nodes {nodes : List Node} (hread : ∀ node ∈ nodes, ReadsTerm term node)
    (hopen : ∀ node ∈ nodes, OpensTerm node) {s rest : Text}
    (hs : Spells (Node.writtenRest nodes) s) (h : Closes rest) :
    Reader.many (do
      blanks
      let j ← joiner
      blanks
      term j) (s ++ rest) = .done (nodes.map Node.draft) rest := by
  induction nodes generalizing s with
  | nil =>
      rw [Node.writtenRest] at hs
      obtain rfl : s = [] := hs
      refine @Reader.many_unmatched _ _ _ rest .symbol ?_
      rw [List.nil_append, Reader.bind_done (blanks_of_stops (h.stops (by decide)))]
      exact Reader.bind_unmatched (joiner_closes h)
  | cons node nodes ih =>
      rw [List.forall_mem_cons] at hread hopen
      obtain ⟨gap, word, gap₂, t, last, rfl, hgap, hword, hgap₂, ht, hlast⟩ :=
        spells_writtenRest_node.1 hs
      have hstep := hread.1 node.joiner t (last ++ rest) ht (stops_writtenRest_nodes hlast h)
      rw [Node.withJoiner_joiner] at hstep
      simp only [List.append_assoc]
      refine Reader.many_done ?_ ?_ (ih hread.2 hopen.2 hlast)
      · rw [Reader.bind_done (blanks_gap hgap (joiner_stops_gap hword _)),
          Reader.bind_done (joiner_cased hword (stops_word (stops_gap hgap₂ _))),
          Reader.bind_done (blanks_gap hgap₂ (hopen.1.stops_gap ht _))]
        exact hstep
      · have hne := List.length_pos_of_ne_nil hgap.1
        simp only [List.length_append]
        omega

/-- A written sequence is read as its drafts. -/
theorem sequence_of_terms {node : Node} {nodes : List Node} (hfirst : node.joiner = .and)
    (hread : ∀ n ∈ node :: nodes, ReadsTerm term n) (hopen : ∀ n ∈ nodes, OpensTerm n)
    {s rest : Text} (hs : Spells (Node.writtenAll (node :: nodes)) s) (h : Closes rest) :
    sequence term (s ++ rest) = .done ((node :: nodes).map Node.draft) rest := by
  rw [List.forall_mem_cons] at hread
  rw [Node.writtenAll] at hs
  obtain ⟨t, last, rfl, ht, hlast⟩ := spells_append.1 hs
  have hterm := hread.1 .and t (last ++ rest) ht (stops_writtenRest_nodes hlast h)
  rw [← hfirst, Node.withJoiner_joiner, hfirst] at hterm
  rw [List.append_assoc, sequence, Reader.bind_done hterm,
    Reader.bind_done (many_writtenRest_nodes hread.2 hopen hlast h)]
  rfl

end Sequences

/-! ### Terms -/

/-- A condition begins with a character of its columns. -/
theorem exists_cons_condition {c : Condition} (hbuilt : c.Built) (hc : c.IsSentence) {s : Text}
    (hs : Spells c.written s) : ∃ d t, s = d :: t ∧ isFieldChar d = true := by
  obtain ⟨fields, tail, rfl, hfields, -⟩ := hs
  have hfields : fields = c.fields := hfields
  obtain ⟨d, t, hd⟩ := List.exists_cons_of_ne_nil (fields_ne_nil hbuilt)
  exact ⟨d, t ++ tail, by rw [hfields, hd, List.cons_append], hc.fields d (by rw [hd]; simp)⟩

theorem opensTerm_written {node : Node} (h : node.IsSentence) : OpensTerm node := by
  intro s rest hs
  cases node with
  | condition j c =>
      rw [Node.written_condition] at hs
      obtain ⟨d, t, rfl, hd⟩ :=
        exists_cons_condition (Node.built_condition.1 h.built) (h.conditions c (by simp)) hs
      exact stops_cons.2 (isBlank_of_isFieldChar hd)
  | group j children =>
      rw [Node.written_group] at hs
      obtain ⟨_, tail, rfl, rfl, -⟩ := hs
      exact stops_cons.2 (by decide)

/-- The reader of groups gives up at the first character, whether a level is left or not. -/
theorem term_of_ne_bracket {c : Char} (hc : c ≠ '(') (levels : Nat) (j : Joiner) (s : Text) :
    term levels j (c :: s) = condition j (c :: s) := by
  cases levels with
  | zero =>
      have hgroup : noGroup (c :: s) = .unmatched .mark (c :: s) := by
        unfold noGroup
        split
        · rename_i heq
          exact absurd (List.cons.inj heq).1 hc
        · rfl
      exact Reader.orElse_unmatched hgroup
  | succ levels => exact Reader.orElse_unmatched (Reader.bind_unmatched (mark_cons_of_ne hc s))

/-- A written term is read back. -/
theorem readsTerm_written {node : Node} (h : node.IsSentence) {levels : Nat}
    (hlevels : node.nesting ≤ levels) : ReadsTerm (term levels) node := by
  induction node using Node.induction generalizing levels with
  | condition i c =>
      intro j s rest hs hrest
      rw [Node.written_condition] at hs
      have hbuilt := Node.built_condition.1 h.built
      have hread := condition_written hbuilt (h.conditions c (by simp)) hs hrest j
      obtain ⟨d, t, rfl, hd⟩ := exists_cons_condition hbuilt (h.conditions c (by simp)) hs
      have hopen : d ≠ '(' := by
        rintro rfl
        exact absurd hd (by decide)
      rw [List.cons_append] at hread ⊢
      rw [Node.withJoiner, Node.draft_condition, term_of_ne_bracket hopen]
      exact hread
  | group i children ih =>
      intro j s rest hs hrest
      rw [Node.written_group] at hs
      obtain ⟨_, _, rfl, rfl, hinner⟩ := hs
      obtain ⟨inner, _, rfl, hchildren, hclose⟩ := spells_append.1 hinner
      obtain rfl := spells_singleton.1 hclose
      obtain ⟨hne, hfirst, hsentences⟩ := Node.isSentence_group h
      obtain ⟨child, others, rfl⟩ := List.exists_cons_of_ne_nil hne
      rw [Node.nesting_group] at hlevels
      -- the group uses up one level, and its children nest one group less
      obtain ⟨n, rfl⟩ : ∃ n, levels = n + 1 := ⟨levels - 1, by omega⟩
      have hread : ∀ node ∈ child :: others, ReadsTerm (term n) node := fun node hnode =>
        ih node hnode (hsentences node hnode)
          (Nat.le_trans (Node.nesting_le_nestingAll hnode) (by omega))
      have hopen : ∀ node ∈ child :: others, OpensTerm node := fun node hnode =>
        opensTerm_written (hsentences node hnode)
      have hcloses : Closes (')' :: rest) := by simp [Closes]
      have hsequence := sequence_of_terms (hfirst child rfl) hread
        (fun node hnode => hopen node (List.mem_cons_of_mem _ hnode)) hchildren hcloses
      have hblanks : Stops isGap (inner ++ ')' :: rest) := by
        rw [Node.writtenAll] at hchildren
        obtain ⟨t, last, rfl, ht, -⟩ := spells_append.1 hchildren
        rw [List.append_assoc]
        exact (hopen child List.mem_cons_self).stops_gap ht _
      have hgroup : group j (sequence (term n)) ('(' :: (inner ++ ')' :: rest)) =
          .done (.group j ((child :: others).map Node.draft)) rest := by
        rw [group, Reader.bind_done (mark_cons '(' _), Reader.bind_done (blanks_of_stops hblanks),
          Reader.bind_done hsequence,
          Reader.bind_done (blanks_of_stops (hcloses.stops (by decide))),
          Reader.bind_done (mark_cons ')' rest)]
        rfl
      have htext : ['('] ++ (inner ++ [')']) ++ rest = '(' :: (inner ++ ')' :: rest) := by simp
      rw [htext, term, Node.withJoiner, Node.draft_group, Node.draftAll_eq_map]
      exact Reader.orElse_done hgroup

/-- A written sequence is read as its drafts. -/
theorem sequence_written {nodes : List Node} (hne : nodes ≠ [])
    (h : ∀ node ∈ nodes, node.IsSentence) (hfirst : ∀ node ∈ nodes.head?, node.joiner = .and)
    {levels : Nat} (hlevels : Node.nestingAll nodes ≤ levels) {s rest : Text}
    (hs : Spells (Node.writtenAll nodes) s) (hrest : Closes rest) :
    sequence (term levels) (s ++ rest) = .done (nodes.map Node.draft) rest := by
  obtain ⟨node, nodes, rfl⟩ := List.exists_cons_of_ne_nil hne
  refine sequence_of_terms (hfirst node rfl) (fun n hn => ?_) (fun n hn => ?_) hs hrest
  · exact readsTerm_written (h n hn) (Nat.le_trans (Node.nesting_le_nestingAll hn) hlevels)
  · exact opensTerm_written (h n (List.mem_cons_of_mem _ hn))

/-! ### Building -/

theorem buildAll_of_forall {nodes : List Node} (h : ∀ node ∈ nodes, node.draft.build = .ok node) :
    Draft.buildAll (nodes.map Node.draft) = .ok nodes := by
  induction nodes with
  | nil => rw [List.map_nil, Draft.buildAll]; rfl
  | cons node nodes ih =>
      rw [List.forall_mem_cons] at h
      rw [List.map_cons, Draft.buildAll, h.1, ih h.2]
      rfl

/-- A node that was built is built again from its draft. -/
theorem build_draft {node : Node} (h : node.Built) : node.draft.build = .ok node := by
  induction node using Node.induction with
  | condition j c =>
      rw [Node.draft_condition, Draft.build, Node.ofParts_eq_ok]
      exact ⟨c, Node.built_condition.1 h, rfl⟩
  | group j children ih =>
      obtain ⟨hne, hchildren⟩ := Node.built_group.1 h
      have hall := buildAll_of_forall fun child hchild => ih child hchild (hchildren child hchild)
      rw [Node.draft_group, Draft.build, Node.draftAll_eq_map, hall, ok_bind, Node.enclose_eq_ok]
      exact ⟨hne, rfl⟩

theorem buildAll_draft {nodes : List Node} (h : ∀ node ∈ nodes, node.Built) :
    Draft.buildAll (nodes.map Node.draft) = .ok nodes :=
  buildAll_of_forall fun node hnode => build_draft (h node hnode)

end Shorthand

end WhereClause
