import WhereClause.Proofs.Origin
import WhereClause.Proofs.ReadSequence
import WhereClause.Proofs.Trimming

/-!
# Sentences are parsed as they are meant

The parser takes the white space off both ends of a text before it reads a sequence from it.  A
sentence has none there: it begins with a bracket or a column, and it ends with a keyword, a
bracket or a value.

Main results:

* `trim_written`: a sentence is its own trimmed text;
* `parse_of_isSentence`: a sentence stands for the nodes it was written from;
* `parse_written`: **the parser accepts every sentence and reads it as it is meant**.
-/

set_option autoImplicit false

namespace WhereClause.Shorthand

/-! ### The end of a sentence -/

theorem isBlank_toUpper (c : Char) : isBlank c.toUpper = isBlank c := by
  have hletters : ∀ n < 26, isBlank (Char.ofNat (97 + n)).toUpper =
      isBlank (Char.ofNat (97 + n)) := by decide
  rcases @toUpper_eq_self_or c with h | ⟨n, hn, rfl⟩
  · rw [h]
  · exact hletters n hn

theorem Cased.endsSolid {word s : Text} (h : Cased word s) (hne : word ≠ [])
    (hword : (Text.toUpper word).all (!isBlank ·) = true) : EndsSolid s := by
  refine endsSolid_of_forall ?_ fun c hc => ?_
  · rintro rfl
    exact hne (List.eq_nil_of_length_eq_zero h.length_eq.symm)
  · have hmem : c.toUpper ∈ Text.toUpper word := h ▸ List.mem_map_of_mem hc
    have hupper := List.all_eq_true.1 hword _ hmem
    rwa [Bool.not_eq_true', isBlank_toUpper] at hupper

theorem endsSolid_value {v : Value} (hv : v.isLiteral = true) {s : Text}
    (hs : v.written.Spells s) : EndsSolid s := by
  cases v with
  | null =>
      have hs : Cased "NULL" s := hs
      exact hs.endsSolid (by decide) (by decide)
  | bool b =>
      cases b with
      | true =>
          have hs : Cased "TRUE" s := Value.spells_bool.1 hs
          exact hs.endsSolid (by decide) (by decide)
      | false =>
          have hs : Cased "FALSE" s := Value.spells_bool.1 hs
          exact hs.endsSolid (by decide) (by decide)
  | int n =>
      have hs : s = Numeral.ofInt n.toInt := hs
      have hblanks : ∀ n < 10, isBlank (Char.ofNat (48 + n)) = false := by decide
      have hdigits : EndsSolid (Numeral.ofNat n.toInt.natAbs) := by
        refine endsSolid_of_forall (Numeral.ofNat_ne_nil _) fun c hc => ?_
        obtain ⟨n, hn, rfl⟩ := exists_digit (Numeral.isDigit_of_mem_ofNat hc)
        exact hblanks n hn
      rw [hs, Numeral.ofInt]
      split
      · exact hdigits.append ['-']
      · exact hdigits
  | string text =>
      have hs : s = Quoted.write '\'' text := hs
      exact ⟨'\'' :: Quoted.double '\'' text, '\'', hs, by decide⟩
  | _ => cases hv

/-- The last part of a comparison is a keyword, a bracket or a value. -/
theorem exists_last_written {op : Operator} {operand : Operand} (h : Operand.Shape op operand) :
    ∃ ps p, op.written ++ operand.written = ps ++ [p] ∧
      (p = .word "NULL" ∨ p = .verbatim [')'] ∨ ∃ v ∈ operand.values, p = v.written) := by
  cases h with
  | isNull => exact ⟨[.word "IS", .gap], _, rfl, .inl rfl⟩
  | isNotNull => exact ⟨[.word "IS", .gap, .word "NOT", .gap], _, rfl, .inl rfl⟩
  | between low high =>
      exact ⟨[.word "BETWEEN", .gap, low.written, .gap, .word "AND", .gap], _, rfl,
        .inr (.inr ⟨high, by simp [Operand.values], rfl⟩)⟩
  | list v vs =>
      exact ⟨.word "IN" :: .gap :: .verbatim ['('] :: v.written :: Value.writtenRest vs, _, rfl,
        .inr (.inl rfl)⟩
  | @subquery query _ =>
      exact ⟨[.word "IN", .gap, .verbatim ['('], .verbatim query], _, rfl, .inr (.inl rfl)⟩
  | @like v _ =>
      exact ⟨[.word "LIKE", .gap], _, rfl, .inr (.inr ⟨v, by simp [Operand.values], rfl⟩)⟩
  | plain v hop =>
      exact ⟨[.verbatim op.symbol, .gap], _, by rw [written_plain hop]; rfl,
        .inr (.inr ⟨v, by simp [Operand.values], rfl⟩)⟩

theorem endsSolid_condition {c : Condition} (hbuilt : c.Built) (hc : c.IsSentence) {s : Text}
    (hs : Spells c.written s) : EndsSolid s := by
  -- how the parts in front of the last are spelt does not matter
  obtain ⟨ps, p, hlast, hp⟩ := exists_last_written hbuilt.shape
  obtain ⟨fields, _, rfl, -, gap, tail, rfl, -, htail⟩ := hs
  rw [hlast] at htail
  obtain ⟨t, last, rfl, -, hspells⟩ := spells_append.1 htail
  have hspells := spells_singleton.1 hspells
  refine EndsSolid.append fields (EndsSolid.append gap (EndsSolid.append t ?_))
  rcases hp with rfl | rfl | ⟨v, hv, rfl⟩
  · have hspells : Cased "NULL" last := hspells
    exact hspells.endsSolid (by decide) (by decide)
  · have hspells : last = [')'] := hspells
    exact ⟨[], ')', hspells, by decide⟩
  · exact endsSolid_value (hc.values v hv) hspells

theorem endsSolid_node {node : Node} (h : node.IsSentence) {s : Text}
    (hs : Spells node.written s) : EndsSolid s := by
  cases node with
  | condition j c =>
      rw [Node.written_condition] at hs
      exact endsSolid_condition (Node.built_condition.1 h.built) (h.conditions c (by simp)) hs
  | group j children =>
      rw [Node.written_group] at hs
      obtain ⟨_, _, rfl, rfl, hinner⟩ := hs
      obtain ⟨inner, _, rfl, -, hclose⟩ := spells_append.1 hinner
      obtain rfl := spells_singleton.1 hclose
      exact EndsSolid.append ['('] ⟨inner, ')', rfl, by decide⟩

theorem endsSolid_writtenRest {nodes : List Node} (hne : nodes ≠ [])
    (h : ∀ node ∈ nodes, node.IsSentence) {s : Text} (hs : Spells (Node.writtenRest nodes) s) :
    EndsSolid s := by
  induction nodes generalizing s with
  | nil => exact absurd rfl hne
  | cons node nodes ih =>
      rw [List.forall_mem_cons] at h
      obtain ⟨gap, word, gap₂, t, rest, rfl, -, -, -, ht, hrest⟩ := spells_writtenRest_node.1 hs
      refine EndsSolid.append gap (EndsSolid.append word (EndsSolid.append gap₂ ?_))
      rcases eq_or_ne nodes [] with rfl | hnodes
      · rw [Node.writtenRest] at hrest
        obtain rfl : rest = [] := hrest
        rw [List.append_nil]
        exact endsSolid_node h.1 ht
      · exact EndsSolid.append t (ih hnodes h.2 hrest)

/-- There is no white space around a sentence. -/
theorem trim_written {nodes : List Node} (h : ∀ node ∈ nodes, node.IsSentence) {s : Text}
    (hs : Spells (Node.writtenAll nodes) s) : Text.trim s = s := by
  cases nodes with
  | nil =>
      rw [Node.writtenAll] at hs
      obtain rfl : s = [] := hs
      rfl
  | cons node nodes =>
      rw [List.forall_mem_cons] at h
      rw [Node.writtenAll] at hs
      obtain ⟨t, rest, rfl, ht, hrest⟩ := spells_append.1 hs
      have hstart : Text.trimStart (t ++ rest) = t ++ rest :=
        dropWhile_of_stops (opensTerm_written h.1 t rest ht)
      have hend : EndsSolid (t ++ rest) := by
        rcases eq_or_ne nodes [] with rfl | hnodes
        · rw [Node.writtenRest] at hrest
          obtain rfl : rest = [] := hrest
          rw [List.append_nil]
          exact endsSolid_node h.1 ht
        · exact EndsSolid.append t (endsSolid_writtenRest hnodes h.2 hrest)
      rw [Text.trim, hstart, hend.trimEnd_eq]

theorem written_ne_nil {nodes : List Node} (hne : nodes ≠ [])
    (h : ∀ node ∈ nodes, node.IsSentence) {s : Text} (hs : Spells (Node.writtenAll nodes) s) :
    s ≠ [] := by
  obtain ⟨node, nodes, rfl⟩ := List.exists_cons_of_ne_nil hne
  rw [Node.writtenAll] at hs
  obtain ⟨t, rest, rfl, ht, -⟩ := spells_append.1 hs
  obtain ⟨u, c, rfl, -⟩ := endsSolid_node (h node (by simp)) ht
  simp

/-- A sentence stands for the nodes it was written from. -/
theorem parse_of_isSentence {nodes : List Node} (h : ∀ node ∈ nodes, node.IsSentence)
    (hfirst : ∀ node ∈ nodes.head?, node.joiner = .and) (hdepth : Node.nestingAll nodes ≤ 128)
    {s : Text} (hs : Spells (Node.writtenAll nodes) s) : parse s = .ok nodes := by
  rcases eq_or_ne nodes [] with rfl | hne
  · rw [Node.writtenAll] at hs
    obtain rfl : s = [] := hs
    rfl
  · have hdepth : Node.nestingAll nodes ≤ maxDepth := hdepth
    have hend : Closes [] := by simp [Closes]
    have hread := sequence_written hne h hfirst hdepth hs hend
    rw [List.append_nil] at hread
    exact parse_of_read (trim_written h hs) (written_ne_nil hne h hs) hread
      (buildAll_draft fun node hnode => (h node hnode).built)

/-- The parser accepts every sentence and reads it as it is meant, with any white space between the
parts and with keywords in any case. -/
theorem parse_written {nodes : List Node} (hbuilt : ∀ node ∈ nodes, node.Built)
    (hfirst : ∀ node ∈ nodes.head?, node.joiner = .and) (hled : ∀ node ∈ nodes, node.LedByAnd)
    (hdepth : Node.nestingAll nodes ≤ 128)
    (hconditions : ∀ c ∈ Node.conditionsAll nodes, c.IsSentence)
    {s : Text} (hs : Spells (Node.writtenAll nodes) s) : parse s = .ok nodes := by
  rw [Node.forall_mem_conditionsAll] at hconditions
  refine parse_of_isSentence (fun node hnode => ?_) hfirst hdepth hs
  exact ⟨hbuilt node hnode, hled node hnode, hconditions node hnode⟩

set_option maxRecDepth 4000 in
/-- A group of a null check and a list, with tabs, line breaks and mixed case. -/
theorem parse_written_mixed :
    let nodes : List Node := [.group .and [
      .condition .and ⟨"a", [⟨"a", none⟩], .isNotNull, .none⟩,
      .condition .or ⟨"b|c", [⟨"b", none⟩, ⟨"c", none⟩], .isIn,
        .list [.int 1, .string "it's"]⟩]]
    let s : Text := "(a\tis  NOT\r\nnull oR b|c In (1, 'it''s'))"
    (∀ node ∈ nodes, node.Built) ∧ (∀ node ∈ nodes.head?, node.joiner = .and) ∧
      (∀ node ∈ nodes, node.LedByAnd) ∧ Node.nestingAll nodes ≤ 128 ∧
      (∀ c ∈ Node.conditionsAll nodes, c.IsSentence) ∧ Spells (Node.writtenAll nodes) s ∧
      parse s = .ok nodes := by
  intro nodes s
  have hspells : Spells (Node.writtenAll nodes) s := by
    have htexts : s = ["(".toList, "a".toList, "\t".toList, "is".toList, "  ".toList, "NOT".toList,
        "\r\n".toList, "null".toList, " ".toList, "oR".toList, " ".toList, "b|c".toList, " ".toList,
        "In".toList, " ".toList, "(".toList, "1".toList, ",".toList, " ".toList, "'it''s'".toList,
        ")".toList, ")".toList].flatten := by decide
    rw [htexts]
    refine spells_flatten ?_
    simp only [nodes, Node.writtenAll, Node.writtenRest, Node.written]
    have hgap : ∀ {gap : Text}, gap ≠ [] → gap.all isGap = true → IsGap gap := fun hne hall =>
      ⟨hne, List.all_eq_true.1 hall⟩
    have hspace : IsGap " " := hgap (by decide) rfl
    exact .cons rfl <| .cons rfl <| .cons (hgap (by decide) rfl) <| .cons rfl <|
      .cons (hgap (by decide) rfl) <| .cons rfl <| .cons (hgap (by decide) rfl) <| .cons rfl <|
      .cons hspace <| .cons rfl <| .cons hspace <| .cons rfl <| .cons hspace <| .cons rfl <|
      .cons hspace <| .cons rfl <| .cons rfl <| .cons rfl <| .cons hspace <| .cons rfl <|
      .cons rfl <| .cons rfl .nil
  have hbuilt : ∀ node ∈ nodes, node.Built := by
    simp only [nodes, List.forall_mem_cons, Node.built_group, Node.built_condition]
    exact ⟨⟨by decide, rfl, rfl, by simp⟩, by simp⟩
  have hled : ∀ node ∈ nodes, node.LedByAnd := by
    simp only [nodes, List.forall_mem_cons]
    refine ⟨.group .and (by simp [Node.joiner]) ?_, by simp⟩
    simp only [List.forall_mem_cons]
    exact ⟨.condition _ _, .condition _ _, by simp⟩
  have hconditions : ∀ c ∈ Node.conditionsAll nodes, c.IsSentence := by
    simp only [nodes, Node.conditionsAll_cons, Node.conditionsAll_nil, Node.conditions_group,
      Node.conditions_condition, List.append_nil, List.singleton_append, List.forall_mem_cons]
    exact ⟨⟨List.all_eq_true.1 rfl, by simp [Operand.values], fun _ h => by cases h⟩,
      ⟨List.all_eq_true.1 rfl, by simp [Operand.values, Value.isLiteral], fun _ h => by cases h⟩,
      by simp⟩
  have hfirst : ∀ node ∈ nodes.head?, node.joiner = .and := by simp [nodes, Node.joiner]
  have hdepth : Node.nestingAll nodes ≤ 128 := by simp [nodes]
  exact ⟨hbuilt, hfirst, hled, hdepth, hconditions, hspells,
    parse_written hbuilt hfirst hled hdepth hconditions hspells⟩

end WhereClause.Shorthand
