import WhereClause.Proofs.Compound
import WhereClause.Proofs.Places

/-!
# The limit on groups inside each other

The reader of groups calls itself for every bracket, so that a text of nothing but brackets would
exhaust it if it did not stop somewhere.  At the bracket that opens one group too many it stops for
good.  This is not one more form that does not match: no alternative is tried in its place, no
repetition takes it for its end, and neither what was read before nor what follows can turn it into
another answer.

Main definitions:

* `LeadIn`: what may stand in front of a bracket, which is nothing or conditions and a joiner;
* `openings`: brackets with their lead-ins in front of them and white space behind them.

Main results:

* `tooDeep_behind_conditions`: conditions do not keep what follows them from being too deep;
* `tooDeep_of_openings`: a bracket is too deep behind as many brackets as there are levels;
* `nestingAll_le_of_parse`: what is accepted nests no more groups than there are levels;
* `parse_tooDeep`: **the limit is met where it should be, whatever follows, and nowhere else**.
-/

set_option autoImplicit false

namespace WhereClause.Shorthand

variable {levels : Nat} {place : Text}

/-! ### Conditions in front of a group -/

namespace Reader

variable {α : Type} {x : Reader α} {a : α} {s middle : Text}

theorem many_tooDeep (h : x s = .tooDeep place) : many x s = .tooDeep place := by
  rw [many_eq, h]

theorem many_tooDeep_behind (h : x s = .done a middle) (hlength : middle.length < s.length)
    (hmany : many x middle = .tooDeep place) : many x s = .tooDeep place := by
  rw [many_eq, h]
  dsimp only
  rw [if_pos hlength, hmany]

theorem bind_tooDeep {β : Type} {f : α → Reader β} (h : x s = .tooDeep place) :
    (x >>= f) s = .tooDeep place := by
  rw [bind_apply, h]

theorem orElse_tooDeep (h : x s = .tooDeep place) (y : Reader α) :
    (x <|> y) s = .tooDeep place := by
  rw [orElse_apply, h]

end Reader

section Behind

variable {u s rest : Text} {drafts : List Draft} {read other : Joiner → Reader Draft}

/-- Terms without groups are read at every level, and then what follows them is too deep. -/
theorem many_joined_tooDeep (hu : Stops isValueChar u) (hneeds : ∀ j, Reader.NeedsText (read j))
    (hread : Limits u levels read other) (h : Reader.many (joined read) s = .done drafts rest)
    (hflat : Draft.nestingAll drafts = 0)
    (hdeep : Reader.many (joined other) (rest ++ u) = .tooDeep place) :
    Reader.many (joined other) (s ++ u) = .tooDeep place := by
  revert hflat hdeep
  refine Reader.many_induction
    (motive := fun drafts s rest => Draft.nestingAll drafts = 0 →
      Reader.many (joined other) (rest ++ u) = .tooDeep place →
        Reader.many (joined other) (s ++ u) = .tooDeep place) ?_ ?_ h
  · exact fun _ _ hdeep => hdeep
  · intro draft drafts s middle rest hdraft hlength ih hflat hdeep
    rw [Draft.nestingAll, Nat.max_eq_zero_iff] at hflat
    have hterm := limited_joined hu hneeds hread hdraft
    rw [hflat.1] at hterm
    refine Reader.many_tooDeep_behind (hterm.done_of_le (Nat.zero_le levels)) ?_ (ih hflat.2 hdeep)
    rw [List.length_append, List.length_append]
    omega

/-- So is what follows a whole sequence of conditions. -/
theorem tooDeep_behind_conditions {n : Nat} (hu : Stops isValueChar u)
    (h : sequence (term n) s = .done drafts []) (hflat : Draft.nestingAll drafts = 0)
    (hdeep : joined (term levels) u = .tooDeep place) :
    sequence (term levels) (s ++ u) = .tooDeep place := by
  obtain ⟨first, others, middle, hfirst, hothers, rfl⟩ := done_of_sequence h
  rw [Draft.nestingAll, Nat.max_eq_zero_iff] at hflat
  have hterm := limited_term hu n levels hfirst
  rw [hflat.1] at hterm
  have hmany := many_joined_tooDeep hu (needsText_term n) (limited_term hu n levels) hothers hflat.2
    (Reader.many_tooDeep hdeep)
  rw [sequence_eq, Reader.bind_done (hterm.done_of_le (Nat.zero_le levels))]
  exact Reader.bind_tooDeep hmany

end Behind

/-! ### Brackets behind lead-ins -/

/-- What may stand in front of a bracket: nothing, or a text that stands for conditions only, with a
joiner behind it. -/
inductive LeadIn : Text → Prop
  | nothing : LeadIn []
  | conditions {s : Text} {nodes : List Node} (j : Joiner) (htrim : Text.trim s = s)
      (hparse : parse s = .ok nodes) (hne : nodes ≠ [])
      (hflat : ∀ node ∈ nodes, ∃ k c, node = Node.condition k c) :
      LeadIn (s ++ (' ' :: j.keyword ++ [' ']))

/-- Brackets, each behind its lead-in and in front of its white space. -/
def openings (steps : List (Text × Text)) : Text :=
  steps.flatMap fun (lead, gap) => lead ++ '(' :: gap

theorem nestingAll_of_conditions {nodes : List Node}
    (h : ∀ node ∈ nodes, ∃ k c, node = Node.condition k c) : Node.nestingAll nodes = 0 := by
  induction nodes with
  | nil => exact Node.nestingAll_nil
  | cons node nodes ih =>
      rw [List.forall_mem_cons] at h
      obtain ⟨⟨k, c, rfl⟩, hnodes⟩ := h
      rw [Node.nestingAll_cons, Node.nesting_condition, ih hnodes, Nat.max_self]

theorem ne_nil_of_parse {s : Text} {nodes : List Node} (h : parse s = .ok nodes)
    (hne : nodes ≠ []) : s ≠ [] := by
  rintro rfl
  cases h
  exact hne rfl

namespace LeadIn

variable {lead s : Text}

/-- A lead-in and the bracket behind it do not begin with white space. -/
theorem stops (h : LeadIn lead) (s : Text) : Stops isBlank (lead ++ '(' :: s) := by
  cases h with
  | nothing => exact stops_cons.2 (by decide)
  | @conditions t nodes j htrim hparse hne hflat =>
      rw [List.append_assoc]
      exact (htrim ▸ stops_trim t).append_of_ne_nil (ne_nil_of_parse hparse hne) _

/-- If no term is read at a bracket for want of levels, none is read at the lead-in either. -/
theorem tooDeep (h : LeadIn lead)
    (hterm : ∀ j, term levels j ('(' :: s) = .tooDeep place) :
    sequence (term levels) (lead ++ '(' :: s) = .tooDeep place := by
  cases h with
  | nothing => exact Reader.bind_tooDeep (hterm .and)
  | @conditions t nodes j htrim hparse hne hflat =>
      obtain ⟨drafts, hread, hbuild⟩ := read_of_parse htrim (ne_nil_of_parse hparse hne) hparse
      have hnesting : Draft.nestingAll drafts = 0 := by
        rw [← Draft.nestingAll_buildAll drafts hbuild, nestingAll_of_conditions hflat]
      rw [List.append_assoc, List.append_assoc]
      refine tooDeep_behind_conditions (stops_cons.2 (by decide)) hread hnesting ?_
      have hgap : blanks (' ' :: j.keyword ++ ' ' :: '(' :: s) =
          .done () (j.keyword ++ ' ' :: '(' :: s) :=
        blanks_space (joiner_stops_gap (Cased.refl j.keyword) _)
      have hjoiner : joiner (j.keyword ++ ' ' :: '(' :: s) = .done j (' ' :: '(' :: s) :=
        joiner_cased (Cased.refl j.keyword) (stops_cons.2 (by decide))
      have hgap₁ : blanks (' ' :: '(' :: s) = .done () ('(' :: s) :=
        blanks_space (stops_cons.2 (by decide))
      change joined (term levels) (' ' :: j.keyword ++ ' ' :: '(' :: s) = .tooDeep place
      rw [joined, Reader.bind_done hgap, Reader.bind_done hjoiner, Reader.bind_done hgap₁, hterm]

end LeadIn

/-- Behind its lead-ins a text of brackets does not begin with white space. -/
theorem stops_openings {last : Text} (hlast : LeadIn last) (t : Text) {steps : List (Text × Text)}
    (hsteps : ∀ step ∈ steps, LeadIn step.1 ∧ ∀ c ∈ step.2, isGap c = true) :
    Stops isBlank (openings steps ++ (last ++ '(' :: t)) := by
  cases steps with
  | nil => exact hlast.stops t
  | cons step steps =>
      have hstart := (hsteps step List.mem_cons_self).1.stops
        (step.2 ++ (openings steps ++ (last ++ '(' :: t)))
      simpa [openings] using hstart

/-- Behind as many brackets as there are levels a further bracket is too deep, and so is the first
of them. -/
theorem tooDeep_of_openings {last : Text} (hlast : LeadIn last) (t : Text) :
    ∀ steps : List (Text × Text),
      (∀ step ∈ steps, LeadIn step.1 ∧ ∀ c ∈ step.2, isGap c = true) →
        sequence (term steps.length) (openings steps ++ (last ++ '(' :: t)) = .tooDeep ('(' :: t)
  | [], _ => hlast.tooDeep fun j => Reader.orElse_tooDeep rfl (condition j)
  | (lead, gap) :: steps, hsteps => by
    rw [List.forall_mem_cons] at hsteps
    obtain ⟨⟨hlead, hgap⟩, hsteps⟩ := hsteps
    have hinner := tooDeep_of_openings hlast t steps hsteps
    have hstops := (stops_openings hlast t hsteps).mono fun c hc => isBlank_of_isGap hc
    generalize hs : openings steps ++ (last ++ '(' :: t) = s at hinner hstops
    have htext : openings ((lead, gap) :: steps) ++ (last ++ '(' :: t) =
        lead ++ '(' :: (gap ++ s) := by
      simp [openings, ← hs]
    rw [htext]
    refine hlead.tooDeep fun j => Reader.orElse_tooDeep ?_ (condition j)
    have hblanks : blanks (gap ++ s) = .done () s := by
      rw [blanks, dropWhile_append_of_stops hgap hstops]
    rw [group, Reader.bind_done (mark_cons '(' _), Reader.bind_done hblanks]
    exact Reader.bind_tooDeep hinner

/-! ### Whole texts -/

theorem trimEnd_append_cons {c : Char} (hc : isBlank c = false) (s t : Text) :
    Text.trimEnd (s ++ c :: t) = s ++ c :: Text.trimEnd t := by
  have hreverse : (s ++ c :: t).reverse = t.reverse ++ c :: s.reverse := by simp
  rw [Text.trimEnd, hreverse, Text.trimEnd, List.dropWhile_append]
  split
  · rename_i hblank
    rw [List.isEmpty_iff.1 hblank, dropWhile_of_stops (stops_cons.2 hc)]
    simp
  · simp

/-- What is accepted nests no more groups than there are levels. -/
theorem nestingAll_le_of_parse {s : Text} {nodes : List Node} (h : parse s = .ok nodes) :
    Node.nestingAll nodes ≤ maxDepth := by
  rcases eq_or_ne (Text.trim s) [] with hblank | hne
  · rw [parse_eq_ok.2 (.inl ⟨hblank, rfl⟩)] at h
    cases h
    rw [Node.nestingAll_nil]
    exact Nat.zero_le maxDepth
  · obtain ⟨drafts, hread, hbuild⟩ := read_trim_of_parse hne h
    rw [Draft.nestingAll_buildAll drafts hbuild]
    exact nestingAll_le hread

/-- The fault is told at a bracket behind as many brackets as there are levels. -/
theorem exists_opensBehind {s : Text} {position : Nat}
    (h : parse s = .error (.malformed position .tooDeep)) :
    ∃ before behind, s = before ++ '(' :: behind ∧ position = Text.byteLength before ∧
      maxDepth ≤ before.count '(' := by
  obtain ⟨rest, hfault, hplace⟩ := exists_faultOf h
  cases hfault with
  | tooDeep hread =>
      obtain ⟨before, behind, hbefore, rfl, hcount⟩ :=
        (opensBehind_of_read hread).of_suffix (trim_suffix_trimEnd s)
      obtain ⟨gap, hgap⟩ := isPrefix_trimEnd s
      rw [malformed, hbefore, Text.byteLength_append, Nat.add_sub_cancel_right] at hplace
      cases hplace
      exact ⟨before, behind ++ gap, by rw [← hgap, hbefore]; simp, rfl, hcount⟩

/-- A text that opens 129 groups, with white space behind the brackets and nothing or conditions in
front of them, is refused at the last of these brackets, whatever follows it.  No text is refused so
at another place than a bracket behind 128 others, and what is accepted nests at most 128 groups. -/
theorem parse_tooDeep :
    (∀ (steps : List (Text × Text)) (last t : Text), steps.length = 128 →
      (∀ step ∈ steps, LeadIn step.1 ∧ ∀ c ∈ step.2, isGap c = true) → LeadIn last →
        parse (openings steps ++ last ++ '(' :: t) =
          .error (.malformed (Text.byteLength (openings steps ++ last)) .tooDeep)) ∧
    ParseFault.message .tooDeep = "Groups nested deeper than 128 levels" ∧
    (∀ s nodes, parse s = .ok nodes → Node.nestingAll nodes ≤ 128) ∧
    ∀ s position, parse s = .error (.malformed position .tooDeep) →
      ∃ before behind, s = before ++ '(' :: behind ∧ position = Text.byteLength before ∧
        128 ≤ before.count '(' := by
  refine ⟨fun steps last t hlength hsteps hlast => ?_, by decide,
    fun s nodes h => nestingAll_le_of_parse h, fun s position h => exists_opensBehind h⟩
  have hend : Text.trimEnd (openings steps ++ last ++ '(' :: t) =
      openings steps ++ last ++ '(' :: Text.trimEnd t := trimEnd_append_cons (by decide) _ t
  have htrim : Text.trim (openings steps ++ last ++ '(' :: t) =
      openings steps ++ last ++ '(' :: Text.trimEnd t := by
    have hstops := stops_openings hlast t hsteps
    rw [← List.append_assoc] at hstops
    rw [Text.trim, Text.trimStart, dropWhile_of_stops hstops, hend]
  have hread : sequence (term maxDepth) (openings steps ++ last ++ '(' :: Text.trimEnd t) =
      .tooDeep ('(' :: Text.trimEnd t) := by
    have hdeep := tooDeep_of_openings hlast (Text.trimEnd t) steps hsteps
    rw [hlength, ← List.append_assoc] at hdeep
    exact hdeep
  rw [parse_of_trim_ne_nil (by rw [htrim]; simp), htrim, hread]
  dsimp only
  rw [malformed, hend, Text.byteLength_append _ ('(' :: _), Nat.add_sub_cancel_right]

set_option maxRecDepth 4000 in
/-- Conditions in front of the first bracket and of the last, and words behind it that stand for
nothing. -/
theorem parse_tooDeep_mixed :
    let first : Text := "a = 1 OR "
    let last : Text := "b IS NULL and c>2 AND "
    let q : Text := openings ((first, " \n") :: List.replicate 127 ([], [])) ++ last
    Text.byteLength q = 161 ∧
      parse (q ++ '(' :: ")) ?".toList) = .error (.malformed 161 .tooDeep) ∧
      (∃ before behind, q ++ '(' :: ")) ?".toList = before ++ '(' :: behind ∧
        161 = Text.byteLength before ∧ 128 ≤ before.count '(') ∧
      ∃ nodes, parse "((a = 1))" = .ok nodes ∧ Node.nestingAll nodes ≤ 128 := by
  intro first last q
  have hlength : Text.byteLength q = 161 := by decide
  have hfirst : parse "a = 1" =
      .ok [.condition .and ⟨"a", [⟨"a", none⟩], .equal, .scalar (.int 1)⟩] := by cbv
  have hlast : parse "b IS NULL and c>2" =
      .ok [.condition .and ⟨"b", [⟨"b", none⟩], .isNull, .none⟩,
        .condition .and ⟨"c", [⟨"c", none⟩], .greater, .scalar (.int 2)⟩] := by cbv
  have hgroup : parse "((a = 1))" = .ok [.group .and [.group .and
      [.condition .and ⟨"a", [⟨"a", none⟩], .equal, .scalar (.int 1)⟩]]] := by cbv
  have hsteps : ∀ step ∈ (first, " \n".toList) :: List.replicate 127 ([], []),
      LeadIn step.1 ∧ ∀ c ∈ step.2, isGap c = true := by
    rw [List.forall_mem_cons]
    refine ⟨⟨.conditions .or (by decide) hfirst (by simp) (by simp), by simp [isGap]⟩,
      fun step hstep => ?_⟩
    rw [List.eq_of_mem_replicate hstep]
    exact ⟨.nothing, by simp⟩
  have hdeep : parse (q ++ '(' :: ")) ?".toList) = .error (.malformed 161 .tooDeep) := by
    rw [← hlength]
    exact parse_tooDeep.1 _ _ _ (by simp) hsteps
      (.conditions .and (by decide) hlast (by simp) (by simp))
  exact ⟨hlength, hdeep, parse_tooDeep.2.2.2 _ _ hdeep, _, hgroup, parse_tooDeep.2.2.1 _ _ hgroup⟩

end WhereClause.Shorthand
