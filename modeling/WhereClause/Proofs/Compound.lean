import WhereClause.Proofs.Continuation
import WhereClause.Proofs.ParseWritten

/-!
# Texts made of texts

Two expressions with a joiner between them are an expression, and so is an expression in brackets.
This module shows that the parser agrees: it reads the parts in the compound text as it reads them
by themselves.  In brackets a part has one level less for its own groups, so that it may be too deep
there, and this is then the only thing that can be wrong.

Main definitions:

* `Draft.nesting`, `Draft.withJoiner`: the groups in a draft, and the draft behind another joiner;
* `Limited`: a reading at a given level of what nests a given number of groups.

Main results:

* `limited_term`: what is read as a term at one level is read as that term at another level, in
  front of more text and behind another joiner, or is too deep;
* `limited_sequence`: so is a sequence, and what follows goes on with it;
* `parse_compound`: **joining two texts joins their nodes, and brackets around a text make a group
  of its nodes if there are levels enough**.
-/

set_option autoImplicit false

namespace WhereClause.Shorthand

/-! ### Drafts -/

namespace Draft

mutual

/-- The greatest number of groups inside each other. -/
def nesting : Draft → Nat
  | condition .. => 0
  | group _ children => nestingAll children + 1

def nestingAll : List Draft → Nat
  | [] => 0
  | draft :: drafts => max (nesting draft) (nestingAll drafts)

end

def withJoiner (j : Joiner) : Draft → Draft
  | condition _ fields op operand => condition j fields op operand
  | group _ children => group j children

theorem build_withJoiner {draft : Draft} {node : Node} (h : draft.build = .ok node) (j : Joiner) :
    (draft.withJoiner j).build = .ok (node.withJoiner j) := by
  cases draft with
  | condition j' fields op operand =>
      rw [build] at h
      obtain ⟨c, hc, rfl⟩ := Node.ofParts_eq_ok.1 h
      rw [withJoiner, build, Node.ofParts_eq_ok]
      exact ⟨c, hc, rfl⟩
  | group j' children =>
      rw [build] at h
      obtain ⟨nodes, hnodes, hnode⟩ := bind_eq_ok.1 h
      obtain ⟨hne, rfl⟩ := Node.enclose_eq_ok.1 hnode
      rw [withJoiner, build, hnodes, ok_bind, Node.enclose_eq_ok]
      exact ⟨hne, rfl⟩

theorem buildAll_append {drafts others : List Draft} {nodes otherNodes : List Node}
    (h : buildAll drafts = .ok nodes) (hothers : buildAll others = .ok otherNodes) :
    buildAll (drafts ++ others) = .ok (nodes ++ otherNodes) := by
  induction drafts generalizing nodes with
  | nil =>
      rw [buildAll] at h
      cases h
      exact hothers
  | cons draft drafts ih =>
      obtain ⟨node, rest, hnode, hrest, rfl⟩ := buildAll_cons.1 h
      exact buildAll_cons.2 ⟨node, rest ++ otherNodes, hnode, ih hrest, rfl⟩

mutual

theorem nesting_build : ∀ (draft : Draft) {node : Node},
    draft.build = .ok node → node.nesting = draft.nesting
  | condition j fields op operand, node, h => by
    rw [build] at h
    obtain ⟨c, -, rfl⟩ := Node.ofParts_eq_ok.1 h
    rw [Node.nesting_condition, nesting]
  | group j children, node, h => by
    rw [build] at h
    obtain ⟨nodes, hnodes, hnode⟩ := bind_eq_ok.1 h
    obtain ⟨-, rfl⟩ := Node.enclose_eq_ok.1 hnode
    rw [Node.nesting_group, nesting, nestingAll_buildAll children hnodes]

/-- The nodes nest as many groups as the drafts they are built from. -/
theorem nestingAll_buildAll : ∀ (drafts : List Draft) {nodes : List Node},
    buildAll drafts = .ok nodes → Node.nestingAll nodes = nestingAll drafts
  | [], nodes, h => by
    rw [buildAll] at h
    cases h
    rw [Node.nestingAll_nil, nestingAll]
  | draft :: drafts, nodes, h => by
    obtain ⟨node, others, hnode, hothers, rfl⟩ := buildAll_cons.1 h
    rw [Node.nestingAll_cons, nestingAll, nesting_build draft hnode,
      nestingAll_buildAll drafts hothers]

end

end Draft

/-! ### Another joiner -/

namespace Reader

variable {α β γ : Type}

theorem map_bind (f : β → γ) (x : Reader α) (g : α → Reader β) :
    f <$> (x >>= g) = x >>= fun a => f <$> g a := by
  funext s
  change ((x >>= g) >>= fun b => pure (f b)) s = (x >>= fun a => g a >>= fun b => pure (f b)) s
  simp only [bind_apply]
  cases x s <;> rfl

theorem map_orElse (f : α → β) (x y : Reader α) : f <$> (x <|> y) = (f <$> x <|> f <$> y) := by
  have hmap : ∀ z : Reader α, f <$> z = z >>= fun a => pure (f a) := fun _ => rfl
  funext s
  rw [hmap, hmap, hmap, bind_apply, orElse_apply, orElse_apply, bind_apply, bind_apply]
  cases x s <;> rfl

end Reader

/-- The joiner in front of a term is not looked at when the term is read. -/
theorem term_withJoiner (levels : Nat) (j j' : Joiner) :
    term levels j' = Draft.withJoiner j' <$> term levels j := by
  have hcondition : condition j' = Draft.withJoiner j' <$> condition j := by
    simp only [condition, Reader.map_bind]
    rfl
  cases levels with
  | zero =>
      have hgroup : noGroup = Draft.withJoiner j' <$> noGroup := by
        funext s
        change _ = (noGroup >>= fun draft => pure (draft.withJoiner j')) s
        rw [Reader.bind_apply]
        unfold noGroup
        split <;> rfl
      rw [term, term, Reader.map_orElse, ← hcondition, ← hgroup]
  | succ levels =>
      have hgroup : group j' (sequence (term levels)) =
          Draft.withJoiner j' <$> group j (sequence (term levels)) := by
        simp only [group, Reader.map_bind]
        rfl
      rw [term, term, Reader.map_orElse, ← hcondition, ← hgroup]

/-! ### Readings at another level -/

section Limited

variable {α β : Type} {levels depth : Nat} {a : α} {rest u : Text}

/-- A reading at the given level of what nests `depth` groups: it is read as `a`, or is too deep. -/
inductive Limited (levels : Nat) (a : α) (rest : Text) (depth : Nat) : Reading α → Prop
  | done (h : depth ≤ levels) : Limited levels a rest depth (.done a rest)
  | tooDeep {place : Text} (h : levels < depth) : Limited levels a rest depth (.tooDeep place)

namespace Limited

theorem done_of_le {reading : Reading α} (h : Limited levels a rest depth reading)
    (hle : depth ≤ levels) : reading = .done a rest := by
  cases h with
  | done _ => rfl
  | tooDeep hlt => exact absurd hle (Nat.not_le.2 hlt)

theorem tooDeep_of_lt {reading : Reading α} (h : Limited levels a rest depth reading)
    (hlt : levels < depth) : ∃ place, reading = .tooDeep place := by
  cases h with
  | done hle => exact absurd hle (Nat.not_le.2 hlt)
  | @tooDeep place _ => exact ⟨place, rfl⟩

theorem bind {x : Reader α} {f : α → Reader β} {b : β} {s middle : Text} {depth' : Nat}
    (hx : Limited levels a middle depth (x s)) (hf : Limited levels b rest depth' (f a middle)) :
    Limited levels b rest (max depth depth') ((x >>= f) s) := by
  rw [Reader.bind_apply]
  generalize x s = reading at hx ⊢
  generalize hreading : f a middle = behind at hf
  cases hx with
  | tooDeep h => exact .tooDeep (by omega)
  | done h =>
      dsimp only
      rw [hreading]
      cases hf with
      | tooDeep h' => exact .tooDeep (by omega)
      | done h' => exact .done (by omega)

theorem orElse {x : Reader α} {s : Text} (h : Limited levels a rest depth (x s)) (y : Reader α) :
    Limited levels a rest depth ((x <|> y) s) := by
  rw [Reader.orElse_apply]
  generalize x s = reading at h ⊢
  cases h with
  | done h => exact .done h
  | tooDeep h => exact .tooDeep h

/-- A repetition goes on behind what was read. -/
theorem many {x : Reader α} {s middle : Text} {as : List α} {depth' : Nat}
    (hx : Limited levels a middle depth (x s)) (hlength : middle.length < s.length)
    (h : Limited levels as rest depth' (Reader.many x middle)) :
    Limited levels (a :: as) rest (max depth depth') (Reader.many x s) := by
  rw [Reader.many_eq]
  generalize x s = reading at hx ⊢
  cases hx with
  | tooDeep h => exact .tooDeep (by omega)
  | done hle =>
      dsimp only
      rw [if_pos hlength]
      generalize Reader.many x middle = behind at h ⊢
      cases h with
      | tooDeep h' => exact .tooDeep (by omega)
      | done h' => exact .done (by omega)

/-- Brackets around a sequence take one of the levels. -/
theorem group {inner : Reader (List Draft)} {drafts : List Draft} {s s₁ s₂ : Text}
    (hgap : blanks s = .done () s₁) (h : Limited levels drafts s₂ depth (inner s₁))
    (hgap₁ : blanks s₂ = .done () (')' :: rest)) (j : Joiner) :
    Limited (levels + 1) (.group j drafts) rest (depth + 1)
      (Shorthand.group j inner ('(' :: s)) := by
  rw [Shorthand.group, Reader.bind_done (mark_cons '(' s), Reader.bind_done hgap,
    Reader.bind_apply]
  generalize inner s₁ = reading at h ⊢
  cases h with
  | tooDeep h => exact .tooDeep (by omega)
  | done h =>
      dsimp only
      rw [Reader.bind_done hgap₁, Reader.bind_done (mark_cons ')' rest)]
      exact .done (by omega)

end Limited

/-! ### Terms and sequences in front of more text -/

theorem needsText_term (levels : Nat) (j : Joiner) : Reader.NeedsText (term levels j) := by
  cases levels <;> rintro _ _ ⟨⟩

theorem needsText_sequence (levels : Nat) : Reader.NeedsText (sequence (term levels)) :=
  (needsText_term levels .and).bind

/-- The reader reads what `read` does in front of `u`, if it has levels enough for it. -/
def Limits (u : Text) (levels : Nat) (read other : Joiner → Reader Draft) : Prop :=
  ∀ ⦃j s draft rest⦄, read j s = .done draft rest →
    Limited levels draft (rest ++ u) draft.nesting (other j (s ++ u))

variable {read other : Joiner → Reader Draft} {drafts others : List Draft} {s final : Text}

section Sequences

variable (hu : Stops isValueChar u) (hneeds : ∀ j, Reader.NeedsText (read j))
  (hread : Limits u levels read other)

include hu hneeds hread

theorem limited_joined {draft : Draft} (h : joined read s = .done draft rest) :
    Limited levels draft (rest ++ u) draft.nesting (joined other (s ++ u)) := by
  obtain ⟨j, _, _, _, hgap, hjoiner, hgap₁, hterm⟩ := done_of_joined h
  rw [joined, Reader.bind_done (continuesInside_blanks u hgap (needsText_joiner.ne_nil hjoiner)),
    Reader.bind_done ((local_joiner hu).continues hjoiner),
    Reader.bind_done (continuesInside_blanks u hgap₁ ((hneeds j).ne_nil hterm))]
  exact hread hterm

/-- The terms behind the first are read in front of more text, and then what follows them. -/
theorem limited_many (h : Reader.many (joined read) s = .done drafts rest)
    (hfinal : Reader.many (joined other) (rest ++ u) = .done others final) :
    Limited levels (drafts ++ others) final (Draft.nestingAll drafts)
      (Reader.many (joined other) (s ++ u)) := by
  revert hfinal
  refine Reader.many_induction
    (motive := fun drafts s rest => Reader.many (joined other) (rest ++ u) = .done others final →
      Limited levels (drafts ++ others) final (Draft.nestingAll drafts)
        (Reader.many (joined other) (s ++ u))) ?_ ?_ h
  · intro s hfinal
    rw [hfinal, Draft.nestingAll]
    exact .done (Nat.zero_le levels)
  · intro draft drafts s middle rest hdraft hlength ih hfinal
    rw [Draft.nestingAll]
    refine (limited_joined hu hneeds hread hdraft).many ?_ (ih hfinal)
    rw [List.length_append, List.length_append]
    omega

/-- A sequence is read in front of more text, and then what follows it. -/
theorem limited_sequence (h : sequence read s = .done drafts rest)
    (hfinal : Reader.many (joined other) (rest ++ u) = .done others final) :
    Limited levels (drafts ++ others) final (Draft.nestingAll drafts)
      (sequence other (s ++ u)) := by
  obtain ⟨first, behind, _, hfirst, hbehind, rfl⟩ := done_of_sequence h
  have hmany := limited_many hu hneeds hread hbehind hfinal
  rw [sequence_eq, Draft.nestingAll, ← Nat.max_zero (Draft.nestingAll behind)]
  exact (hread hfirst).bind (hmany.bind (.done (Nat.zero_le levels)))

end Sequences

/-- Behind a sequence there is no further term in front of a closing bracket. -/
theorem many_joined_closes (hgap : blanks s = .done () (')' :: rest)) :
    Reader.many (joined read) s = .done [] s := by
  have hjoined : joined read s = .unmatched .symbol (')' :: rest) := by
    rw [joined, Reader.bind_done hgap]
    exact Reader.bind_unmatched (joiner_closes (by simp [Closes]))
  exact Reader.many_unmatched hjoined

/-- No condition begins with a bracket. -/
theorem exists_cons_of_condition {j : Joiner} {draft : Draft}
    (h : condition j s = .done draft rest) : ∃ c t, s = c :: t ∧ c ≠ '(' := by
  obtain ⟨fields, op, operand, _, _, hfields, -⟩ := done_of_condition h
  obtain ⟨hne, hall, rfl, -⟩ := run_eq_done hfields
  obtain ⟨c, fields, rfl⟩ := List.exists_cons_of_ne_nil hne
  refine ⟨c, _, rfl, ?_⟩
  rintro rfl
  exact absurd (hall '(' List.mem_cons_self) (by decide)

/-- A condition is a term at every level. -/
theorem term_of_condition {j : Joiner} {draft : Draft} (h : condition j s = .done draft rest)
    (levels : Nat) : term levels j s = .done draft rest := by
  obtain ⟨c, t, rfl, hc⟩ := exists_cons_of_condition h
  exact (term_of_ne_bracket hc levels j t).trans h

theorem limited_condition (hu : Stops isValueChar u) (levels : Nat) {j : Joiner} {draft : Draft}
    (h : condition j s = .done draft rest) :
    Limited levels draft (rest ++ u) draft.nesting (term levels j (s ++ u)) := by
  have hnesting : draft.nesting = 0 := by
    obtain ⟨fields, op, operand, _, _, -, -, -, rfl⟩ := done_of_condition h
    rw [Draft.nesting]
  rw [term_of_condition (continues_condition hu j h), hnesting]
  exact .done (Nat.zero_le levels)

/-- What is read as a term at one level is read as that term at another one and in front of more
text, or is too deep there. -/
theorem limited_term (hu : Stops isValueChar u) (levels levels' : Nat) :
    Limits u levels' (term levels) (term levels') := by
  induction levels generalizing levels' with
  | zero =>
      intro j s draft rest h
      exact limited_condition hu levels' (condition_of_term_zero h)
  | succ levels ih =>
      intro j s draft rest h
      rcases Reader.done_of_orElse h with h | h
      · obtain ⟨drafts, _, _, _, rfl, hgap, hdrafts, hgap₁, rfl⟩ := done_of_group h
        rw [Draft.nesting]
        cases levels' with
        | zero => exact .tooDeep (Nat.succ_pos _)
        | succ levels' =>
            have hne := (needsText_sequence levels).ne_nil hdrafts
            have hgap := continuesInside_blanks u hgap hne
            have hgap₁ := continuesInside_blanks u hgap₁ (List.cons_ne_nil _ _)
            have hinner := limited_sequence hu (needsText_term levels) (ih levels') hdrafts
              (many_joined_closes hgap₁)
            rw [List.append_nil] at hinner
            exact (hinner.group hgap hgap₁ j).orElse _
      · exact limited_condition hu levels' h

end Limited

/-! ### Whole texts -/

/-- A text that stands for nodes is read to its end, but for the white space around it. -/
theorem read_trim_of_parse {s : Text} {nodes : List Node} (hne : Text.trim s ≠ [])
    (h : parse s = .ok nodes) : ∃ drafts, sequence (term maxDepth) (Text.trim s) =
      .done drafts [] ∧ Draft.buildAll drafts = .ok nodes := by
  obtain ⟨hblank, -⟩ | ⟨-, drafts, rest, hread, hrest, hbuild⟩ := parse_eq_ok.1 h
  · exact absurd hblank hne
  · have hsuffix := (sequence_derives (term_derives maxDepth) hread hbuild).suffix
    obtain rfl := eq_nil_of_suffix_trim hsuffix hrest
    exact ⟨drafts, hread, hbuild⟩

/-- A trimmed text that stands for nodes is read to its end. -/
theorem read_of_parse {s : Text} {nodes : List Node} (htrim : Text.trim s = s) (hne : s ≠ [])
    (h : parse s = .ok nodes) : ∃ drafts,
      sequence (term maxDepth) s = .done drafts [] ∧ Draft.buildAll drafts = .ok nodes := by
  have hread := read_trim_of_parse (htrim.symm ▸ hne) h
  rwa [htrim] at hread

/-- Drafts that were read to the end of a text nest no more groups than there are levels. -/
theorem nestingAll_le {s : Text} {drafts : List Draft} {levels : Nat}
    (h : sequence (term levels) s = .done drafts []) : Draft.nestingAll drafts ≤ levels := by
  have hend : Reader.many (joined (term levels)) [] = .done [] [] := Reader.many_unmatched rfl
  have hlimited := limited_sequence stops_nil (needsText_term levels)
    (limited_term stops_nil levels levels) h hend
  rw [List.append_nil, List.append_nil, h] at hlimited
  cases hlimited with
  | done hle => exact hle

/-- Terms behind a joiner, which the first of them takes in place of its own. -/
theorem many_joined {t : Text} {drafts : List Draft} {nodes : List Node} {levels : Nat}
    (h : sequence (term levels) t = .done drafts []) (hbuild : Draft.buildAll drafts = .ok nodes)
    (hstops : Stops isGap t) (j : Joiner) : ∃ others,
      Reader.many (joined (term levels)) (' ' :: j.keyword ++ ' ' :: t) = .done others [] ∧
        Draft.buildAll others = .ok (nodes.modifyHead (Node.withJoiner j)) := by
  obtain ⟨draft, others, middle, hfirst, hothers, rfl⟩ := done_of_sequence h
  obtain ⟨node, otherNodes, hnode, hbuildOthers, rfl⟩ := Draft.buildAll_cons.1 hbuild
  refine ⟨draft.withJoiner j :: others, ?_, ?_⟩
  · have hkeyword : blanks (' ' :: j.keyword ++ ' ' :: t) = .done () (j.keyword ++ ' ' :: t) :=
      blanks_space (joiner_stops_gap (Cased.refl j.keyword) _)
    have hjoiner : joiner (j.keyword ++ ' ' :: t) = .done j (' ' :: t) :=
      joiner_cased (Cased.refl j.keyword) (stops_cons.2 (by decide))
    have hgap : blanks (' ' :: t) = .done () t := blanks_space hstops
    have hterm : term levels j t = .done (draft.withJoiner j) middle := by
      rw [term_withJoiner levels .and j]
      exact Reader.map_done hfirst
    have hjoined : joined (term levels) (' ' :: j.keyword ++ ' ' :: t) =
        .done (draft.withJoiner j) middle := by
      rw [joined, Reader.bind_done hkeyword, Reader.bind_done hjoiner, Reader.bind_done hgap, hterm]
    refine Reader.many_done hjoined ?_ hothers
    have hlength := (term_derives levels hfirst hnode).suffix.length_le
    simp only [List.length_append, List.length_cons]
    omega
  · rw [List.modifyHead_cons, Draft.buildAll_cons]
    exact ⟨_, otherNodes, Draft.build_withJoiner hnode j, hbuildOthers, rfl⟩

/-- An expression in brackets is read with one level less. -/
theorem limited_brackets {s : Text} {drafts : List Draft}
    (h : sequence (term maxDepth) s = .done drafts []) (hstops : Stops isGap (s ++ [')'])) :
    Limited maxDepth [.group .and drafts] [] (Draft.nestingAll drafts + 1)
      (sequence (term maxDepth) ('(' :: (s ++ [')']))) := by
  have hu : Stops isValueChar [')'] := stops_cons.2 (by decide)
  have hclose : blanks [')'] = .done () [')'] := blanks_of_stops (stops_cons.2 (by decide))
  have hinner := limited_sequence hu (needsText_term maxDepth) (limited_term hu maxDepth 127) h
    (many_joined_closes hclose)
  rw [List.append_nil] at hinner
  have hgroup := (hinner.group (blanks_of_stops hstops) hclose .and).orElse (condition .and)
  have hend : Reader.many (joined (term maxDepth)) [] = .done [] [] := Reader.many_unmatched rfl
  rw [sequence_eq, ← Nat.max_zero (Draft.nestingAll drafts + 1)]
  refine Limited.bind hgroup ?_
  rw [Reader.bind_done hend]
  exact .done (Nat.zero_le maxDepth)

theorem ne_nil_of_sequence {s rest : Text} {drafts : List Draft} {read : Joiner → Reader Draft}
    (h : sequence read s = .done drafts rest) : drafts ≠ [] := by
  obtain ⟨first, others, _, -, -, rfl⟩ := done_of_sequence h
  exact List.cons_ne_nil first others

/-- Two expressions with a joiner between them stand for the nodes of the one and then those of the
other, the first of which takes the joiner.  An expression in brackets stands for the group of its
nodes, unless they nest as many groups as there may be. -/
theorem parse_compound {s t : Text} {a b : List Node} (hs : Text.trim s = s) (hsne : s ≠ [])
    (ha : parse s = .ok a) (ht : Text.trim t = t) (htne : t ≠ []) (hb : parse t = .ok b) :
    (∀ j : Joiner, parse (s ++ ' ' :: j.keyword ++ ' ' :: t) =
        .ok (a ++ b.modifyHead (Node.withJoiner j))) ∧
      (Node.nestingAll a ≤ 127 → parse ('(' :: (s ++ [')'])) = .ok [.group .and a]) ∧
      (127 < Node.nestingAll a → ∃ position,
        parse ('(' :: (s ++ [')'])) = .error (.malformed position .tooDeep)) := by
  obtain ⟨drafts, hread, hbuild⟩ := read_of_parse hs hsne ha
  have hstart : Stops isBlank s := hs ▸ stops_trim s
  constructor
  · intro j
    obtain ⟨others, hothers, hreadOthers⟩ := read_of_parse ht htne hb
    have htstart : Stops isGap t := Stops.mono (ht ▸ stops_trim t) fun c hc => isBlank_of_isGap hc
    obtain ⟨behind, hbehind, hbuildBehind⟩ := many_joined hothers hreadOthers htstart j
    have hu : Stops isValueChar (' ' :: j.keyword ++ ' ' :: t) := stops_cons.2 (by decide)
    have hlimited := limited_sequence hu (needsText_term maxDepth)
      (limited_term hu maxDepth maxDepth) hread hbehind
    have hcompound := hlimited.done_of_le (nestingAll_le hread)
    rw [List.append_assoc]
    refine parse_of_read (trim_eq_self (hstart.append_of_ne_nil hsne _) ?_) ?_ hcompound
      (Draft.buildAll_append hbuild hbuildBehind)
    · have hsolid : EndsSolid t := ht ▸ endsSolid_trim (ht.symm ▸ htne)
      have hlast : EndsSolid (' ' :: t) := hsolid.append [' ']
      exact (hlast.append (' ' :: j.keyword)).append s
    · simp
  · have hsgap : Stops isGap s := hstart.mono fun c hc => isBlank_of_isGap hc
    have hlimited := limited_brackets hread (hsgap.append_of_ne_nil hsne [')'])
    have htrim : Text.trim ('(' :: (s ++ [')'])) = '(' :: (s ++ [')']) :=
      trim_eq_self (stops_cons.2 (by decide)) ⟨'(' :: s, ')', rfl, by decide⟩
    have hne : '(' :: (s ++ [')']) ≠ [] := List.cons_ne_nil _ _
    rw [Draft.nestingAll_buildAll drafts hbuild]
    constructor
    · intro hlevels
      refine parse_of_read htrim hne (hlimited.done_of_le (Nat.succ_le_succ hlevels)) ?_
      have hgroup : (Draft.group .and drafts).build = .ok (.group .and a) := by
        rw [Draft.build, hbuild, ok_bind, Node.enclose_eq_ok]
        exact ⟨Draft.ne_nil_of_buildAll (ne_nil_of_sequence hread) hbuild, rfl⟩
      exact Draft.buildAll_cons.2 ⟨_, [], hgroup, rfl, rfl⟩
    · intro hlevels
      obtain ⟨place, hdeep⟩ := hlimited.tooDeep_of_lt (Nat.succ_lt_succ hlevels)
      have hparse : parse ('(' :: (s ++ [')'])) =
          .error (malformed ('(' :: (s ++ [')'])) place .tooDeep) := by
        rw [parse_of_trim_ne_nil (by rwa [htrim]), htrim, hdeep]
      exact ⟨_, hparse⟩

set_option maxRecDepth 4000 in
/-- A query and a group, and words and a range without spaces where none are needed. -/
theorem parse_compound_mixed :
    let s : Text := "a IN (SELECT (1)) or (b=x-1 AND c>3)"
    let t : Text := "d|e is not NULL and f LIKE 'it''s'"
    let a : List Node := [
      .condition .and ⟨"a", [⟨"a", none⟩], .isIn, .subquery "SELECT (1)"⟩,
      .group .or [.condition .and ⟨"b", [⟨"b", none⟩], .equal, .scalar (.string "x-1")⟩,
        .condition .and ⟨"c", [⟨"c", none⟩], .greater, .scalar (.int 3)⟩]]
    let b : List Node := [
      .condition .and ⟨"d|e", [⟨"d", none⟩, ⟨"e", none⟩], .isNotNull, .none⟩,
      .condition .and ⟨"f", [⟨"f", none⟩], .like, .scalar (.string "it's")⟩]
    parse s = .ok a ∧ parse t = .ok b ∧
      parse (s ++ " OR " ++ t) = .ok (a ++ b.modifyHead (Node.withJoiner .or)) ∧
      parse ('(' :: (s ++ [')'])) = .ok [.group .and a] := by
  intro s t a b
  have ha : parse s = .ok a := by
    subst s a
    cbv
  have hb : parse t = .ok b := by
    subst t b
    cbv
  obtain ⟨hjoined, hgroup, -⟩ :=
    parse_compound (by decide) (by decide) ha (by decide) (by decide) hb
  exact ⟨ha, hb, hjoined .or, hgroup (by simp [a])⟩

end WhereClause.Shorthand
