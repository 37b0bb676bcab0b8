import WhereClause.Proofs.Refusal
import WhereClause.Proofs.Reload

/-!
# Rendering what was stored

A sequence that is saved and loaded again holds the same values, save that a day or a moment has
become a text.  A day is written in SQL as it is in JSON, so nothing changes for it.  A moment is
not: SQL has a space between the day and the time where JSON has a `T`, and JSON keeps the fraction
of the second.  The rendering is followed before and after, piece by piece, along with the question
whether any moment was in the piece.

Main definitions:

* `Value.isMoment`, `Node.HoldsMoment`: the value is a moment, the node holds one;
* `Retimed`, `RetimedAll`: texts before and after, with or without moments in them;
* `Escaper.KeepsCalendar`: the escaper writes the texts of days and times as they are.

Main results:

* `retimed_value`: a value renders as before unless it is a moment;
* `Node.retimed_sequence`: so does a sequence, and it fails as before;
* `Node.joinAll_load_save`: **what is stored renders as before if and only if it holds no moment,
  or does not render at all**.
-/

set_option autoImplicit false

namespace WhereClause

/-! ### Texts before and after -/

/-- Without a moment (if `P` fails) the texts are the same; with one there are more `T`s in the
second. -/
def Retimed (P : Prop) (s t : Text) : Prop :=
  (P → s.count 'T' < t.count 'T') ∧ (¬P → s = t)

namespace Retimed

variable {P Q : Prop} {s t u v : Text}

theorem refl (s : Text) (h : ¬P) : Retimed P s s :=
  ⟨fun hP => absurd hP h, fun _ => rfl⟩

theorem congr (h : Retimed P s t) (hPQ : P ↔ Q) : Retimed Q s t := by
  rwa [propext hPQ] at h

theorem count_le (h : Retimed P s t) : s.count 'T' ≤ t.count 'T' := by
  by_cases hP : P
  · exact Nat.le_of_lt (h.1 hP)
  · rw [h.2 hP]

theorem append (h : Retimed P s t) (h' : Retimed Q u v) : Retimed (P ∨ Q) (s ++ u) (t ++ v) := by
  constructor
  · intro hPQ
    have hle := h.count_le
    have hle' := h'.count_le
    rw [List.count_append, List.count_append]
    rcases hPQ with hP | hQ
    · have hlt := h.1 hP
      omega
    · have hlt := h'.1 hQ
      omega
  · intro hneither
    rw [h.2 fun hP => hneither (.inl hP), h'.2 fun hQ => hneither (.inr hQ)]

/-- The same text in front. -/
theorem prepend (start : Text) (h : Retimed P s t) : Retimed P (start ++ s) (start ++ t) :=
  ((refl start not_false).append h).congr (by rw [false_or])

/-- The same text behind. -/
theorem extend (h : Retimed P s t) (last : Text) : Retimed P (s ++ last) (t ++ last) :=
  (h.append (refl last not_false)).congr (by rw [or_false])

/-- The texts are the same exactly without moments. -/
theorem eq_iff (h : Retimed P s t) : s = t ↔ ¬P := by
  constructor
  · rintro rfl hP
    exact absurd (h.1 hP) (Nat.lt_irrefl _)
  · exact h.2

end Retimed

/-- Texts before and after, one by one; `P` tells whether there is a moment in any of them. -/
inductive RetimedAll : Prop → List Text → List Text → Prop
  | nil : RetimedAll False [] []
  | cons {P Q : Prop} {s t : Text} {ss ts : List Text} (h : Retimed P s t)
      (hs : RetimedAll Q ss ts) : RetimedAll (P ∨ Q) (s :: ss) (t :: ts)

theorem RetimedAll.joinWith {P : Prop} {ss ts : List Text} (h : RetimedAll P ss ts)
    (separator : Text) : Retimed P (Text.joinWith separator ss) (Text.joinWith separator ts) := by
  induction h with
  | nil => exact .refl _ not_false
  | @cons P Q s t ss ts h hs ih =>
      cases hs with
      | nil => simpa [Text.joinWith] using h
      | cons h' hs' =>
          simp only [Text.joinWith, List.intercalate_cons_cons, List.append_assoc] at ih ⊢
          exact h.append (ih.prepend separator)

/-- A step for each member of a list, before and after. -/
theorem retimedAll_mapM {α : Type} {P : α → Prop} {f g : α → Except RenderError Text}
    {items : List α} (h : ∀ item ∈ items, SameOutcome (Retimed (P item)) (f item) (g item)) :
    SameOutcome (RetimedAll (∃ item ∈ items, P item)) (items.mapM f) (items.mapM g) := by
  induction items with
  | nil =>
      have hnone : (∃ item ∈ ([] : List α), P item) = False := by simp
      rw [hnone]
      exact .ok .nil
  | cons item items ih =>
      rw [List.forall_mem_cons] at h
      have hany : (∃ other ∈ item :: items, P other) = (P item ∨ ∃ other ∈ items, P other) := by
        simp
      rw [List.mapM_cons, List.mapM_cons, hany]
      exact h.1.bind fun s t hst => (ih h.2).bind fun ss ts hsts => .ok (.cons hst hsts)

/-! ### Values -/

def Value.isMoment : Value → Bool
  | dateTime _ => true
  | _ => false

theorem Value.isMoment_iff {v : Value} : v.isMoment = true ↔ ∃ t, v = .dateTime t := by
  cases v <;> simp [Value.isMoment]

/-- The escaper writes the texts of days and times as they are. -/
def Escaper.KeepsCalendar (e : Escaper) : Prop :=
  ∀ s, IsCalendarText s → e.string s = .ok s

theorem Dialect.keepsCalendar (d : Dialect) : d.escaper.KeepsCalendar := by
  intro s hs
  have hnul : nul ∉ s := fun h => hs.ne (d := nul) (by decide) nul h rfl
  have hquote := hs.ne (d := '\'') (by decide)
  have hdouble : Quoted.double '\'' s = s := by
    clear hs hnul
    induction s with
    | nil => rfl
    | cons c s ih =>
        rw [List.forall_mem_cons] at hquote
        rw [Quoted.double_cons_of_ne hquote.1, ih hquote.2]
  cases d with
  | mysql =>
      have hchars : ∀ c ∈ s, MySql.escapeChar c = [c] := by
        intro c hc
        unfold MySql.escapeChar
        have hne : ∀ d, isCalendarChar d = false → c ≠ d := fun d hd => hs.ne hd c hc
        rw [if_neg (hne _ (by decide)), if_neg (hne _ (by decide)), if_neg (hne _ (by decide)),
          if_neg (hne _ (by decide)), if_neg (hne _ (by decide)), if_neg (hne _ (by decide)),
          if_neg (hne _ (by decide))]
      have hescape : MySql.escapeString s = s := by
        rw [MySql.escapeString, List.flatMap_congr hchars]
        simp
      exact congrArg Except.ok hescape
  | postgres => exact (if_neg hnul).trans (congrArg Except.ok hdouble)
  | sqlite => exact (if_neg hnul).trans (congrArg Except.ok hdouble)

section Rendering

variable {e : Escaper}

theorem sameOutcome_refl {P : Prop} (h : ¬P) (x : Except RenderError Text) :
    SameOutcome (Retimed P) x x := by
  cases x with
  | ok s => exact .ok (.refl s h)
  | error err => exact .error err

theorem fieldReference?_calendarText {s : Text} (hs : IsCalendarText s) :
    (Value.string s).fieldReference? = none := by
  rw [Value.fieldReference?, Option.eq_none_iff_forall_ne_some]
  intro rest hrest
  have hmark : 'f' ∈ s := by
    rw [Text.eq_append_of_dropStart? hrest]
    exact List.mem_append_left rest (by decide)
  exact hs.ne (d := 'f') (by decide) 'f' hmark rfl

theorem render_calendarText (he : e.KeepsCalendar) {s : Text} (hs : IsCalendarText s) :
    (Value.string s).render e = .ok (inQuotes s) := by
  rw [Value.render, fieldReference?_calendarText hs]
  dsimp only
  rw [Escaper.literal, he s hs]
  rfl

theorem likePattern_calendarText (he : e.KeepsCalendar) {v : Value}
    (hv : IsCalendarText v.plainText) :
    likePattern e v = .ok ('%' :: (v.plainText ++ ['%'])) := by
  have hpercent : '%' ∉ v.plainText := fun h => hv.ne (d := '%') (by decide) '%' h rfl
  rw [likePattern, he _ hv]
  exact congrArg Except.ok (if_neg hpercent)

/-- The value is no floating point number that JSON cannot hold. -/
def Value.StaysFinite (v : Value) : Prop :=
  ∀ x, v = .float x → x.isFinite = true

theorem reloaded_float {x : Binary64} (h : (Value.float x).StaysFinite) :
    (Value.float x).reloaded = .float x := by
  rw [Value.reloaded, if_pos (h x rfl)]

/-- JSON has a `T` where SQL has a space. -/
theorem retimed_dateTime (t : DateTime) :
    Retimed ((Value.dateTime t).isMoment = true) t.text t.isoText :=
  ⟨fun _ => count_text_lt_count_iso t, fun h => absurd rfl h⟩

/-- A value renders as before unless it is a moment. -/
theorem retimed_value (he : e.KeepsCalendar) {v : Value} (hv : v.StaysFinite) :
    SameOutcome (Retimed (v.isMoment = true)) (v.render e) (v.reloaded.render e) := by
  cases v with
  | dateTime t =>
      have hafter := render_calendarText he (isCalendarText_iso t)
      have hbefore : (Value.dateTime t).render e = .ok (inQuotes t.text) := rfl
      rw [Value.reloaded, hafter, hbefore]
      exact .ok (((retimed_dateTime t).extend ['\'']).prepend ['\''])
  | date d =>
      have hafter := render_calendarText he (isCalendarText_date d)
      have hbefore : (Value.date d).render e = .ok (inQuotes d.text) := rfl
      rw [Value.reloaded, hafter, hbefore]
      exact sameOutcome_refl Bool.false_ne_true _
  | float x =>
      rw [reloaded_float hv]
      exact sameOutcome_refl Bool.false_ne_true _
  | _ => exact sameOutcome_refl Bool.false_ne_true _

theorem retimed_likePattern (he : e.KeepsCalendar) {v : Value} (hv : v.StaysFinite) :
    SameOutcome (Retimed (v.isMoment = true)) (likePattern e v) (likePattern e v.reloaded) := by
  cases v with
  | dateTime t =>
      have hbefore := likePattern_calendarText he (v := .dateTime t) (isCalendarText_dateTime t)
      have hafter := likePattern_calendarText he (v := .string t.isoText) (isCalendarText_iso t)
      rw [Value.reloaded, hafter, hbefore]
      exact .ok (((retimed_dateTime t).extend ['%']).prepend ['%'])
  | float x =>
      rw [reloaded_float hv]
      exact sameOutcome_refl Bool.false_ne_true _
  -- a day has the same plain text before and after
  | _ => exact sameOutcome_refl Bool.false_ne_true _

/-! ### Conditions -/

theorem retimed_comparison (he : e.KeepsCalendar) {op : Operator} {operand : Operand}
    (hshape : Operand.Shape op operand) (hfinite : ∀ v ∈ operand.values, v.StaysFinite)
    (column : Text) :
    SameOutcome (Retimed (∃ v ∈ operand.values, v.isMoment = true))
      (renderComparison e column op operand) (renderComparison e column op operand.reloaded) := by
  cases hshape with
  | isNull => exact sameOutcome_refl (by simp [Operand.values]) _
  | isNotNull => exact sameOutcome_refl (by simp [Operand.values]) _
  | subquery _ => exact sameOutcome_refl (by simp [Operand.values]) _
  | between low high =>
      simp only [Operand.values, List.forall_mem_cons] at hfinite
      refine (retimed_value he hfinite.1).bind fun s t hlow => ?_
      refine (retimed_value he hfinite.2.1).bind fun u v hhigh => .ok ?_
      have hbounds := (hlow.extend " AND ").append hhigh
      have htext := hbounds.prepend (column ++ " BETWEEN ")
      simp only [← List.append_assoc] at htext
      exact htext.congr (by simp [Operand.values])
  | list v vs =>
      change ∀ item ∈ v :: vs, item.StaysFinite at hfinite
      have hitems := retimedAll_mapM fun item hitem => retimed_value he (hfinite item hitem)
      have hmap : ((v :: vs).map Value.reloaded).mapM (Value.render e) =
          (v :: vs).mapM fun item => item.reloaded.render e := List.mapM_map
      rw [← hmap] at hitems
      refine SameOutcome.bind hitems fun ss ts hlist => .ok ?_
      exact ((hlist.joinWith ", ").prepend (column ++ " IN (")).extend ")"
  | @like v _ =>
      simp only [Operand.values, List.forall_mem_cons] at hfinite
      refine (retimed_likePattern he hfinite.1).bind fun s t hpattern => .ok ?_
      have hquoted := (hpattern.extend ['\'']).prepend ['\'']
      have htext := (hquoted.prepend ("LOWER(" ++ column ++ ") LIKE LOWER(")).extend ")"
      exact htext.congr (by simp [Operand.values])
  | @plain _ v hop =>
      simp only [Operand.values, List.forall_mem_cons] at hfinite
      rw [Operand.reloaded, renderComparison_plain hop, renderComparison_plain hop]
      refine (retimed_value he hfinite.1).bind fun s t hvalue => .ok ?_
      have htext := (hvalue.prepend [' ']).prepend (column ++ ' ' :: op.symbol)
      exact htext.congr (by simp [Operand.values])

def Condition.HoldsMoment (c : Condition) : Prop :=
  ∃ v ∈ c.operand.values, v.isMoment = true

/-- A condition renders as before unless it compares with a moment. -/
theorem retimed_condition (he : e.KeepsCalendar) {c : Condition} (hbuilt : c.Built)
    (hfinite : ∀ v ∈ c.operand.values, v.StaysFinite) :
    SameOutcome (Retimed c.HoldsMoment) (c.render e) (c.reloaded.render e) := by
  have hcolumn : ∀ column ∈ c.columns, SameOutcome (Retimed c.HoldsMoment)
      (c.renderColumn e column) (c.reloaded.renderColumn e column) := by
    intro column _
    have hsame : SameOutcome (fun s t => s = t) (column.render e) (column.render e) := by
      cases column.render e with
      | ok s => exact .ok rfl
      | error err => exact .error err
    refine hsame.bind fun s t hst => ?_
    subst hst
    exact retimed_comparison he hbuilt.shape hfinite s
  have hcolumns := retimedAll_mapM hcolumn
  obtain ⟨column, hmem⟩ := List.exists_mem_of_ne_nil c.columns (Condition.columns_ne_nil hbuilt)
  have hsome : (∃ column ∈ c.columns, c.HoldsMoment) = c.HoldsMoment := by
    rw [eq_iff_iff]
    constructor
    · rintro ⟨_, _, h⟩
      exact h
    · exact fun h => ⟨column, hmem, h⟩
  rw [hsome] at hcolumns
  generalize c.HoldsMoment = P at hcolumns ⊢
  refine hcolumns.bind fun ss ts hparts => ?_
  have hbrackets := ((hparts.joinWith " OR ").extend ")").prepend ['(']
  -- one comparison stands alone, and otherwise there are brackets, before and after
  cases hparts with
  | nil => exact .ok hbrackets
  | cons h hs =>
      cases hs with
      | nil => exact .ok (h.congr (by rw [or_false]))
      | cons h' hs => exact .ok hbrackets

end Rendering

/-! ### Nodes -/

namespace Node

variable {e : Escaper}

/-- The node holds a moment, at whatever depth. -/
def HoldsMoment (node : Node) : Prop :=
  ∃ c ∈ node.conditions, c.HoldsMoment

theorem joiner_reloaded (node : Node) : node.reloaded.joiner = node.joiner := by
  cases node with
  | condition j c => rw [reloaded_condition]; rfl
  | group j children => rw [reloaded_group]; rfl

theorem retimed_renderRest {nodes : List Node}
    (h : ∀ node ∈ nodes,
      SameOutcome (Retimed node.HoldsMoment) (node.render e) (node.reloaded.render e)) :
    SameOutcome (Retimed (∃ node ∈ nodes, node.HoldsMoment)) (renderRest e nodes)
      (renderRest e (nodes.map reloaded)) := by
  induction nodes with
  | nil =>
      rw [List.map_nil]
      exact sameOutcome_refl (by simp) _
  | cons node nodes ih =>
      rw [List.forall_mem_cons] at h
      rw [List.map_cons, renderRest_cons, renderRest_cons, joiner_reloaded]
      refine h.1.bind fun s t hnext => (ih h.2).bind fun u v hothers => .ok ?_
      have htext := (hnext.append hothers).prepend (' ' :: node.joiner.keyword ++ [' '])
      simp only [List.cons_append, List.append_assoc] at htext ⊢
      exact htext.congr (by simp)

theorem retimed_sequence {nodes : List Node}
    (h : ∀ node ∈ nodes,
      SameOutcome (Retimed node.HoldsMoment) (node.render e) (node.reloaded.render e)) :
    SameOutcome (Retimed (∃ node ∈ nodes, node.HoldsMoment)) (joinAll e nodes)
      (joinAll e (nodes.map reloaded)) := by
  cases nodes with
  | nil =>
      rw [List.map_nil]
      exact sameOutcome_refl (by simp) _
  | cons node nodes =>
      rw [List.forall_mem_cons] at h
      rw [List.map_cons, joinAll_cons, joinAll_cons]
      refine h.1.bind fun s t hfirst => (retimed_renderRest h.2).bind fun u v hothers => .ok ?_
      exact (hfirst.append hothers).congr (by simp)

/-- A node renders as before unless it holds a moment. -/
theorem retimed_render (he : e.KeepsCalendar) {node : Node} (hbuilt : node.Built)
    (hfinite : ∀ c ∈ node.conditions, ∀ v ∈ c.operand.values, v.StaysFinite) :
    SameOutcome (Retimed node.HoldsMoment) (node.render e) (node.reloaded.render e) := by
  induction node using Node.induction with
  | condition j c =>
      have hmoment : (condition j c).HoldsMoment = c.HoldsMoment := by simp [HoldsMoment]
      rw [reloaded_condition, render, render, hmoment]
      exact retimed_condition he (built_condition.1 hbuilt) (hfinite c (by simp))
  | group j children ih =>
      have hmoment : (group j children).HoldsMoment = ∃ child ∈ children, child.HoldsMoment := by
        simp only [HoldsMoment, conditions_group, mem_conditionsAll, eq_iff_iff]
        constructor
        · rintro ⟨c, ⟨child, hchild, hc⟩, h⟩
          exact ⟨child, hchild, c, hc, h⟩
        · rintro ⟨child, hchild, c, hc, h⟩
          exact ⟨c, ⟨child, hchild, hc⟩, h⟩
      rw [conditions_group, forall_mem_conditionsAll] at hfinite
      have hchildren := retimed_sequence fun child hchild =>
        ih child hchild ((built_group.1 hbuilt).2 child hchild) (hfinite child hchild)
      rw [reloaded_group, reloadedAll_eq_map, render, render, hmoment]
      exact hchildren.bind fun s t hinner => .ok ((hinner.extend ")").prepend ['('])

/-! ### The main theorem -/

/-- What is stored loads again, if it is not nested too deep and holds only floating point numbers
that are finite and are read back.  In every dialect it fails to render as it did before, and
otherwise renders to the same text if and only if it holds no day with a time. -/
theorem joinAll_load_save {nodes : List Node} (hbuilt : ∀ node ∈ nodes, node.Built)
    (hdepth : nestingAll nodes ≤ 62)
    (hfinite : ∀ c ∈ conditionsAll nodes, ∀ x, .float x ∈ c.operand.values → x.isFinite = true)
    (hread : ∀ c ∈ conditionsAll nodes, c.ReadsBack) :
    ∃ loaded, Document.load (save nodes) = .ok loaded ∧ ∀ d : Dialect,
      (∀ err, joinAll d.escaper loaded = .error err ↔ joinAll d.escaper nodes = .error err) ∧
        (joinAll d.escaper loaded = joinAll d.escaper nodes ↔
          (∃ err, joinAll d.escaper nodes = .error err) ∨
            ∀ c ∈ conditionsAll nodes, ∀ t, .dateTime t ∉ c.operand.values) := by
  have hpatterns : ∀ c ∈ conditionsAll nodes, c.KeepsPattern := fun c hc _ x hx =>
    hfinite c hc x (by simp [hx, Operand.values])
  refine ⟨reloadedAll nodes, (load_save_eq_ok hbuilt hread).2 ⟨hdepth, hpatterns, rfl⟩, fun d => ?_⟩
  have hstays : ∀ c ∈ conditionsAll nodes, ∀ v ∈ c.operand.values, v.StaysFinite := by
    rintro c hc v hv x rfl
    exact hfinite c hc x hv
  rw [forall_mem_conditionsAll] at hstays
  have hsame := retimed_sequence fun node hnode =>
    retimed_render d.keepsCalendar (hbuilt node hnode) (hstays node hnode)
  have hmoment : (¬∃ node ∈ nodes, node.HoldsMoment) ↔
      ∀ c ∈ conditionsAll nodes, ∀ t, .dateTime t ∉ c.operand.values := by
    constructor
    · intro hnone c hc t ht
      obtain ⟨node, hnode, hc⟩ := mem_conditionsAll.1 hc
      exact hnone ⟨node, hnode, c, hc, .dateTime t, ht, rfl⟩
    · rintro hnone ⟨node, hnode, c, hc, v, hv, hmoment⟩
      obtain ⟨t, rfl⟩ := Value.isMoment_iff.1 hmoment
      exact hnone c (mem_conditionsAll.2 ⟨node, hnode, hc⟩) t hv
  rw [← hmoment, reloadedAll_eq_map]
  refine ⟨fun err => hsame.eq_error_iff.symm, ?_⟩
  generalize joinAll d.escaper nodes = before at hsame
  generalize joinAll d.escaper (nodes.map reloaded) = after at hsame
  cases hsame with
  | ok htext => simp [← htext.eq_iff, eq_comm]
  | error err => simp

/-- A day as a bound and as a pattern, beside one half. -/
theorem joinAll_load_save_days :
    let half : Magnitude := ⟨4503599627370496, 1021, by decide, by decide, by decide⟩
    let day : Value := .date ⟨2024, 2, 29, by decide, by decide⟩
    let nodes : List Node := [.condition .and ⟨"a", [⟨"a", none⟩], .like, .scalar day⟩,
      .group .or [.condition .and ⟨"b|date:c", [⟨"b", none⟩, ⟨"c", some .date⟩], .between,
        .range day (.float (.finite false half))⟩]]
    (∀ node ∈ nodes, node.Built) ∧ (∀ c ∈ conditionsAll nodes, c.ReadsBack) ∧
      ∃ loaded, Document.load (save nodes) = .ok loaded ∧
        ∀ d : Dialect, joinAll d.escaper loaded = joinAll d.escaper nodes := by
  intro half day nodes
  have hbuilt : ∀ node ∈ nodes, node.Built := by
    simp only [nodes, List.forall_mem_cons, built_group, built_condition]
    exact ⟨rfl, ⟨by simp, rfl, by simp⟩, by simp⟩
  have hread : ∀ c ∈ conditionsAll nodes, c.ReadsBack := by
    have hshortest : half.shortest .even = ⟨5, -1⟩ := by decide +kernel
    have hhalf : Json.ReadsBack (.finite false half) :=
      Json.readsBack_of_short hshortest (by decide) (by decide)
    simp [nodes, day, Condition.ReadsBack, Operand.values, Binary64.isFinite, hhalf]
  obtain ⟨loaded, hload, hsame⟩ := joinAll_load_save hbuilt (by simp [nodes])
    (by simp [nodes, day, Operand.values, Binary64.isFinite]) hread
  exact ⟨hbuilt, hread, loaded, hload, fun d =>
    (hsame d).2.2 (.inr (by simp [nodes, day, Operand.values]))⟩

/-- A moment is rendered in another way after it was stored. -/
theorem not_joinAll_load_save :
    ¬ ∀ nodes : List Node, (∀ node ∈ nodes, node.Built) → nestingAll nodes ≤ 62 →
      (∀ c ∈ conditionsAll nodes, ∀ x, .float x ∈ c.operand.values → x.isFinite = true) →
        (∀ c ∈ conditionsAll nodes, c.ReadsBack) →
          ∃ loaded, Document.load (save nodes) = .ok loaded ∧
            ∀ d : Dialect, joinAll d.escaper loaded = joinAll d.escaper nodes := by
  intro h
  let noon : DateTime := ⟨⟨2024, 2, 29, by decide, by decide⟩,
    ⟨12, 0, 0, 0, by decide, by decide, by decide, by decide⟩⟩
  let nodes : List Node :=
    [.condition .and ⟨"a", [⟨"a", none⟩], .equal, .scalar (.dateTime noon)⟩]
  have hbuilt : ∀ node ∈ nodes, node.Built := by
    simp only [nodes, List.forall_mem_cons, built_condition]
    exact ⟨rfl, by simp⟩
  have hread : ∀ c ∈ conditionsAll nodes, c.ReadsBack := by
    simp [nodes, Condition.ReadsBack, Operand.values]
  obtain ⟨loaded, hload, hsame⟩ := h nodes hbuilt (by simp [nodes])
    (by simp [nodes, Operand.values]) hread
  obtain ⟨-, -, rfl⟩ := (load_save_eq_ok hbuilt hread).1 hload
  have htexts := hsame .postgres
  have hbefore : joinAll Dialect.postgres.escaper nodes =
      .ok "\"a\" = '2024-02-29 12:00:00'" := by decide
  have hafter : joinAll Dialect.postgres.escaper (reloadedAll nodes) =
      .ok "\"a\" = '2024-02-29T12:00:00'" := by
    simp only [nodes, reloadedAll_eq_map, List.map_cons, List.map_nil, reloaded_condition]
    decide
  rw [hbefore, hafter] at htexts
  revert htexts
  decide

end Node

end WhereClause
