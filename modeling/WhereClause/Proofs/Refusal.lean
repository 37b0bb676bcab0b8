import WhereClause.Proofs.Containment

/-!
# When rendering fails

Rendering asks an escaper for names, casts, texts and literals and puts together what it answers.
An escaper may refuse, for whatever reason it has.  The first refusal ends the rendering and is told
as it is, and nothing but a refusal does: a condition that was built has an operand in the shape of
its operator.

Main definitions:

* `EscaperCall`, `Escaper.ask`: what an escaper is asked, and what it answers;
* `Node.calls`: everything that a sequence asks for, in the order in which it is written;
* `Follows`: a computation goes as far as the answers to its questions do.

Main results:

* `renderComparison_ne_mismatch`: an operand that fits its operator is rendered with it;
* `Node.follows_joinAll`: a sequence is rendered as far as its questions are answered;
* `Node.joinAll_outcome`: **rendering succeeds if every question is answered, and otherwise fails
  with the first refusal**.
-/

set_option autoImplicit false

namespace WhereClause

/-! ### Questions -/

inductive EscaperCall where
  | column (name : Text)
  | cast (name : Text) (kind : CastKind)
  | string (s : Text)
  | literal (v : Value)
deriving DecidableEq

def Escaper.ask (e : Escaper) : EscaperCall → Except EscapeError Text
  | .column name => e.column name
  | .cast name kind => e.cast name kind
  | .string s => e.string s
  | .literal v => e.literal v

def Column.call (column : Column) : EscaperCall :=
  match column.cast with
  | some kind => .cast column.name kind
  | none => .column column.name

/-- The question for a value: its literal, or the column that it refers to. -/
def Value.call (v : Value) : EscaperCall :=
  match v.fieldReference? with
  | some identifier => (Column.ofIdentifier identifier).call
  | none => .literal v

/-- The questions for an operand, from left to right.  A pattern is no literal of its own. -/
def Operand.calls : Operator → Operand → List EscaperCall
  | .like, operand => operand.values.map fun v => .string v.plainText
  | _, operand => operand.values.map Value.call

/-- The questions for a condition: each column, and behind it the operand once more. -/
def Condition.calls (c : Condition) : List EscaperCall :=
  c.columns.flatMap fun column => column.call :: c.operand.calls c.operator

/-- The questions for a sequence of nodes, in the order in which the answers are written. -/
def Node.calls (nodes : List Node) : List EscaperCall :=
  (Node.conditionsAll nodes).flatMap Condition.calls

theorem Operand.calls_of_ne_like {op : Operator} (h : op ≠ .like) (operand : Operand) :
    operand.calls op = operand.values.map Value.call := by
  cases op with
  | like => exact absurd rfl h
  | _ => rfl

/-! ### Asking one question after the other -/

section Asking

variable {e : Escaper} {α β : Type}

/-- Asks the questions in order, up to the first that is refused. -/
def Escaper.askAll (e : Escaper) : List EscaperCall → Except RenderError Unit
  | [] => .ok ()
  | call :: calls => do
    let _ ← escaped (e.ask call)
    askAll e calls

theorem askAll_append (calls calls' : List EscaperCall) :
    e.askAll (calls ++ calls') = (e.askAll calls >>= fun _ => e.askAll calls') := by
  induction calls with
  | nil => rfl
  | cons call calls ih =>
      rw [List.cons_append, Escaper.askAll, Escaper.askAll, ih]
      cases escaped (e.ask call) <;> rfl

theorem askAll_eq_ok {calls : List EscaperCall} :
    e.askAll calls = .ok () ↔ ∀ call ∈ calls, ∃ s, e.ask call = .ok s := by
  induction calls with
  | nil => simp [Escaper.askAll]
  | cons call calls ih =>
      rw [Escaper.askAll, bind_eq_ok, List.forall_mem_cons, ← ih]
      constructor
      · rintro ⟨s, hs, h⟩
        exact ⟨⟨s, escaped_eq_ok.1 hs⟩, h⟩
      · rintro ⟨⟨s, hs⟩, h⟩
        exact ⟨s, escaped_eq_ok.2 hs, h⟩

/-- The questions fail with the first refusal among the answers. -/
theorem askAll_eq_error {calls : List EscaperCall} {err : RenderError} :
    e.askAll calls = .error err ↔ ∃ before call after refusal,
      calls = before ++ call :: after ∧ (∀ earlier ∈ before, ∃ s, e.ask earlier = .ok s) ∧
        e.ask call = .error refusal ∧ err = .escape refusal := by
  induction calls with
  | nil => simp [Escaper.askAll]
  | cons call calls ih =>
      rw [Escaper.askAll]
      cases hcall : e.ask call with
      | error refusal =>
          constructor
          · intro h
            cases h
            exact ⟨[], call, calls, refusal, rfl, by simp, hcall, rfl⟩
          · rintro ⟨before, other, after, refusal', heq, hbefore, hother, rfl⟩
            cases before with
            | nil =>
                obtain ⟨rfl, rfl⟩ := List.cons.inj heq
                rw [hcall] at hother
                cases hother
                rfl
            | cons earlier before =>
                obtain ⟨rfl, -⟩ := List.cons.inj heq
                obtain ⟨s, hs⟩ := hbefore call List.mem_cons_self
                rw [hcall] at hs
                cases hs
      | ok s =>
          change e.askAll calls = .error err ↔ _
          rw [ih]
          constructor
          · rintro ⟨before, other, after, refusal, rfl, hbefore, hother, rfl⟩
            exact ⟨call :: before, other, after, refusal, rfl,
              List.forall_mem_cons.2 ⟨⟨s, hcall⟩, hbefore⟩, hother, rfl⟩
          · rintro ⟨before, other, after, refusal, heq, hbefore, hother, rfl⟩
            cases before with
            | nil =>
                obtain ⟨rfl, rfl⟩ := List.cons.inj heq
                rw [hcall] at hother
                cases hother
            | cons earlier before =>
                obtain ⟨rfl, rfl⟩ := List.cons.inj heq
                exact ⟨before, other, after, refusal, rfl, (List.forall_mem_cons.1 hbefore).2,
                  hother, rfl⟩

/-- The computation succeeds if the questions are answered, and fails with the first refusal. -/
def Follows (e : Escaper) (x : Except RenderError α) (calls : List EscaperCall) : Prop :=
  SameOutcome (fun _ _ => True) x (e.askAll calls)

theorem follows_ok (a : α) : Follows e (.ok a) [] :=
  .ok trivial

theorem follows_ask (call : EscaperCall) : Follows e (escaped (e.ask call)) [call] := by
  unfold Follows Escaper.askAll
  cases e.ask call with
  | ok s => exact .ok trivial
  | error refusal => exact .error _

namespace Follows

variable {x : Except RenderError α} {calls calls' : List EscaperCall}

theorem bind {f : α → Except RenderError β} (hx : Follows e x calls)
    (hf : ∀ a, Follows e (f a) calls') : Follows e (x >>= f) (calls ++ calls') := by
  unfold Follows
  rw [askAll_append]
  exact SameOutcome.bind hx fun a _ _ => hf a

/-- What is put together from answers asks nothing more. -/
theorem map (hx : Follows e x calls) (f : α → β) :
    Follows e (x >>= fun a => pure (f a)) calls := by
  have h := hx.bind (f := fun a => pure (f a)) fun a => follows_ok (f a)
  rwa [List.append_nil] at h

theorem mapM {γ : Type} {f : γ → Except RenderError α} {asked : γ → List EscaperCall}
    {items : List γ} (h : ∀ item ∈ items, Follows e (f item) (asked item)) :
    Follows e (items.mapM f) (items.flatMap asked) := by
  induction items with
  | nil => exact follows_ok []
  | cons item items ih =>
      rw [List.forall_mem_cons] at h
      rw [List.mapM_cons, List.flatMap_cons]
      exact h.1.bind fun a => (ih h.2).map _

end Follows

end Asking

/-! ### From columns to sequences -/

variable {e : Escaper}

theorem follows_column (column : Column) : Follows e (column.render e) [column.call] := by
  unfold Column.render Column.call
  cases column.cast with
  | some kind => exact follows_ask (.cast column.name kind)
  | none => exact follows_ask (.column column.name)

theorem follows_value (v : Value) : Follows e (v.render e) [v.call] := by
  unfold Value.render Value.call
  cases v.fieldReference? with
  | some identifier => exact follows_column _
  | none => exact follows_ask (.literal v)

theorem follows_likePattern (v : Value) :
    Follows e (likePattern e v) [.string v.plainText] :=
  (follows_ask (.string v.plainText)).map _

theorem follows_values (values : List Value) :
    Follows e (values.mapM (Value.render e)) (values.map Value.call) := by
  rw [List.map_eq_flatMap]
  exact Follows.mapM fun v _ => follows_value v

/-- An operand in the shape of its operator asks for its values and nothing else. -/
theorem follows_comparison {op : Operator} {operand : Operand} (h : Operand.Shape op operand)
    (column : Text) : Follows e (renderComparison e column op operand) (operand.calls op) := by
  cases h with
  | isNull => exact follows_ok _
  | isNotNull => exact follows_ok _
  | between low high =>
      have hlow := follows_value (e := e) low
      exact hlow.bind fun _ => (follows_value high).map _
  | list v vs => exact (follows_values (v :: vs)).map _
  | subquery _ => exact follows_ok _
  | like _ => exact (follows_likePattern _).map _
  | plain v hop =>
      have hlike : op ≠ .like := by
        rintro rfl
        exact absurd hop (by decide)
      rw [renderComparison_plain hop, Operand.calls_of_ne_like hlike]
      exact (follows_value v).map _

theorem follows_condition {c : Condition} (h : c.Built) : Follows e (c.render e) c.calls := by
  have hcolumns : Follows e (c.columns.mapM (c.renderColumn e)) c.calls :=
    Follows.mapM fun column _ =>
      (follows_column column).bind fun written => follows_comparison h.shape written
  -- how many comparisons there are decides about brackets, for which nothing is asked
  rw [← List.append_nil c.calls]
  refine hcolumns.bind fun comparisons => ?_
  split <;> exact follows_ok _

namespace Node

theorem calls_cons (node : Node) (nodes : List Node) :
    calls (node :: nodes) = calls [node] ++ calls nodes := by
  simp only [calls, conditionsAll_cons, conditionsAll_nil, List.append_nil, List.flatMap_append]

theorem follows_renderRest {nodes : List Node}
    (h : ∀ node ∈ nodes, Follows e (node.render e) (calls [node])) :
    Follows e (renderRest e nodes) (calls nodes) := by
  induction nodes with
  | nil =>
      rw [renderRest]
      exact follows_ok []
  | cons node nodes ih =>
      rw [List.forall_mem_cons] at h
      rw [renderRest_cons, calls_cons]
      exact h.1.bind fun _ => (ih h.2).map _

/-- A sequence asks what its nodes ask, one node after the other. -/
theorem follows_joinAll {nodes : List Node}
    (h : ∀ node ∈ nodes, Follows e (node.render e) (calls [node])) :
    Follows e (joinAll e nodes) (calls nodes) := by
  cases nodes with
  | nil =>
      rw [joinAll]
      exact follows_ok []
  | cons node nodes =>
      rw [List.forall_mem_cons] at h
      rw [joinAll_cons, calls_cons]
      exact h.1.bind fun _ => (follows_renderRest h.2).map _

theorem follows_render {node : Node} (h : node.Built) :
    Follows e (node.render e) (calls [node]) := by
  induction node using Node.induction with
  | condition j c =>
      have hcalls : calls [condition j c] = c.calls := by simp [calls]
      rw [render, hcalls]
      exact follows_condition (built_condition.1 h)
  | group j children ih =>
      have hcalls : calls [group j children] = calls children := by simp [calls]
      obtain ⟨-, hchildren⟩ := built_group.1 h
      rw [render, hcalls]
      exact (follows_joinAll fun child hchild => ih child hchild (hchildren child hchild)).map _

/-! ### The main theorem -/

/-- An operand in the shape of its operator is rendered with it. -/
theorem renderComparison_ne_mismatch {op : Operator} {operand : Operand}
    (h : Operand.Shape op operand) (column : Text) (found : Operand) (op' : Operator) :
    renderComparison e column op operand ≠ .error (.operandMismatch found op') := by
  intro hmismatch
  obtain ⟨_, _, _, refusal, -, -, -, heq⟩ :=
    askAll_eq_error.1 ((follows_comparison h column).eq_error_iff.1 hmismatch)
  cases heq

/-- A sequence renders if and only if the escaper answers everything that it is asked.  Otherwise
the rendering fails with the first refusal, as the escaper gave it, and never because an operand had
another shape than its operator. -/
theorem joinAll_outcome (e : Escaper) {nodes : List Node} (h : ∀ node ∈ nodes, node.Built) :
    ((∃ sql, joinAll e nodes = .ok sql) ↔ ∀ call ∈ calls nodes, ∃ s, e.ask call = .ok s) ∧
      (∀ err, joinAll e nodes = .error err ↔ ∃ before call after refusal,
        calls nodes = before ++ call :: after ∧ (∀ earlier ∈ before, ∃ s, e.ask earlier = .ok s) ∧
          e.ask call = .error refusal ∧ err = .escape refusal) ∧
      ∀ c ∈ conditionsAll nodes, ∀ column found op,
        renderComparison e column c.operator c.operand ≠ .error (.operandMismatch found op) := by
  have hfollows := follows_joinAll fun node hnode => follows_render (e := e) (h node hnode)
  refine ⟨?_, ?_, ?_⟩
  · rw [← askAll_eq_ok]
    exact hfollows.exists_ok_iff.trans ⟨fun ⟨_, hunit⟩ => hunit, fun hunit => ⟨(), hunit⟩⟩
  · intro err
    rw [hfollows.eq_error_iff, askAll_eq_error]
  · rw [forall_mem_conditionsAll]
    intro node hnode c hc column found op
    exact renderComparison_ne_mismatch (built_of_mem_conditions (h node hnode) hc).shape column
      found op

/-- An escaper that refuses casts and every text that holds a quote. -/
theorem joinAll_outcome_refused :
    let e : Escaper :=
      ⟨"strict", fun name => .ok name,
        fun s => if '\'' ∈ s then .error (.refused "quote") else .ok s,
        fun _ _ => .error (.refused "cast"), fun b => if b then "1" else "0"⟩
    let nodes : List Node := [
      .condition .and ⟨"a", [⟨"a", none⟩], .isIn, .list [.int 1, .string "field:b"]⟩,
      .group .or [.condition .and
        ⟨"c|date:d", [⟨"c", none⟩, ⟨"d", some .date⟩], .like, .scalar (.string "it's")⟩]]
    (∀ node ∈ nodes, node.Built) ∧
      joinAll e nodes = .error (.escape (.refused "quote")) := by
  intro e nodes
  have hbuilt : ∀ node ∈ nodes, node.Built := by
    simp only [nodes, List.forall_mem_cons, built_group, built_condition]
    exact ⟨rfl, ⟨by simp, rfl, by simp⟩, by simp⟩
  refine ⟨hbuilt, ((joinAll_outcome e hbuilt).2.1 _).2 ?_⟩
  refine ⟨[.column "a", .literal (.int 1), .column "b", .column "c"], .string "it's",
    [.cast "d" .date, .string "it's"], .refused "quote", rfl, ?_, rfl, rfl⟩
  simp only [List.forall_mem_cons]
  exact ⟨⟨_, rfl⟩, ⟨_, rfl⟩, ⟨_, rfl⟩, ⟨_, rfl⟩, by simp⟩

end Node

end WhereClause
