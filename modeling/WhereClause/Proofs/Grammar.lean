import WhereClause.Proofs.Sentence

/-!
# The grammar of the shorthand

What may be written and what it means, without regard to how it is read.  Every rule relates what is
meant, the text from some place on, and the text that is left behind the part in question; what
stands between the two is the part, and no character of it belongs to no rule.  The rest is there
because a keyword or a number must not go on as a word.

Main definitions:

* `Grammar.Gap`, `Grammar.RealGap`, `Grammar.Keyword`: white space and keywords;
* `Grammar.Number`, `Grammar.Literal`, `Grammar.Items`, `Grammar.LiteralList`: values and lists of
  them;
* `Grammar.Symbol`, `Grammar.Comparison`: an operator with its operand;
* `Grammar.Term`, `Grammar.Sequence`, `Grammar.Others`: conditions, groups and sequences, and the
  nodes that are built from them.

Main results:

* `Grammar.Sequence.suffix`: what a sequence leaves is an end of the text;
* `Grammar.Comparison.fit_eq`: an operand that was written fits its operator as it is;
* `Grammar.Sequence.exists_literal`: every value in a sequence was written as one.
-/

set_option autoImplicit false

namespace WhereClause.Shorthand.Grammar

/-! ### White space and keywords -/

/-- White space, of which there may be none. -/
def Gap (s rest : Text) : Prop :=
  ∃ gap, (∀ c ∈ gap, isGap c = true) ∧ s = gap ++ rest

/-- White space, of which there is some. -/
def RealGap (s rest : Text) : Prop :=
  ∃ gap, IsGap gap ∧ s = gap ++ rest

/-- A keyword in any case, which does not go on as a longer word. -/
def Keyword (word s rest : Text) : Prop :=
  ∃ written, Cased word written ∧ s = written ++ rest ∧ Stops isWordChar rest

/-! ### Values -/

/-- A number: digits with a sign in front if it is negative, and with more digits behind a point if
it is a floating point number.  It does not go on as a bare word. -/
inductive Number : Value → Text → Text → Prop
  | whole {negative : Bool} {digits rest : Text} {n : Int64} (hne : digits ≠ [])
      (hdigits : ∀ c ∈ digits, c.isDigit = true)
      (hn : n.toInt = if negative then -(Numeral.toNat digits : Int) else Numeral.toNat digits)
      (hrest : Stops isBareChar rest) :
      Number (.int n) (Binary64.withSign negative digits ++ rest) rest
  | decimal {negative : Bool} {digits fraction rest : Text} (hne : digits ≠ [])
      (hdigits : ∀ c ∈ digits, c.isDigit = true) (hfraction : fraction ≠ [])
      (hfractionDigits : ∀ c ∈ fraction, c.isDigit = true) (hrest : Stops isBareChar rest) :
      Number (.float (Binary64.ofDecimal negative (Decimal.ofNumerals digits fraction 0)))
        (Binary64.withSign negative (digits ++ '.' :: fraction) ++ rest) rest

/-- A value: a text in quotes with the quotes inside it doubled, one of three keywords, a number, or
a bare word. -/
inductive Literal : Value → Text → Text → Prop
  | quoted {content rest : Text} (hrest : rest.head? ≠ some '\'') :
      Literal (.string content) (Quoted.write '\'' content ++ rest) rest
  | null {s rest : Text} (h : Keyword "NULL" s rest) : Literal .null s rest
  | true {s rest : Text} (h : Keyword "TRUE" s rest) : Literal (.bool Bool.true) s rest
  | false {s rest : Text} (h : Keyword "FALSE" s rest) : Literal (.bool Bool.false) s rest
  | number {v : Value} {s rest : Text} (h : Number v s rest) : Literal v s rest
  | word {word rest : Text} (hne : word ≠ []) (hword : ∀ c ∈ word, isBareChar c = Bool.true)
      (hrest : Stops isBareChar rest) : Literal (.string word) (word ++ rest) rest

/-- Values with a comma in front of each. -/
inductive Items : List Value → Text → Text → Prop
  | nil {rest : Text} : Items [] rest rest
  | cons {v : Value} {vs : List Value} {s s₁ s₂ s₃ rest : Text} (hcomma : Gap s (',' :: s₁))
      (hgap : Gap s₁ s₂) (hv : Literal v s₂ s₃) (hvs : Items vs s₃ rest) :
      Items (v :: vs) s rest

/-- A text that consists of values with commas between them. -/
inductive LiteralList : List Value → Text → Prop
  | mk {v : Value} {vs : List Value} {s s₁ s₂ s₃ : Text} (hgap : Gap s s₁) (hv : Literal v s₁ s₂)
      (hvs : Items vs s₂ s₃) (hend : Gap s₃ []) : LiteralList (v :: vs) s

/-! ### Comparisons -/

/-- The symbol of a plain comparison; there are two for what is not equal. -/
inductive Symbol : Operator → Text → Text → Prop
  | own {op : Operator} {rest : Text} (h : op ∈ Operator.plain) : Symbol op (op.symbol ++ rest) rest
  | angles {rest : Text} : Symbol .notEqual ('<' :: '>' :: rest) rest

/-- An operator and the operand that a condition is built with. -/
inductive Comparison : Operator → Operand → Text → Text → Prop
  | isNull {s s₁ s₂ rest : Text} (his : Keyword "IS" s s₁) (hgap : RealGap s₁ s₂)
      (hnull : Keyword "NULL" s₂ rest) : Comparison .isNull .none s rest
  | isNotNull {s s₁ s₂ s₃ s₄ rest : Text} (his : Keyword "IS" s s₁) (hgap : RealGap s₁ s₂)
      (hnot : Keyword "NOT" s₂ s₃) (hgap₁ : RealGap s₃ s₄) (hnull : Keyword "NULL" s₄ rest) :
      Comparison .isNotNull .none s rest
  | between {low high : Value} {s s₁ s₂ s₃ s₄ s₅ s₆ rest : Text} (hbetween : Keyword "BETWEEN" s s₁)
      (hgap : Gap s₁ s₂) (hlow : Literal low s₂ s₃) (hgap₁ : RealGap s₃ s₄)
      (hand : Keyword "AND" s₄ s₅) (hgap₂ : Gap s₅ s₆) (hhigh : Literal high s₆ rest) :
      Comparison .between (.range low high) s rest
  | query {body s s₁ rest : Text} (hin : Keyword "IN" s s₁)
      (hgap : Gap s₁ ('(' :: (body ++ ')' :: rest))) (hbalanced : balanced 0 false body = true)
      (hquery : isSubquery body = true) :
      Comparison .isIn (.subquery (Text.trim body)) s rest
  | list {values : List Value} {body s s₁ rest : Text} (hin : Keyword "IN" s s₁)
      (hgap : Gap s₁ ('(' :: (body ++ ')' :: rest))) (hbalanced : balanced 0 false body = true)
      (hquery : isSubquery body = false) (hvalues : LiteralList values body) :
      Comparison .isIn (.list values) s rest
  | like {v : Value} {s s₁ s₂ rest : Text} (hlike : Keyword "LIKE" s s₁) (hgap : Gap s₁ s₂)
      (hv : Literal v s₂ rest) : Comparison .like (.scalar v) s rest
  | plain {op : Operator} {v : Value} {s s₁ s₂ rest : Text} (hop : Symbol op s s₁)
      (hgap : Gap s₁ s₂) (hv : Literal v s₂ rest) : Comparison op (.scalar v) s rest

/-! ### Terms and sequences -/

mutual

/-- A condition or a group, with at most `levels` groups inside each other, and the node that is
built from it with the given joiner. -/
inductive Term : (levels : Nat) → Joiner → Node → Text → Text → Prop
  | condition {levels : Nat} {j : Joiner} {fields : Text} {op : Operator} {operand : Operand}
      {node : Node} {s s₁ rest : Text} (hne : fields ≠ [])
      (hfields : ∀ c ∈ fields, isFieldChar c = true) (hgap : Gap s s₁)
      (hcomparison : Comparison op operand s₁ rest)
      (hnode : Node.ofParts fields op operand j = .ok node) :
      Term levels j node (fields ++ s) rest
  | group {levels : Nat} {j : Joiner} {nodes : List Node} {node : Node} {s s₁ s₂ rest : Text}
      (hgap : Gap s s₁) (hnodes : Sequence levels nodes s₁ s₂) (hgap₁ : Gap s₂ (')' :: rest))
      (hnode : Node.enclose nodes j = .ok node) : Term (levels + 1) j node ('(' :: s) rest

/-- Terms with joiners between them.  The first is joined with AND. -/
inductive Sequence : (levels : Nat) → List Node → Text → Text → Prop
  | mk {levels : Nat} {node : Node} {nodes : List Node} {s s₁ rest : Text}
      (hfirst : Term levels .and node s s₁) (hothers : Others levels nodes s₁ rest) :
      Sequence levels (node :: nodes) s rest

/-- Terms with a joiner in front of each. -/
inductive Others : (levels : Nat) → List Node → Text → Text → Prop
  | nil {levels : Nat} {rest : Text} : Others levels [] rest rest
  | cons {levels : Nat} {j : Joiner} {node : Node} {nodes : List Node} {s s₁ s₂ s₃ s₄ rest : Text}
      (hgap : Gap s s₁) (hjoiner : Keyword j.keyword s₁ s₂) (hgap₁ : Gap s₂ s₃)
      (hnode : Term levels j node s₃ s₄) (hnodes : Others levels nodes s₄ rest) :
      Others levels (node :: nodes) s rest

end

/-! ### What is left -/

theorem Gap.suffix {s rest : Text} : Gap s rest → rest <:+ s := by
  rintro ⟨gap, -, rfl⟩
  exact List.suffix_append gap rest

theorem RealGap.suffix {s rest : Text} : RealGap s rest → rest <:+ s := by
  rintro ⟨gap, -, rfl⟩
  exact List.suffix_append gap rest

theorem Keyword.suffix {word s rest : Text} : Keyword word s rest → rest <:+ s := by
  rintro ⟨written, -, rfl, -⟩
  exact List.suffix_append written rest

theorem Literal.suffix {v : Value} {s rest : Text} (h : Literal v s rest) : rest <:+ s := by
  cases h with
  | quoted _ => exact List.suffix_append _ rest
  | null h => exact h.suffix
  | true h => exact h.suffix
  | false h => exact h.suffix
  | number h => cases h <;> exact List.suffix_append _ rest
  | word _ _ _ => exact List.suffix_append _ rest

theorem Symbol.suffix {op : Operator} {s rest : Text} (h : Symbol op s rest) : rest <:+ s := by
  cases h with
  | own _ => exact List.suffix_append _ rest
  | angles => exact List.suffix_append ['<', '>'] rest

theorem suffix_of_brackets {s body rest : Text} (h : Gap s ('(' :: (body ++ ')' :: rest))) :
    rest <:+ s := by
  have hbody : rest <:+ '(' :: (body ++ ')' :: rest) :=
    ⟨'(' :: (body ++ [')']), by simp⟩
  exact hbody.trans h.suffix

theorem Comparison.suffix {op : Operator} {operand : Operand} {s rest : Text}
    (h : Comparison op operand s rest) : rest <:+ s := by
  cases h with
  | isNull his hgap hnull => exact (hnull.suffix.trans hgap.suffix).trans his.suffix
  | isNotNull his hgap hnot hgap₁ hnull =>
      exact (((hnull.suffix.trans hgap₁.suffix).trans hnot.suffix).trans hgap.suffix).trans
        his.suffix
  | between hbetween hgap hlow hgap₁ hand hgap₂ hhigh =>
      have hbound := (hlow.suffix.trans hgap.suffix).trans hbetween.suffix
      have hbehind := (hhigh.suffix.trans hgap₂.suffix).trans hand.suffix
      exact (hbehind.trans hgap₁.suffix).trans hbound
  | query hin hgap _ _ => exact (suffix_of_brackets hgap).trans hin.suffix
  | list hin hgap _ _ _ => exact (suffix_of_brackets hgap).trans hin.suffix
  | like hlike hgap hv => exact (hv.suffix.trans hgap.suffix).trans hlike.suffix
  | plain hop hgap hv => exact (hv.suffix.trans hgap.suffix).trans hop.suffix

mutual

theorem Term.suffix : ∀ {levels : Nat} {j : Joiner} {node : Node} {s rest : Text},
    Term levels j node s rest → rest <:+ s
  | _, _, _, _, _, .condition _ _ hgap hcomparison _ =>
    (hcomparison.suffix.trans hgap.suffix).trans (List.suffix_append _ _)
  | _, _, _, _, rest, .group hgap hnodes hgap₁ _ =>
    have hinner := (hnodes.suffix.trans hgap.suffix).trans (List.suffix_cons '(' _)
    ((List.suffix_cons ')' rest).trans hgap₁.suffix).trans hinner

/-- What a sequence leaves is an end of the text. -/
theorem Sequence.suffix : ∀ {levels : Nat} {nodes : List Node} {s rest : Text},
    Sequence levels nodes s rest → rest <:+ s
  | _, _, _, _, .mk hfirst hothers => hothers.suffix.trans hfirst.suffix

theorem Others.suffix : ∀ {levels : Nat} {nodes : List Node} {s rest : Text},
    Others levels nodes s rest → rest <:+ s
  | _, _, _, _, .nil => List.suffix_rfl
  | _, _, _, _, .cons hgap hjoiner hgap₁ hnode hnodes =>
    have hterm := (hgap₁.suffix.trans hjoiner.suffix).trans hgap.suffix
    (hnodes.suffix.trans hnode.suffix).trans hterm

end

/-! ### Values that were written -/

/-- An operand that was written fits its operator as it is, if it fits at all. -/
theorem Comparison.fit_eq {op : Operator} {operand fitted : Operand} {s rest : Text}
    (h : Comparison op operand s rest) (hfit : operand.fit op = .ok fitted) : fitted = operand := by
  cases h with
  | isNull => exact (Except.ok.inj hfit).symm
  | isNotNull => exact (Except.ok.inj hfit).symm
  | between => exact (Except.ok.inj hfit).symm
  | query =>
      simp only [Operand.fit, Operand.fitIn] at hfit
      split at hfit
      · cases hfit
      · exact (Except.ok.inj hfit).symm
  | list _ _ _ _ hvalues =>
      obtain ⟨⟩ := hvalues
      exact (Except.ok.inj hfit).symm
  | @like v =>
      cases v with
      | null => cases hfit
      | _ => exact (Except.ok.inj hfit).symm
  | plain hop =>
      cases hop with
      | own hop =>
          rcases Operator.mem_plain.1 hop with rfl | rfl | rfl | rfl | rfl | rfl
          all_goals exact (Except.ok.inj hfit).symm
      | angles => exact (Except.ok.inj hfit).symm

theorem Items.exists_literal {vs : List Value} {s rest : Text} (h : Items vs s rest) :
    ∀ v ∈ vs, ∃ t u, Literal v t u := by
  induction h with
  | nil => simp
  | cons _ _ hv _ ih => exact List.forall_mem_cons.2 ⟨⟨_, _, hv⟩, ih⟩

theorem Comparison.exists_literal {op : Operator} {operand : Operand} {s rest : Text}
    (h : Comparison op operand s rest) : ∀ v ∈ operand.values, ∃ t u, Literal v t u := by
  cases h with
  | between _ _ hlow _ _ _ hhigh =>
      simpa [Operand.values] using ⟨⟨_, _, hlow⟩, _, _, hhigh⟩
  | list _ _ _ _ hvalues =>
      obtain ⟨_, hv, hvs, _⟩ := hvalues
      exact List.forall_mem_cons.2 ⟨⟨_, _, hv⟩, hvs.exists_literal⟩
  | like _ _ hv => simpa [Operand.values] using ⟨_, _, hv⟩
  | plain _ _ hv => simpa [Operand.values] using ⟨_, _, hv⟩
  | _ => simp [Operand.values]

mutual

theorem Term.exists_literal : ∀ {levels : Nat} {j : Joiner} {node : Node} {s rest : Text},
    Term levels j node s rest → ∀ c ∈ node.conditions, ∀ v ∈ c.operand.values,
      ∃ t u, Literal v t u
  | _, _, _, _, _, .condition _ _ _ hcomparison hnode => by
    obtain ⟨c, hc, rfl⟩ := Node.ofParts_eq_ok.1 hnode
    obtain ⟨-, -, rfl, hfit⟩ := Condition.ofParts_eq_ok.1 hc
    simpa [hcomparison.fit_eq hfit] using hcomparison.exists_literal
  | _, _, _, _, _, .group _ hnodes _ hnode => by
    obtain ⟨-, rfl⟩ := Node.enclose_eq_ok.1 hnode
    rw [Node.conditions_group]
    exact hnodes.exists_literal

/-- Every value in a sequence was written as one. -/
theorem Sequence.exists_literal : ∀ {levels : Nat} {nodes : List Node} {s rest : Text},
    Sequence levels nodes s rest → ∀ c ∈ Node.conditionsAll nodes, ∀ v ∈ c.operand.values,
      ∃ t u, Literal v t u
  | _, _, _, _, .mk hfirst hothers => by
    rw [Node.conditionsAll_cons, List.forall_mem_append]
    exact ⟨hfirst.exists_literal, hothers.exists_literal⟩

theorem Others.exists_literal : ∀ {levels : Nat} {nodes : List Node} {s rest : Text},
    Others levels nodes s rest → ∀ c ∈ Node.conditionsAll nodes, ∀ v ∈ c.operand.values,
      ∃ t u, Literal v t u
  | _, _, _, _, .nil => by simp
  | _, _, _, _, .cons _ _ _ hnode hnodes => by
    rw [Node.conditionsAll_cons, List.forall_mem_append]
    exact ⟨hnode.exists_literal, hnodes.exists_literal⟩

end

end WhereClause.Shorthand.Grammar
