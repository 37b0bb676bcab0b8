import WhereClause.Node.Named
import WhereClause.Proofs.Derivation
import WhereClause.Proofs.Trimming

/-!
# Lists given as one text

A caller may give the alternatives of IN as one text with commas between them, with white space
wherever it is convenient.  This is a short form for the list of the texts between the commas, and
two kinds of text are no short form: a blank one, which names no alternative, and one that reads as
a query, which is kept as it is.  Whatever an operand was given as, what a condition keeps of it is
the same when the condition is built from that again.

Main definitions:

* `Text.Padded`: a text with white space around it;
* `Text.BeginsQuery`: a text reads as a query.

Main results:

* `trim_padded`, `pieces_joinWith`: what joining and padding do to texts is undone;
* `isSubquery_iff`: which texts read as queries;
* `Node.isIn_text`: what a text stands for;
* `Node.isIn_joinWith`: **a text with commas means the same as the list, and building a condition
  from what it keeps changes nothing**.
-/

set_option autoImplicit false

namespace WhereClause

open Shorthand

/-! ### White space around texts -/

/-- The second text is the first with white space around it. -/
def Text.Padded (t padded : Text) : Prop :=
  ∃ u v, (∀ c ∈ u, isBlank c = true) ∧ (∀ c ∈ v, isBlank c = true) ∧ padded = u ++ t ++ v

theorem trim_padded {t padded : Text} (h : Text.Padded t padded) :
    Text.trim padded = Text.trim t := by
  obtain ⟨u, v, hu, hv, rfl⟩ := h
  have hstart : Text.trimStart (u ++ t ++ v) = Text.trimStart (t ++ v) := by
    rw [Text.trimStart, List.append_assoc, List.dropWhile_append_of_pos hu, Text.trimStart]
  rw [Text.trim, hstart, Text.trim]
  cases ht : Text.trimStart t with
  | nil =>
      -- nothing but white space is left, in front of which there is nothing but white space
      have hblank : ∀ c ∈ t ++ v, isBlank c = true :=
        List.forall_mem_append.2 ⟨List.dropWhile_eq_nil_iff.1 ht, hv⟩
      rw [Text.trimStart, List.dropWhile_eq_nil_iff.2 hblank]
  | cons c rest =>
      have hne : ¬(t.dropWhile isBlank).isEmpty = true := by
        rw [← Text.trimStart, ht]
        simp
      rw [Text.trimStart, List.dropWhile_append, if_neg hne, ← Text.trimStart, ht,
        trimEnd_append_of_forall _ hv]

theorem Text.Padded.not_mem {t padded : Text} (h : Padded t padded) {c : Char}
    (hc : isBlank c = false) (ht : c ∉ t) : c ∉ padded := by
  obtain ⟨u, v, hu, hv, rfl⟩ := h
  intro hmem
  rcases List.mem_append.1 hmem with hmem | hmem
  · rcases List.mem_append.1 hmem with hmem | hmem
    · exact absurd (hu c hmem) (by simp [hc])
    · exact ht hmem
  · exact absurd (hv c hmem) (by simp [hc])

section Lists

variable {texts padded : List Text}

theorem map_trim_padded (h : List.Forall₂ Text.Padded texts padded) :
    padded.map Text.trim = texts.map Text.trim := by
  induction h with
  | nil => rfl
  | cons hpadded _ ih => rw [List.map_cons, List.map_cons, trim_padded hpadded, ih]

theorem forall_not_mem_padded (h : List.Forall₂ Text.Padded texts padded) {c : Char}
    (hc : isBlank c = false) (htexts : ∀ t ∈ texts, c ∉ t) : ∀ p ∈ padded, c ∉ p := by
  induction h with
  | nil => simp
  | cons hpadded _ ih =>
      rw [List.forall_mem_cons] at htexts ⊢
      exact ⟨hpadded.not_mem hc htexts.1, ih htexts.2⟩

/-- The pieces of joined texts are the texts, if none of them holds the separator. -/
theorem pieces_joinWith {separator : Char} (hne : texts ≠ []) (h : ∀ t ∈ texts, separator ∉ t) :
    Text.pieces separator (Text.joinWith [separator] texts) = texts :=
  List.splitOn_intercalate separator h hne

/-- Texts that are padded and joined with commas name the texts without the padding. -/
theorem Operand.alternatives_joinWith (h : List.Forall₂ Text.Padded texts padded)
    (hne : texts ≠ []) (hcommas : ∀ t ∈ texts, ',' ∉ t) :
    Operand.alternatives (Text.joinWith [','] padded) =
      .list (texts.map fun t => .string (Text.trim t)) := by
  have hpadded : padded ≠ [] := by
    rintro rfl
    cases h
    exact hne rfl
  rw [Operand.alternatives,
    pieces_joinWith hpadded (forall_not_mem_padded h (by decide) hcommas)]
  have hmap := congrArg (List.map Value.string) (map_trim_padded h)
  rw [List.map_map, List.map_map] at hmap
  exact congrArg Operand.list hmap

end Lists

/-! ### Texts that read as queries -/

/-- The text reads as a query: behind any white space it begins with SELECT, in any case, and a
white space character. -/
def Text.BeginsQuery (s : Text) : Prop :=
  ∃ gap word c rest, s = gap ++ (word ++ c :: rest) ∧ (∀ b ∈ gap, isBlank b = true) ∧
    Text.toLower word = "select" ∧ isBlank c = true

theorem isBlank_toLower (c : Char) : isBlank c.toLower = isBlank c := by
  have hletters : ∀ n < 26, isBlank (Char.ofNat (65 + n)).toLower =
      isBlank (Char.ofNat (65 + n)) := by decide
  rcases @toLower_eq_self_or c with h | h
  · rw [h]
  · obtain ⟨n, hn, rfl⟩ := exists_upper h
    exact hletters n hn

/-- What reads as a query is not blank. -/
theorem Text.BeginsQuery.not_blank {s : Text} (h : s.BeginsQuery) :
    ¬∀ c ∈ s, isBlank c = true := by
  obtain ⟨gap, word, c, rest, rfl, -, hword, -⟩ := h
  intro hblank
  have hlower : ∀ d ∈ Text.toLower word, isBlank d = true := by
    intro d hd
    obtain ⟨letter, hletter, rfl⟩ := List.mem_map.1 hd
    rw [isBlank_toLower]
    exact hblank letter (List.mem_append_right _ (List.mem_append_left _ hletter))
  rw [hword] at hlower
  exact absurd (hlower 's' (by decide)) (by decide)

theorem isSubquery_iff {s : Text} : isSubquery s = true ↔ s.BeginsQuery := by
  simp only [isSubquery, Bool.and_eq_true, beq_iff_eq, Option.any_eq_true]
  constructor
  · rintro ⟨hword, c, hsixth, hc⟩
    obtain ⟨hlength, rfl⟩ := List.getElem?_eq_some_iff.1 hsixth
    refine ⟨s.takeWhile isBlank, (Text.trimStart s).take 6, _, (Text.trimStart s).drop 7, ?_,
      fun b hb => List.mem_takeWhile_imp hb, hword, hc⟩
    rw [← List.drop_eq_getElem_cons hlength, List.take_append_drop, Text.trimStart,
      List.takeWhile_append_dropWhile]
  · rintro ⟨gap, word, c, rest, rfl, hgap, hword, hc⟩
    have hlength : word.length = 6 := by simpa [Text.toLower] using congrArg List.length hword
    obtain ⟨d, letters, rfl⟩ := List.exists_cons_of_length_pos (by omega : 0 < word.length)
    have hd : isBlank d = false := by
      rw [← isBlank_toLower, (List.cons.inj hword).1]
      decide
    have htrim : Text.trimStart (gap ++ (d :: letters ++ c :: rest)) = d :: letters ++ c :: rest :=
      dropWhile_append_of_stops hgap (stops_cons.2 hd)
    rw [htrim, ← hlength, List.take_left, List.getElem?_append_right (Nat.le_refl _), Nat.sub_self]
    exact ⟨hword, c, rfl, hc⟩

/-! ### What a text stands for -/

namespace Node

variable {fields : Text} {columns : List Column}

theorem ofParts_of_listOfText (hcolumns : Column.listOfText fields = .ok columns) (op : Operator)
    (operand : Operand) (j : Joiner) :
    ofParts fields op operand j =
      (operand.fit op).map fun fitted => condition j ⟨fields, columns, op, fitted⟩ := by
  rw [ofParts, Condition.ofParts, hcolumns]
  cases operand.fit op <;> rfl

/-- A text stands for no alternatives, for itself as a query, or for its pieces. -/
theorem isIn_text (hcolumns : Column.listOfText fields = .ok columns) (s : Text) :
    isIn fields (.scalar (.string s)) =
      if Text.trim s = [] then .error .noAlternative
      else if isSubquery s then .ok (condition .and ⟨fields, columns, .isIn, .subquery s⟩)
      else isIn fields (Operand.alternatives s) := by
  have hlist : (Operand.alternatives s).fit .isIn = .ok (Operand.alternatives s) := by
    obtain ⟨piece, pieces, hpieces⟩ := List.exists_cons_of_ne_nil (Operand.pieces_ne_nil ',' s)
    rw [Operand.alternatives, hpieces]
    rfl
  rw [isIn, isIn, ofParts_of_listOfText hcolumns, ofParts_of_listOfText hcolumns, hlist,
    Operand.fit, Operand.fitIn]
  split
  · rfl
  · split <;> rfl

theorem isIn_list (hcolumns : Column.listOfText fields = .ok columns) {values : List Value}
    (hne : values ≠ []) : isIn fields (.list values) =
      .ok (condition .and ⟨fields, columns, .isIn, .list values⟩) := by
  obtain ⟨v, values, rfl⟩ := List.exists_cons_of_ne_nil hne
  rw [isIn, ofParts_of_listOfText hcolumns]
  rfl

/-- A condition that is built again from the operand that it keeps is the same. -/
theorem ofParts_again {op : Operator} {operand : Operand} {j : Joiner} {node : Node}
    (h : ofParts fields op operand j = .ok node) :
    ∃ c, node = condition j c ∧ ofParts fields op c.operand j = .ok node := by
  obtain ⟨c, hc, rfl⟩ := ofParts_eq_ok.1 h
  obtain ⟨rfl, hcolumns, rfl, hfit⟩ := Condition.ofParts_eq_ok.1 hc
  exact ⟨c, rfl, ofParts_eq_ok.2 ⟨c, Condition.built_of_ofParts hc, rfl⟩⟩

/-- Texts without commas, with any white space around each of them, joined with commas: unless they
are blank or read as a query, they are the list of the texts without the white space, none of which
is left out.  And a condition that is built again from the operand it keeps is the same, whatever
the operator and whatever it was built from. -/
theorem isIn_joinWith :
    (∀ fields columns texts padded, Column.listOfText fields = .ok columns → texts ≠ [] →
      (∀ t ∈ texts, ',' ∉ t) → List.Forall₂ Text.Padded texts padded →
      let s := Text.joinWith "," padded
      let values : List Value := texts.map fun t => .string (Text.trim t)
      ((∃ e, isIn fields (.scalar (.string s)) = .error e) ↔ ∀ c ∈ s, isBlank c = true) ∧
        ((∀ c ∈ s, isBlank c = true) →
          isIn fields (.scalar (.string s)) = .error .noAlternative) ∧
        (s.BeginsQuery → isIn fields (.scalar (.string s)) =
          .ok (condition .and ⟨fields, columns, .isIn, .subquery s⟩)) ∧
        (¬(∀ c ∈ s, isBlank c = true) → ¬s.BeginsQuery →
          isIn fields (.scalar (.string s)) = isIn fields (.list values) ∧
            isIn fields (.list values) =
              .ok (condition .and ⟨fields, columns, .isIn, .list values⟩))) ∧
    ∀ fields op operand j node, ofParts fields op operand j = .ok node →
      ∃ c, node = condition j c ∧ ofParts fields op c.operand j = .ok node := by
  refine ⟨fun fields columns texts padded hcolumns hne hcommas hpadded => ?_,
    fun fields op operand j node h => ofParts_again h⟩
  intro s values
  have hlist : isIn fields (.list values) =
      .ok (condition .and ⟨fields, columns, .isIn, .list values⟩) :=
    isIn_list hcolumns (by simpa [values] using hne)
  have htext := isIn_text hcolumns s
  rw [show Operand.alternatives s = .list values from
    Operand.alternatives_joinWith hpadded hne hcommas] at htext
  by_cases hblank : ∀ c ∈ s, isBlank c = true
  · rw [if_pos (trim_eq_nil.2 hblank)] at htext
    exact ⟨⟨fun _ => hblank, fun _ => ⟨_, htext⟩⟩, fun _ => htext,
      fun hquery => absurd hblank hquery.not_blank, fun hsolid => absurd hblank hsolid⟩
  rw [if_neg fun htrim => hblank (trim_eq_nil.1 htrim)] at htext
  by_cases hquery : s.BeginsQuery
  · rw [if_pos (isSubquery_iff.2 hquery)] at htext
    rw [htext]
    exact ⟨by simp [hblank], fun h => absurd h hblank, fun _ => rfl, fun _ h => absurd hquery h⟩
  · rw [if_neg fun h => hquery (isSubquery_iff.1 h), hlist] at htext
    rw [htext, hlist]
    exact ⟨by simp [hblank], fun h => absurd h hblank, fun h => absurd h hquery,
      fun _ _ => ⟨rfl, rfl⟩⟩

/-- Two texts, one of them empty, with a wide space and a line break around them; a query with a
comma in it; and a range that a list has become. -/
theorem isIn_joinWith_padded :
    isIn "a|b" (.scalar (.string ['\u2003', 'x', '\n', ',', ' '])) =
        isIn "a|b" (.list [.string ['x'], .string []]) ∧
      isIn "a" (.scalar (.string " select b, c")) =
        .ok (condition .and ⟨"a", [⟨"a", none⟩], .isIn, .subquery " select b, c"⟩) ∧
      isIn "a" (.scalar (.string " ")) = .error .noAlternative ∧
      ∃ c, ofParts "a" .isIn (.range (.int 1) (.int 2)) .or = .ok (condition .or c) ∧
        ofParts "a" .isIn c.operand .or = .ok (condition .or c) := by
  obtain ⟨hlists, hagain⟩ := isIn_joinWith
  refine ⟨?_, ?_, ?_, ?_⟩
  · have hpadded : List.Forall₂ Text.Padded [['x'], []] [['\u2003', 'x', '\n'], [' ']] :=
      .cons ⟨['\u2003'], ['\n'], by simp [isBlank], by simp [isBlank], rfl⟩
        (.cons ⟨[' '], [], by simp [isBlank], by simp, rfl⟩ .nil)
    obtain ⟨-, -, -, hlist⟩ := hlists "a|b" _ _ _ rfl (by simp) (by simp) hpadded
    refine (hlist (by simp [isBlank, Text.joinWith]) ?_).1
    rw [← isSubquery_iff]
    decide
  · have hpadded : List.Forall₂ Text.Padded ["select b".toList, "c".toList]
        [" select b".toList, " c".toList] :=
      .cons ⟨[' '], [], by simp [isBlank], by simp, rfl⟩
        (.cons ⟨[' '], [], by simp [isBlank], by simp, rfl⟩ .nil)
    obtain ⟨-, -, hquery, -⟩ := hlists "a" _ _ _ rfl (by simp) (by decide) hpadded
    exact hquery ⟨[' '], "select", ' ', "b, c", rfl, by simp [isBlank], by decide, by decide⟩
  · have hpadded : List.Forall₂ Text.Padded [[]] [[' ']] :=
      .cons ⟨[' '], [], by simp [isBlank], by simp, rfl⟩ .nil
    obtain ⟨-, hblank, -⟩ := hlists "a" _ _ _ rfl (by simp) (by simp) hpadded
    exact hblank (by simp [isBlank, Text.joinWith])
  · obtain ⟨c, hc, hsame⟩ := hagain "a" .isIn (.range (.int 1) (.int 2)) .or _ rfl
    cases hc
    exact ⟨_, rfl, hsame⟩

end Node

end WhereClause
