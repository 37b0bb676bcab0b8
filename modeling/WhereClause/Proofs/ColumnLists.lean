import WhereClause.CommandLine.Explanation
import WhereClause.Proofs.ListedTexts

/-!
# Lists of columns and their texts

A list of columns is given as one text and shown as another one: white space around the columns is
lost, and an explanation puts some between them.  What is shown must name the same columns when it
is given again, although a name may hold colons, words that ask for a cast, and white space inside.
It does, because the text of a column is the identifier it was read from, so that the only thing
lost is what is trimmed anyway.

Main definitions:

* `Column.identifiers`: the identifiers in a list, one at each of its places;
* `Column.Unnamed`: a place in a list that names no column.

Main results:

* `Text.pieces_induction`: the pieces of a text, one after the other;
* `Text.exists_padded`: white space around the separator is white space around the texts;
* `Column.listOfText_eq_ok`: the columns of a list, place by place;
* `Column.exists_listOfText_eq_error`: which lists are refused;
* `Column.listOfText_padded`: the texts of columns with white space around them name these columns;
* `Column.listOfText_stable`: **a list of columns is read back from what is shown of it**.
-/

set_option autoImplicit false

namespace WhereClause

/-! ### Pieces -/

namespace Text

variable {separator : Char}

/-- Induction on the pieces of a text: the last has no separator in it, and neither has one that
stands in front of a separator. -/
theorem pieces_induction {motive : Text → List Text → Prop}
    (last : ∀ s, separator ∉ s → motive s [s])
    (next : ∀ s rest parts, separator ∉ s → motive rest parts →
      motive (s ++ separator :: rest) (s :: parts)) (s : Text) :
    motive s (pieces separator s) := by
  induction hlength : s.length using Nat.strongRecOn generalizing s with
  | ind length ih =>
      by_cases hmem : separator ∈ s
      · obtain ⟨first, rest, rfl, hfirst⟩ := List.eq_append_cons_of_mem hmem
        rw [pieces, List.splitOn_append_cons_self_of_not_mem hfirst]
        refine next first rest _ hfirst (ih rest.length ?_ rest rfl)
        rw [← hlength, List.length_append, List.length_cons]
        omega
      · rw [pieces, List.splitOn_eq_singleton hmem]
        exact last s hmem

theorem length_pieces (s : Text) : (pieces separator s).length = s.count separator + 1 := by
  refine pieces_induction (motive := fun s parts => parts.length = s.count separator + 1) ?_ ?_ s
  · intro s hs
    rw [List.count_eq_zero.2 hs]
    rfl
  · intro s rest parts hs ih
    rw [List.length_cons, ih, List.count_append, List.count_eq_zero.2 hs, List.count_cons_self,
      Nat.zero_add]

theorem not_mem_of_mem_pieces (s : Text) : ∀ piece ∈ pieces separator s, separator ∉ piece := by
  refine pieces_induction (motive := fun _ parts => ∀ piece ∈ parts, separator ∉ piece) ?_ ?_ s
  · intro s hs piece hpiece
    rwa [List.mem_singleton.1 hpiece]
  · intro s rest parts hs ih
    exact List.forall_mem_cons.2 ⟨hs, ih⟩

theorem trim_subset (s : Text) : Text.trim s ⊆ s := by
  obtain ⟨u, v, -, -, hs⟩ := exists_surrounded s
  intro c hc
  rw [hs]
  exact List.mem_append_left v (List.mem_append_right u hc)

/-- Texts with white space around the separator between them are texts with white space around
them. -/
theorem exists_padded (separator : Char) {u v : Text} (hu : ∀ c ∈ u, isBlank c = true)
    (hv : ∀ c ∈ v, isBlank c = true) (texts : List Text) :
    ∃ padded, List.Forall₂ Padded texts padded ∧
      joinWith (u ++ separator :: v) texts = joinWith [separator] padded := by
  -- the white space behind a separator goes with the next text, which may be the last
  suffices hnext : ∀ w t texts, (∀ c ∈ w, isBlank c = true) →
      ∃ padded, List.Forall₂ Padded (t :: texts) padded ∧
        w ++ joinWith (u ++ separator :: v) (t :: texts) = joinWith [separator] padded by
    cases texts with
    | nil => exact ⟨[], .nil, rfl⟩
    | cons t texts => exact hnext [] t texts (by simp)
  intro w t texts hw
  induction texts generalizing w t with
  | nil =>
      refine ⟨[w ++ t], .cons ⟨w, [], hw, by simp, (List.append_nil _).symm⟩ .nil, ?_⟩
      simp [joinWith]
  | cons t' texts ih =>
      obtain ⟨padded, hpadded, hjoin⟩ := ih v t' hv
      refine ⟨(w ++ t ++ u) :: padded, .cons ⟨w, u, hw, hu, rfl⟩ hpadded, ?_⟩
      obtain ⟨p, padded, rfl⟩ : ∃ p ps, padded = p :: ps := by
        cases hpadded
        exact ⟨_, _, rfl⟩
      rw [joinWith, List.intercalate_cons_cons, joinWith, List.intercalate_cons_cons, ← joinWith,
        ← joinWith, ← hjoin]
      simp

end Text

namespace Column

/-! ### Lists -/

/-- The identifiers of a list, one at each of its places. -/
def identifiers (fields : Text) : List Text :=
  (Text.pieces separator fields).map Text.trim

/-- The place in a list names no column: it is blank, or there is a cast in it and nothing else. -/
def Unnamed (piece : Text) : Prop :=
  (∀ c ∈ piece, isBlank c = true) ∨ ∃ kind : CastKind, Text.trim piece = kind.keyword ++ [':']

theorem unnamed_iff {piece : Text} :
    Unnamed piece ↔ (ofIdentifier (Text.trim piece)).name = [] := by
  rw [Unnamed, ← trim_eq_nil, name_ofIdentifier_eq_nil]

/-- A list names a column at each of its places, or it is refused. -/
theorem listOfText_eq_ok {fields : Text} {columns : List Column} :
    listOfText fields = .ok columns ↔
      (∀ identifier ∈ identifiers fields, (ofIdentifier identifier).name ≠ []) ∧
        columns = (identifiers fields).map ofIdentifier := by
  have hplace : ∀ piece ∈ Text.pieces separator fields, ∀ column,
      ofPiece fields piece = .ok column ↔
        (ofIdentifier (Text.trim piece)).name ≠ [] ∧
          column = (ofIdentifier ∘ Text.trim) piece := by
    intro piece _ column
    rw [ofPiece_eq_ok]
    constructor
    · rintro ⟨rfl, -, hname⟩
      exact ⟨hname, rfl⟩
    · rintro ⟨hname, rfl⟩
      exact ⟨rfl, fun hnil => hname (name_ofIdentifier_eq_nil.2 (.inl hnil)), hname⟩
  rw [listOfText, identifiers, List.forall_mem_map, List.map_map]
  split
  · -- a blank text has one place, which is blank
    rename_i hblank
    have hbar : separator ∉ fields := fun hmem =>
      absurd (trim_eq_nil.1 hblank separator hmem) (by decide)
    rw [Text.pieces, List.splitOn_eq_singleton hbar, List.forall_mem_singleton, hblank]
    constructor
    · intro h
      cases h
    · rintro ⟨hname, -⟩
      exact absurd rfl hname
  · exact mapM_eq_ok_iff hplace

theorem exists_listOfText_eq_error {fields : Text} : (∃ e, listOfText fields = .error e) ↔
    ∃ piece ∈ Text.pieces separator fields, Unnamed piece := by
  simp only [unnamed_iff]
  constructor
  · rintro ⟨e, h⟩
    by_contra hnamed
    have hok := listOfText_eq_ok.2 ⟨List.forall_mem_map.2 fun piece hpiece hname =>
      hnamed ⟨piece, hpiece, hname⟩, rfl⟩
    rw [h] at hok
    cases hok
  · rintro ⟨piece, hpiece, hname⟩
    cases h : listOfText fields with
    | error e => exact ⟨e, rfl⟩
    | ok columns =>
        exact absurd hname ((listOfText_eq_ok.1 h).1 _ (List.mem_map_of_mem hpiece))

theorem not_mem_identifiers (fields : Text) :
    ∀ identifier ∈ identifiers fields, separator ∉ identifier := by
  rw [identifiers, List.forall_mem_map]
  intro piece hpiece hmem
  exact Text.not_mem_of_mem_pieces fields piece hpiece (Text.trim_subset piece hmem)

/-- The texts of the columns are the identifiers of the list. -/
theorem map_text_of_listOfText {fields : Text} {columns : List Column}
    (h : listOfText fields = .ok columns) : columns.map text = identifiers fields := by
  rw [(listOfText_eq_ok.1 h).2, List.map_map]
  exact List.map_id'' text_ofIdentifier _

/-- The texts of the columns of a list, with any white space around them, name these columns. -/
theorem listOfText_padded {fields : Text} {columns : List Column}
    (h : listOfText fields = .ok columns) {padded : List Text}
    (hpadded : List.Forall₂ Text.Padded (columns.map text) padded) :
    listOfText (Text.joinWith [separator] padded) = .ok columns := by
  rw [map_text_of_listOfText h] at hpadded
  have hne : padded ≠ [] := by
    intro hnil
    rw [hnil, List.forall₂_nil_right_iff, identifiers, List.map_eq_nil_iff] at hpadded
    exact List.splitOn_ne_nil separator fields hpadded
  have hbars := forall_not_mem_padded hpadded (by decide) (not_mem_identifiers fields)
  have hsame : identifiers (Text.joinWith [separator] padded) = identifiers fields := by
    rw [identifiers, pieces_joinWith hne hbars, map_trim_padded hpadded, identifiers, List.map_map]
    exact List.map_congr_left fun piece _ => trim_trim piece
  rw [listOfText_eq_ok, hsame]
  exact listOfText_eq_ok.1 h

/-- A list of columns has one more column than separators, and each of them has a name, which holds
no separator.  What is shown of the columns names the same columns again, in a list as it is given
and in an explanation.  A list is refused where a place in it names no column, and nowhere else. -/
theorem listOfText_stable :
    (∀ fields columns, listOfText fields = .ok columns →
      columns.length = fields.count '|' + 1 ∧
        (∀ column ∈ columns, column.name ≠ [] ∧ '|' ∉ column.name) ∧
        listOfText (Text.joinWith "|" (columns.map text)) = .ok columns ∧
        listOfText (Text.joinWith " | " (columns.map text)) = .ok columns) ∧
    (∀ c : Condition, c.Built → ∃ shown rest, c.outline = shown ++ ' ' :: rest ∧
      shown = Text.joinWith " | " (c.columns.map text) ∧ listOfText shown = .ok c.columns) ∧
    ∀ fields, (∃ e, listOfText fields = .error e) ↔
      ∃ piece ∈ Text.pieces '|' fields,
        (∀ c ∈ piece, isBlank c = true) ∨
          ∃ kind : CastKind, Text.trim piece = kind.keyword ++ [':'] := by
  have hagain : ∀ {u v : Text}, (∀ c ∈ u, isBlank c = true) → (∀ c ∈ v, isBlank c = true) →
      ∀ {fields columns}, listOfText fields = .ok columns →
      listOfText (Text.joinWith (u ++ '|' :: v) (columns.map text)) = .ok columns := by
    intro u v hu hv fields columns h
    obtain ⟨padded, hpadded, hjoin⟩ := Text.exists_padded '|' hu hv (columns.map text)
    rw [hjoin]
    exact listOfText_padded h hpadded
  have hspace : ∀ c ∈ [' '], isBlank c = true := by simp [isBlank]
  refine ⟨fun fields columns h => ⟨?_, fun column hcolumn => ?_, ?_, ?_⟩, fun c hc => ?_,
    fun fields => exists_listOfText_eq_error⟩
  · rw [(listOfText_eq_ok.1 h).2, List.length_map, identifiers, List.length_map, Text.length_pieces]
    rfl
  · obtain ⟨hnames, rfl⟩ := listOfText_eq_ok.1 h
    obtain ⟨identifier, hidentifier, rfl⟩ := List.mem_map.1 hcolumn
    refine ⟨hnames identifier hidentifier, fun hbar => ?_⟩
    have htext := (name_suffix_text (ofIdentifier identifier)).mem hbar
    rw [text_ofIdentifier] at htext
    exact not_mem_identifiers fields identifier hidentifier htext
  · exact hagain (u := []) (v := []) (by simp) (by simp) h
  · exact hagain hspace hspace h
  · refine ⟨_, c.operator.symbol ++ ' ' :: c.operand.outline, ?_, rfl,
      hagain hspace hspace hc.columns⟩
    rw [Condition.outline, List.append_assoc]
    rfl

/-- A cast in front of a name with a colon, a name with white space at its start, and a word that
asks for no cast; and a list that ends behind a cast. -/
theorem listOfText_stable_casts :
    let fields : Text := " integer:a:b|date: x y\t| weird:z"
    let columns : List Column := [⟨"a:b", some .integer⟩, ⟨" x y", some .date⟩, ⟨"weird:z", none⟩]
    listOfText fields = .ok columns ∧ columns.length = fields.count '|' + 1 ∧
      listOfText (Text.joinWith "|" (columns.map text)) = .ok columns ∧
      listOfText (Text.joinWith " | " (columns.map text)) = .ok columns ∧
      (∃ shown rest, (Condition.mk fields columns .isNull .none).outline = shown ++ ' ' :: rest ∧
        listOfText shown = .ok columns) ∧
      ∃ e, listOfText "a|text: " = .error e := by
  intro fields columns
  obtain ⟨hstable, hshown, hrefused⟩ := listOfText_stable
  have hfields : listOfText fields = .ok columns := by rfl
  obtain ⟨hlength, -, htight, hspaced⟩ := hstable fields columns hfields
  obtain ⟨shown, rest, houtline, -, hagain⟩ := hshown ⟨fields, columns, .isNull, .none⟩
    (Condition.ofParts_eq_ok.2 ⟨rfl, hfields, rfl, rfl⟩)
  refine ⟨hfields, hlength, htight, hspaced, ⟨shown, rest, houtline, hagain⟩, ?_⟩
  exact (hrefused "a|text: ").2 ⟨"text: ", by decide, .inr ⟨.text, by decide⟩⟩

end Column

end WhereClause
