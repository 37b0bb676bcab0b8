import WhereClause.Proofs.SavedShape

/-!
# Saved nodes load again

A saved sequence loads again as the same tree, with its days and times as texts and with null for
every number that JSON cannot hold.  There are two ways in which it may fail to load.  The reader of
JSON counts two levels for every group and up to two for a condition, of which it allows 127 along
with the one of the whole document; and a pattern that has become null is no pattern any more.  All
of this supposes that the finite numbers in it are read back from their texts, which the reader of
JSON does not do for every number of many digits.

Main definitions:

* `Condition.KeepsPattern`: a pattern that is there stays there.

Main results:

* `Operand.fit_restored`: every shape of an operand is found again in what is stored of it;
* `Node.build_stored`: a document that was saved is built as the node it came from;
* `Node.load_save`: **what loads from a saved text, and when**.
-/

set_option autoImplicit false

namespace WhereClause

/-! ### Building again -/

namespace Operand

theorem operand_stored (fields : Text) (operand : Operand) :
    Document.operand fields operand.stored operand.storedQuery = .ok operand.restored := by
  cases operand with
  | scalar v => cases v <;> rfl
  | _ => rfl

/-- Every shape is found again in what is stored of it. -/
theorem fit_restored {op : Operator} {operand : Operand} (h : Shape op operand) :
    operand.restored.fit op = .ok operand := by
  cases h with
  | isNull => rfl
  | isNotNull => rfl
  | between low high => rfl
  | list v vs => rfl
  | subquery hq => exact fit_of_shape (.subquery hq)
  | @like v hv =>
      cases v with
      | null => exact absurd rfl hv
      | _ => rfl
  | plain v hop =>
      cases v <;> rcases Operator.mem_plain.1 hop with rfl | rfl | rfl | rfl | rfl | rfl <;> rfl

theorem shape_reloaded {op : Operator} {operand : Operand} (h : Shape op operand)
    (hpattern : op = .like → operand.reloaded ≠ .scalar .null) : Shape op operand.reloaded := by
  cases h with
  | isNull => exact .isNull
  | isNotNull => exact .isNotNull
  | between low high => exact .between _ _
  | list v vs => exact .list _ _
  | subquery hq => exact .subquery hq
  | like hv => exact .like fun hnull => hpattern rfl (by rw [reloaded, hnull])
  | plain v hop => exact .plain _ hop

end Operand

namespace Condition

/-- If the condition compares with a pattern, that is no number beyond the finite ones. -/
def KeepsPattern (c : Condition) : Prop :=
  c.operator = .like → ∀ x, c.operand = .scalar (.float x) → x.isFinite = true

/-- A pattern that stays there is not null. -/
theorem keepsPattern_iff {c : Condition} (h : Operand.Shape c.operator c.operand) :
    c.KeepsPattern ↔ (c.operator = .like → c.operand.reloaded ≠ .scalar .null) := by
  obtain ⟨fields, columns, op, operand⟩ := c
  cases h with
  | @like v hv =>
      cases v with
      | float x =>
          cases hx : x.isFinite <;> simp [KeepsPattern, Operand.reloaded, Value.reloaded, hx]
      | _ => simp_all [KeepsPattern, Operand.reloaded, Value.reloaded]
  | plain v hop =>
      have hne : op ≠ .like := by
        have hlike : Operator.like ∉ Operator.plain := by decide
        rintro rfl
        exact hlike hop
      simp [KeepsPattern, hne]
  | _ => simp [KeepsPattern]

/-- A condition is built from what was stored of it, unless it has lost its pattern. -/
theorem ofParts_restored {c d : Condition} (h : c.Built) :
    Condition.ofParts c.fields c.operator c.operand.reloaded.restored = .ok d ↔
      c.KeepsPattern ∧ d = c.reloaded := by
  have hcolumns := h.columns
  have hshape := h.shape
  rw [keepsPattern_iff hshape, Condition.ofParts_eq_ok]
  constructor
  · rintro ⟨hfields, hcolumns', hop, hfit'⟩
    have hpattern : c.operator = .like → c.operand.reloaded ≠ .scalar .null := by
      -- null is restored as no operand at all, and LIKE refuses that
      intro hlike hnull
      rw [hlike, hnull] at hfit'
      cases hfit'
    refine ⟨hpattern, ?_⟩
    rw [Operand.fit_restored (Operand.shape_reloaded hshape hpattern)] at hfit'
    rw [hcolumns] at hcolumns'
    obtain ⟨fields, columns, op, operand⟩ := d
    simp only at hfields hop hfit' hcolumns'
    rw [Condition.reloaded, hfields, hop, Except.ok.inj hfit', Except.ok.inj hcolumns']
  · rintro ⟨hpattern, rfl⟩
    exact ⟨rfl, hcolumns, rfl, Operand.fit_restored (Operand.shape_reloaded hshape hpattern)⟩

end Condition

namespace Node

theorem buildAll_eq_mapM (documents : List Document) :
    Document.buildAll documents = documents.mapM Document.build := by
  induction documents with
  | nil => rw [Document.buildAll]; rfl
  | cons document documents ih => rw [Document.buildAll, List.mapM_cons, ih]

/-- A document that was saved is built as the node it came from, unless a pattern is lost. -/
theorem build_stored {node loaded : Node} (h : node.Built) :
    Document.build node.reloaded.stored = .ok loaded ↔
      (∀ c ∈ node.conditions, c.KeepsPattern) ∧ loaded = node.reloaded := by
  induction node using Node.induction generalizing loaded with
  | condition j c =>
      rw [reloaded_condition, stored, Document.build, Operand.operand_stored, ok_bind, ofSymbol,
        Operator.ofText?_symbol]
      dsimp only
      change ofParts c.fields c.operator c.operand.reloaded.restored j = .ok loaded ↔ _
      simp only [ofParts_eq_ok, Condition.ofParts_restored (built_condition.1 h),
        conditions_condition, List.mem_singleton, forall_eq]
      constructor
      · rintro ⟨d, ⟨hpattern, rfl⟩, rfl⟩
        exact ⟨hpattern, rfl⟩
      · rintro ⟨hpattern, rfl⟩
        exact ⟨c.reloaded, ⟨hpattern, rfl⟩, rfl⟩
  | group j children ih =>
      obtain ⟨hne, hchildren⟩ := built_group.1 h
      have hall : ∀ built, (children.map fun child => child.reloaded.stored).mapM Document.build =
          .ok built ↔ (∀ child ∈ children, ∀ c ∈ child.conditions, c.KeepsPattern) ∧
            built = children.map reloaded := by
        intro built
        rw [List.mapM_map]
        exact mapM_eq_ok_iff fun child hchild _ => ih child hchild (hchildren child hchild)
      rw [reloaded_group, stored, reloadedAll_eq_map, storedAll_eq_map, List.map_map,
        Document.build, buildAll_eq_mapM, bind_eq_ok]
      simp only [Function.comp_def, hall, enclose_eq_ok, conditions_group,
        forall_mem_conditionsAll]
      constructor
      · rintro ⟨built, ⟨hpatterns, rfl⟩, -, rfl⟩
        exact ⟨hpatterns, rfl⟩
      · rintro ⟨hpatterns, rfl⟩
        exact ⟨children.map reloaded, ⟨hpatterns, rfl⟩, by simpa using hne, rfl⟩

theorem loadItem_reread {node loaded : Node} (h : node.Built) :
    Document.loadItem node.toJson.reread = .ok loaded ↔
      (∀ c ∈ node.conditions, c.KeepsPattern) ∧ loaded = node.reloaded := by
  rw [← toJson_reloaded, Document.loadItem, ofJson?_toJson _ node.isJson_reloaded]
  dsimp only
  rw [mapError_eq_ok, build_stored h]

/-! ### Whole documents -/

/-- The document of a sequence fits JSON. -/
theorem fits_of_readsBack {nodes : List Node} (hread : ∀ c ∈ conditionsAll nodes, c.ReadsBack) :
    ∀ item ∈ nodes.map toJson, item.Fits := by
  rw [forall_mem_conditionsAll] at hread
  intro item hitem
  obtain ⟨node, hnode, rfl⟩ := List.mem_map.1 hitem
  exact fits_toJson (hread node hnode)

/-- What loads from a saved text, and when. -/
theorem load_save_eq_ok {nodes loaded : List Node} (h : ∀ node ∈ nodes, node.Built)
    (hread : ∀ c ∈ conditionsAll nodes, c.ReadsBack) :
    Document.load (save nodes) = .ok loaded ↔
      nestingAll nodes ≤ 62 ∧ (∀ c ∈ conditionsAll nodes, c.KeepsPattern) ∧
        loaded = reloadedAll nodes := by
  have hload : Document.load (save nodes) = (do
      let built ← (Json.readList (Json.compactItems (nodes.map toJson) ++ "]".toList)).1.mapM
        Document.loadItem
      (Json.readList (Json.compactItems (nodes.map toJson) ++ "]".toList)).2.mapError .fault
      return built) := by
    rw [save, Json.compact, toJsonAll_eq_map, Document.load, Json.skipGap_cons _ (by decide)]
    rfl
  obtain ⟨houtcome, hvalues⟩ := Json.readList_compact (fits_of_readsBack hread)
  simp only [levelsItems_toJson h] at houtcome hvalues
  rw [hload, houtcome]
  -- nodes are loaded as they are read, but a fault further on is told in the end
  by_cases hdeep : nestingAll nodes ≤ 62
  · rw [if_pos hdeep, hvalues hdeep, Json.rereadItems_eq_map, List.map_map]
    have hitems : (nodes.map (Json.reread ∘ toJson)).mapM Document.loadItem = .ok loaded ↔
        (∀ node ∈ nodes, ∀ c ∈ node.conditions, c.KeepsPattern) ∧
          loaded = nodes.map reloaded := by
      rw [List.mapM_map]
      exact mapM_eq_ok_iff fun node hnode _ => loadItem_reread (h node hnode)
    rw [forall_mem_conditionsAll, reloadedAll_eq_map, ← hitems]
    simp only [hdeep, true_and]
    cases (nodes.map (Json.reread ∘ toJson)).mapM Document.loadItem <;> rfl
  · rw [if_neg hdeep]
    constructor
    · intro hok
      obtain ⟨_, -, hok⟩ := bind_eq_ok.1 hok
      cases hok
    · rintro ⟨hle, -⟩
      exact absurd hle hdeep

/-- Saving what was loaded gives the same text. -/
theorem save_reloadedAll {nodes : List Node} (hread : ∀ c ∈ conditionsAll nodes, c.ReadsBack) :
    save (reloadedAll nodes) = save nodes := by
  have hitems : (nodes.map reloaded).map toJson = (nodes.map toJson).map Json.reread := by
    rw [List.map_map, List.map_map]
    exact List.map_congr_left fun node _ => node.toJson_reloaded
  have hcompact := Json.compact_reread (.array (fits_of_readsBack hread))
  rwa [Json.reread, Json.rereadItems_eq_map, ← hitems, ← reloadedAll_eq_map, ← toJsonAll_eq_map,
    ← toJsonAll_eq_map] at hcompact

/-- If its finite numbers are read back, a saved sequence loads unless it is nested too deep or
loses a pattern.  What is loaded is the sequence as it comes back from JSON: the same sequence if JSON has
a form for all of its values, and in any case one that is saved as the same text. -/
theorem load_save {nodes : List Node} (h : ∀ node ∈ nodes, node.Built)
    (hread : ∀ c ∈ conditionsAll nodes, c.ReadsBack) :
    ((∃ loaded, Document.load (save nodes) = .ok loaded) ↔
        nestingAll nodes ≤ 62 ∧ ∀ c ∈ conditionsAll nodes, c.KeepsPattern) ∧
      (∀ loaded, Document.load (save nodes) = .ok loaded →
        loaded = reloadedAll nodes ∧ save loaded = save nodes) ∧
      ((∀ node ∈ nodes, node.IsJson) → nestingAll nodes ≤ 62 →
        Document.load (save nodes) = .ok nodes) := by
  refine ⟨?_, ?_, ?_⟩
  · simp only [load_save_eq_ok h hread]
    exact ⟨fun ⟨_, hdepth, hpatterns, _⟩ => ⟨hdepth, hpatterns⟩,
      fun ⟨hdepth, hpatterns⟩ => ⟨_, hdepth, hpatterns, rfl⟩⟩
  · intro loaded hloaded
    obtain ⟨-, -, rfl⟩ := (load_save_eq_ok h hread).1 hloaded
    exact ⟨rfl, save_reloadedAll hread⟩
  · intro hjson hdepth
    have hsame : reloadedAll nodes = nodes := by
      rw [reloadedAll_eq_map]
      exact (List.map_congr_left fun node hnode => reloaded_of_isJson (hjson node hnode)).trans
        (List.map_id nodes)
    have hpatterns : ∀ c ∈ conditionsAll nodes, c.KeepsPattern := by
      rw [forall_mem_conditionsAll]
      intro node hnode c hc _ x hx
      exact hjson node hnode c hc (.float x) (by simp [hx, Operand.values])
    exact (load_save_eq_ok h hread).2 ⟨hdepth, hpatterns, hsame.symm⟩

set_option maxRecDepth 4000 in
/-- A day and a number that is not finite, as bounds inside a group, and one half behind it. -/
theorem load_save_bounds :
    let half : Magnitude := ⟨4503599627370496, 1021, by decide, by decide, by decide⟩
    let last : Node :=
      .condition .and ⟨"f", [⟨"f", none⟩], .greater, .scalar (.float (.finite true half))⟩
    let nodes : List Node := [.group .or [.condition .and
      ⟨"d|e", [⟨"d", none⟩, ⟨"e", none⟩], .between,
        .range (.date ⟨2024, 2, 29, by decide, by decide⟩) (.float .nan)⟩], last]
    (∀ node ∈ nodes, node.Built) ∧ (∀ c ∈ conditionsAll nodes, c.ReadsBack) ∧
      Document.load (save nodes) = .ok [.group .or [.condition .and
        ⟨"d|e", [⟨"d", none⟩, ⟨"e", none⟩], .between, .range (.string "2024-02-29") .null⟩],
        last] := by
  intro half last nodes
  have hbuilt : ∀ node ∈ nodes, node.Built := by
    simp only [nodes, last, List.forall_mem_cons, built_group, built_condition]
    exact ⟨⟨by decide, rfl, by simp⟩, rfl, by simp⟩
  have hread : ∀ c ∈ conditionsAll nodes, c.ReadsBack := by
    have hshortest : half.shortest .even = ⟨5, -1⟩ := by decide +kernel
    have hhalf : Json.ReadsBack (.finite true half) :=
      Json.readsBack_of_short hshortest (by decide) (by decide)
    simp [nodes, last, Condition.ReadsBack, Operand.values, Binary64.isFinite, hhalf]
  obtain ⟨hloads, hloaded, -⟩ := load_save hbuilt hread
  obtain ⟨loaded, h⟩ := hloads.2 ⟨by simp [nodes, last],
    by simp [nodes, last, Condition.KeepsPattern]⟩
  refine ⟨hbuilt, hread, ?_⟩
  rw [h, (hloaded loaded h).1]
  simp only [nodes, last, reloadedAll_eq_map, List.map_cons, List.map_nil, reloaded_group,
    reloaded_condition]
  rfl

end Node

end WhereClause
