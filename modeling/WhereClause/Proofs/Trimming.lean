import WhereClause.Proofs.Runs

/-!
# Trimmed texts

A text that is trimmed neither begins nor ends with white space, and a text that does neither is
left as it is.

Main definitions:

* `EndsSolid`: a text does not end with white space;
* `Takes`: what is taken from a text does not.

Main results:

* `stops_trim`, `endsSolid_trim`: both ends of a trimmed text;
* `trim_eq_self`: what has such ends is not trimmed any further;
* `trim_suffix_trimEnd`: the white space at the start goes, whatever is done at the end;
* `trim_surrounded`: white space around a trimmed text is all that is trimmed from the two.
-/

set_option autoImplicit false

namespace WhereClause

/-! ### The end of a text -/

/-- The text does not end with white space. -/
def EndsSolid (s : Text) : Prop :=
  ∃ t c, s = t ++ [c] ∧ isBlank c = false

theorem EndsSolid.append (s : Text) {t : Text} (h : EndsSolid t) : EndsSolid (s ++ t) := by
  obtain ⟨u, c, rfl, hc⟩ := h
  exact ⟨s ++ u, c, (List.append_assoc ..).symm, hc⟩

theorem EndsSolid.behind_space (s : Text) {t : Text} (h : EndsSolid t) :
    EndsSolid (s ++ ' ' :: t) := by
  have hend := h.append (s ++ [' '])
  rwa [List.append_assoc] at hend

theorem endsSolid_of_forall {s : Text} (hne : s ≠ []) (h : ∀ c ∈ s, isBlank c = false) :
    EndsSolid s :=
  ⟨s.dropLast, s.getLast hne, (List.dropLast_concat_getLast hne).symm, h _ (List.getLast_mem hne)⟩

theorem EndsSolid.trimEnd_eq {s : Text} (h : EndsSolid s) : Text.trimEnd s = s := by
  obtain ⟨t, c, rfl, hc⟩ := h
  have hdrop : (t ++ [c]).reverse.dropWhile isBlank = (t ++ [c]).reverse := by
    rw [List.reverse_append]
    exact dropWhile_of_stops (stops_cons.2 hc)
  rw [Text.trimEnd, hdrop, List.reverse_reverse]

theorem endsSolid_trimEnd {s : Text} (hne : Text.trimEnd s ≠ []) : EndsSolid (Text.trimEnd s) := by
  have hstops := stops_dropWhile isBlank s.reverse
  rw [Text.trimEnd] at hne ⊢
  cases hdrop : s.reverse.dropWhile isBlank with
  | nil =>
      rw [hdrop] at hne
      exact absurd rfl hne
  | cons c t =>
      rw [hdrop] at hstops
      exact ⟨t.reverse, c, List.reverse_cons, stops_cons.1 hstops⟩

/-- The text ends with `rest`, and what stands in front of it does not end with white space. -/
def Takes (s rest : Text) : Prop :=
  ∃ taken, s = taken ++ rest ∧ EndsSolid taken

theorem Takes.suffix {s rest : Text} (h : Takes s rest) : rest <:+ s := by
  obtain ⟨taken, rfl, -⟩ := h
  exact List.suffix_append taken rest

theorem Takes.of_suffix {s t rest : Text} (h : Takes t rest) (ht : t <:+ s) : Takes s rest := by
  obtain ⟨taken, rfl, hend⟩ := h
  obtain ⟨start, rfl⟩ := ht
  exact ⟨start ++ taken, (List.append_assoc ..).symm, hend.append start⟩

theorem isPrefix_trimEnd (s : Text) : Text.trimEnd s <+: s := by
  have hsuffix : s.reverse.dropWhile isBlank <:+ s.reverse := List.dropWhile_suffix isBlank
  rwa [Text.trimEnd, ← List.reverse_suffix, List.reverse_reverse]

/-! ### Both ends -/

theorem stops_trim (s : Text) : Stops isBlank (Text.trim s) := by
  have hstops : Stops isBlank (Text.trimStart s) := stops_dropWhile isBlank s
  obtain ⟨t, ht⟩ := isPrefix_trimEnd (Text.trimStart s)
  rw [← ht] at hstops
  rw [Text.trim]
  generalize Text.trimEnd (Text.trimStart s) = trimmed at hstops ⊢
  cases trimmed with
  | nil => exact stops_nil
  | cons c trimmed => exact stops_cons.2 (stops_cons.1 hstops)

/-- White space, and nothing else, is trimmed to nothing. -/
theorem trim_eq_nil {s : Text} : Text.trim s = [] ↔ ∀ c ∈ s, isBlank c = true := by
  rw [← List.dropWhile_eq_nil_iff, ← Text.trimStart, Text.trim, Text.trimEnd,
    List.reverse_eq_nil_iff, List.dropWhile_eq_nil_iff]
  constructor
  · intro hblank
    have hstops : Stops isBlank (Text.trimStart s) := stops_dropWhile isBlank s
    cases hs : Text.trimStart s with
    | nil => rfl
    | cons c rest =>
        rw [hs] at hblank hstops
        exact absurd (hblank c (by simp)) (by simp [stops_cons.1 hstops])
  · intro hnil
    simp [hnil]

theorem endsSolid_trim {s : Text} (hne : Text.trim s ≠ []) : EndsSolid (Text.trim s) :=
  endsSolid_trimEnd hne

theorem trim_eq_self {s : Text} (hstart : Stops isBlank s) (hend : EndsSolid s) :
    Text.trim s = s := by
  rw [Text.trim, Text.trimStart, dropWhile_of_stops hstart, hend.trimEnd_eq]

theorem trim_trim (s : Text) : Text.trim (Text.trim s) = Text.trim s := by
  by_cases hne : Text.trim s = []
  · rw [hne]
    rfl
  · exact trim_eq_self (stops_trim s) (endsSolid_trim hne)

/-- The white space at the start goes, whatever is done at the end. -/
theorem trim_suffix_trimEnd (s : Text) : Text.trim s <:+ Text.trimEnd s := by
  obtain ⟨gap, hgap⟩ : ∃ gap, gap ++ Text.trimStart s = s := List.dropWhile_suffix isBlank
  by_cases hne : Text.trim s = []
  · rw [hne]
    exact List.nil_suffix
  · have hrest : (Text.trimStart s).reverse.dropWhile isBlank ≠ [] := fun hnil =>
      hne (by rw [Text.trim, Text.trimEnd, hnil, List.reverse_nil])
    have hend : Text.trimEnd (gap ++ Text.trimStart s) = gap ++ Text.trim s := by
      rw [Text.trimEnd, List.reverse_append, List.dropWhile_append, if_neg (by simpa using hrest),
        List.reverse_append, List.reverse_reverse]
      rfl
    rw [hgap] at hend
    rw [hend]
    exact List.suffix_append gap _

/-! ### White space around a text -/

theorem trimEnd_append_of_forall (s : Text) {v : Text} (hv : ∀ c ∈ v, isBlank c = true) :
    Text.trimEnd (s ++ v) = Text.trimEnd s := by
  have hreverse : ∀ c ∈ v.reverse, isBlank c = true := fun c hc => hv c (List.mem_reverse.1 hc)
  rw [Text.trimEnd, List.reverse_append, List.dropWhile_append_of_pos hreverse, Text.trimEnd]

/-- All that is trimmed from a text is white space. -/
theorem exists_surrounded (s : Text) : ∃ u v, (∀ c ∈ u, isBlank c = true) ∧
    (∀ c ∈ v, isBlank c = true) ∧ s = u ++ Text.trim s ++ v := by
  have hend : ∀ t : Text, t = Text.trimEnd t ++ (t.reverse.takeWhile isBlank).reverse := by
    intro t
    rw [Text.trimEnd, ← List.reverse_append, List.takeWhile_append_dropWhile, List.reverse_reverse]
  refine ⟨s.takeWhile isBlank, ((Text.trimStart s).reverse.takeWhile isBlank).reverse,
    fun c hc => List.mem_takeWhile_imp hc,
    fun c hc => List.mem_takeWhile_imp (List.mem_reverse.1 hc), ?_⟩
  rw [Text.trim, List.append_assoc, ← hend (Text.trimStart s), Text.trimStart,
    List.takeWhile_append_dropWhile]

/-- White space around a trimmed text is all that is trimmed from the two together. -/
theorem trim_surrounded {u s v : Text} (hu : ∀ c ∈ u, isBlank c = true)
    (hv : ∀ c ∈ v, isBlank c = true) (htrim : Text.trim s = s) (hne : s ≠ []) :
    Text.trim (u ++ s ++ v) = s ∧ Text.trimEnd (u ++ s ++ v) = u ++ s := by
  have hstart : Stops isBlank s := htrim ▸ stops_trim s
  have hend : EndsSolid s := by
    rw [← htrim]
    exact endsSolid_trim (by rwa [htrim])
  constructor
  · rw [Text.trim, List.append_assoc, Text.trimStart,
      dropWhile_append_of_stops hu (hstart.append_of_ne_nil hne v), trimEnd_append_of_forall s hv,
      hend.trimEnd_eq]
  · rw [trimEnd_append_of_forall _ hv, (hend.append u).trimEnd_eq]

end WhereClause
