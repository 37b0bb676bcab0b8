import WhereClause.Shorthand.Value
import WhereClause.Proofs.Runs

/-!
# What readers do with what was written for them

A reader is run on a piece that was written for it, with some rest of the text behind it.  The
first half of this module follows a sequence, an alternative and a repetition of readers step by
step; the second half says where the elementary readers stop.

Main definitions:

* `IsGap`: white space between two parts;
* `Cased`: a keyword in any case.

Main results:

* `keyword_cased`: **a keyword is read in every case, if it is not the beginning of a longer word**;
* `keyword_other`: another keyword is not read in its place;
* `run_append`, `blanks_gap`, `blanks₁_gap`: words and gaps.
-/

set_option autoImplicit false

namespace WhereClause.Shorthand

/-! ### Following readers -/

namespace Reader

variable {α β : Type} {x : Reader α} {s rest : Text} {a : α} {e : Expected}

theorem bind_done {f : α → Reader β} (h : x s = .done a rest) : (x >>= f) s = f a rest := by
  rw [bind_apply, h]

theorem bind_unmatched {f : α → Reader β} (h : x s = .unmatched e rest) :
    (x >>= f) s = .unmatched e rest := by
  rw [bind_apply, h]

theorem seqRight_done {y : Reader β} (h : x s = .done a rest) : (x *> y) s = y rest :=
  bind_done h

theorem seqRight_unmatched {y : Reader β} (h : x s = .unmatched e rest) :
    (x *> y) s = .unmatched e rest :=
  bind_unmatched h

theorem map_done {f : α → β} (h : x s = .done a rest) : (f <$> x) s = .done (f a) rest :=
  bind_done h

theorem map_unmatched {f : α → β} (h : x s = .unmatched e rest) :
    (f <$> x) s = .unmatched e rest :=
  bind_unmatched h

theorem orElse_done {y : Reader α} (h : x s = .done a rest) : (x <|> y) s = .done a rest := by
  rw [orElse_apply, h]

theorem orElse_unmatched {y : Reader α} (h : x s = .unmatched e rest) : (x <|> y) s = y s := by
  rw [orElse_apply, h]

theorem optional_done (h : x s = .done a rest) : optional x s = .done (some a) rest :=
  orElse_done (map_done h)

theorem optional_unmatched (h : x s = .unmatched e rest) : optional x s = .done none s :=
  orElse_unmatched (map_unmatched h)

theorem many_done {as : List α} {final : Text} (h : x s = .done a rest)
    (hlength : rest.length < s.length) (hmany : many x rest = .done as final) :
    many x s = .done (a :: as) final := by
  rw [many_eq, h]
  dsimp only
  rw [if_pos hlength, hmany]

theorem many_unmatched (h : x s = .unmatched e rest) : many x s = .done [] s := by
  rw [many_eq, h]

theorem ofOption_some {f : Text → Option (α × Text)} (h : f s = some (a, rest)) :
    ofOption e f s = .done a rest := by
  rw [ofOption, h]

theorem ofOption_none {f : Text → Option (α × Text)} (h : f s = none) :
    ofOption e f s = .unmatched e s := by
  rw [ofOption, h]

end Reader

/-! ### Characters and runs -/

variable {rest : Text}

theorem mark_cons (c : Char) (rest : Text) : mark c (c :: rest) = .done () rest := by
  rw [mark, if_pos rfl]

theorem mark_cons_of_ne {c d : Char} (h : d ≠ c) (rest : Text) :
    mark c (d :: rest) = .unmatched .mark (d :: rest) := by
  rw [mark, if_neg h]

theorem run_append {p : Char → Bool} {word : Text} (hne : word ≠ [])
    (hword : ∀ c ∈ word, p c = true) (h : Stops p rest) :
    run p (word ++ rest) = .done word rest := by
  obtain ⟨c, word, rfl⟩ := List.exists_cons_of_ne_nil hne
  rw [run, takeWhile_append_of_stops hword h, dropWhile_append_of_stops hword h]

/-- Between two parts there is at least one character of white space. -/
def IsGap (gap : Text) : Prop :=
  gap ≠ [] ∧ ∀ c ∈ gap, isGap c = true

theorem isGap_space : IsGap [' '] := by
  refine ⟨by simp, ?_⟩
  simp [isGap]

theorem blanks_gap {gap : Text} (hgap : IsGap gap) (h : Stops isGap rest) :
    blanks (gap ++ rest) = .done () rest := by
  rw [blanks, dropWhile_append_of_stops hgap.2 h]

theorem blanks_space (h : Stops isGap rest) : blanks (' ' :: rest) = .done () rest :=
  blanks_gap isGap_space h

theorem blanks_of_stops (h : Stops isGap rest) : blanks rest = .done () rest := by
  rw [blanks, dropWhile_of_stops h]

theorem blanks₁_gap {gap : Text} (hgap : IsGap gap) (h : Stops isGap rest) :
    blanks₁ (gap ++ rest) = .done () rest := by
  obtain ⟨hne, hall⟩ := hgap
  obtain ⟨c, gap, rfl⟩ := List.exists_cons_of_ne_nil hne
  rw [List.forall_mem_cons] at hall
  rw [List.cons_append, blanks₁, if_pos hall.1, dropWhile_append_of_stops hall.2 h]

/-! ### Keywords -/

/-- The text is the keyword, with each letter in either case. -/
def Cased (word s : Text) : Prop :=
  Text.toUpper s = Text.toUpper word

instance (word s : Text) : Decidable (Cased word s) :=
  inferInstanceAs (Decidable (_ = _))

theorem Cased.refl (word : Text) : Cased word word :=
  Eq.refl (Text.toUpper word)

theorem toUpper_eq_self_or {c : Char} : c.toUpper = c ∨ ∃ n < 26, c = Char.ofNat (97 + n) := by
  unfold Char.toUpper
  split
  · rename_i hc
    refine .inr ⟨c.toNat - 97, ?_, ?_⟩
    · have : c.toNat ≤ 122 := hc.2
      omega
    · have : 97 ≤ c.toNat := hc.1
      rw [Nat.add_sub_cancel' this, Char.ofNat_toNat]
  · exact .inl rfl

/-- Case does not count where keywords are compared. -/
theorem foldCase_toUpper (c : Char) : foldCase c.toUpper = foldCase c := by
  have hletters : ∀ n < 26, foldCase (Char.ofNat (97 + n)).toUpper =
      foldCase (Char.ofNat (97 + n)) := by decide
  rcases @toUpper_eq_self_or c with h | ⟨n, hn, rfl⟩
  · rw [h]
  · exact hletters n hn

theorem utf8Size_toUpper (c : Char) : c.toUpper.utf8Size = c.utf8Size := by
  have hletters : ∀ n < 26, (Char.ofNat (97 + n)).toUpper.utf8Size =
      (Char.ofNat (97 + n)).utf8Size := by decide
  rcases @toUpper_eq_self_or c with h | ⟨n, hn, rfl⟩
  · rw [h]
  · exact hletters n hn

namespace Cased

variable {word s : Text}

theorem map_foldCase (h : Cased word s) : s.map foldCase = word.map foldCase := by
  have hfold : ∀ t : Text, t.map foldCase = (Text.toUpper t).map foldCase := by
    intro t
    rw [Text.toUpper, List.map_map]
    exact List.map_congr_left fun c _ => (foldCase_toUpper c).symm
  rw [hfold s, hfold word, h]

theorem length_eq (h : Cased word s) : s.length = word.length := by
  simpa [Text.toUpper] using congrArg List.length h

theorem byteLength_eq (h : Cased word s) : Text.byteLength s = Text.byteLength word := by
  have hbytes : ∀ t : Text, Text.byteLength t = Text.byteLength (Text.toUpper t) := by
    intro t
    induction t with
    | nil => rfl
    | cons c t ih =>
        rw [Text.toUpper, List.map_cons, Text.byteLength_cons, Text.byteLength_cons,
          utf8Size_toUpper, ← Text.toUpper, ih]
  rw [hbytes s, hbytes word, h]

end Cased

theorem dropBytes?_append (s rest : Text) :
    Text.dropBytes? (Text.byteLength s) (s ++ rest) = some rest := by
  induction s with
  | nil => rw [Text.byteLength_nil, List.nil_append, Text.dropBytes?]
  | cons c s ih =>
      have hpos : 0 < c.utf8Size := c.utf8Size_pos
      obtain ⟨n, hn⟩ : ∃ n, c.utf8Size + Text.byteLength s = n + 1 :=
        ⟨c.utf8Size + Text.byteLength s - 1, by omega⟩
      have hleft : n + 1 - c.utf8Size = Text.byteLength s := by omega
      rw [Text.byteLength_cons, hn, List.cons_append, Text.dropBytes?, if_pos (by omega), hleft, ih]

/-- The two texts agree in any case, as far as both go. -/
def Agree (s word : Text) : Prop :=
  (s.zip word).all (fun (c, k) => foldCase c == foldCase k) = true

instance (s word : Text) : Decidable (Agree s word) :=
  inferInstanceAs (Decidable (_ = true))

theorem agree_cons {c k : Char} {s word : Text} :
    Agree (c :: s) (k :: word) ↔ foldCase c = foldCase k ∧ Agree s word := by
  simp [Agree]

theorem Cased.agree {word s : Text} (h : Cased word s) (rest : Text) : Agree (s ++ rest) word := by
  have hfold := h.map_foldCase
  clear h
  induction word generalizing s with
  | nil => simp [Agree]
  | cons k word ih =>
      cases s with
      | nil => simp at hfold
      | cons c s =>
          rw [List.map_cons, List.map_cons, List.cons.injEq] at hfold
          exact agree_cons.2 ⟨hfold.1, ih hfold.2⟩

/-- A text that agrees with a keyword in one case does so in any other. -/
theorem Cased.agree_of_agree {other word s : Text} (h : Cased other s)
    (hagree : Agree (s ++ rest) word) : Agree other word := by
  have hfold := h.map_foldCase
  clear h
  induction other generalizing s word with
  | nil => simp [Agree]
  | cons o other ih =>
      cases word with
      | nil => simp [Agree]
      | cons k word =>
          cases s with
          | nil => simp at hfold
          | cons c s =>
              rw [List.map_cons, List.map_cons, List.cons.injEq] at hfold
              rw [List.cons_append, agree_cons] at hagree
              exact agree_cons.2 ⟨hfold.1 ▸ hagree.1, ih hagree.2 hfold.2⟩

theorem keyword_cut {word s : Text} (hbegins : beginsWith word s = true)
    (hcut : Text.dropBytes? (Text.byteLength word) s = some rest) :
    keyword word s =
      if rest.head?.any isWordChar then .unmatched .wordEnd rest else .done () rest := by
  rw [keyword, if_pos hbegins, hcut]

theorem keyword_insideChar {word s : Text} (hbegins : beginsWith word s = true)
    (hcut : Text.dropBytes? (Text.byteLength word) s = none) : keyword word s = .insideChar := by
  rw [keyword, if_pos hbegins, hcut]

theorem keyword_of_not_beginsWith {word s : Text} (h : ¬beginsWith word s = true) :
    keyword word s = .unmatched .symbol s :=
  if_neg h

/-- A keyword is read in every case, if it is not the beginning of a longer word. -/
theorem keyword_cased {word s : Text} (h : Cased word s) (hrest : Stops isWordChar rest) :
    keyword word (s ++ rest) = .done () rest := by
  have hbegins : beginsWith word (s ++ rest) = true := by
    have hagree : ((s ++ rest).zip word).all (fun (c, k) => foldCase c == foldCase k) = true :=
      h.agree rest
    rw [beginsWith, hagree, Bool.true_and, decide_eq_true_eq, Text.byteLength_append,
      h.byteLength_eq]
    omega
  have hcut : Text.dropBytes? (Text.byteLength word) (s ++ rest) = some rest := by
    rw [← h.byteLength_eq, dropBytes?_append]
  rw [keyword_cut hbegins hcut, if_neg (not_any_head?_iff.2 hrest)]

theorem keyword_of_not_agree {word s : Text} (h : ¬Agree s word) :
    keyword word s = .unmatched .symbol s := by
  have hbegins : ¬beginsWith word s = true := by
    rw [beginsWith, Bool.and_eq_true]
    exact fun hboth => h hboth.1
  exact keyword_of_not_beginsWith hbegins

/-- Another keyword is not read in its place. -/
theorem keyword_other {other word s : Text} (h : Cased other s) (hne : ¬Agree other word) :
    keyword word (s ++ rest) = .unmatched .symbol (s ++ rest) :=
  keyword_of_not_agree fun hagree => hne (h.agree_of_agree hagree)

/-- A text that begins with another character than the keyword is not read in its place. -/
theorem keyword_head {c k : Char} (word : Text) {s : Text} (hk : word.head? = some k)
    (h : foldCase c ≠ foldCase k) : keyword word (c :: s) = .unmatched .symbol (c :: s) := by
  obtain ⟨word, rfl⟩ := List.head?_eq_some_iff.1 hk
  exact keyword_of_not_agree fun hagree => h (agree_cons.1 hagree).1

end WhereClause.Shorthand
