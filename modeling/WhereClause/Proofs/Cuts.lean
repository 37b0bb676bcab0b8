import WhereClause.Proofs.Continuation

/-!
# Where the shorthand is cut

A reader of keywords compares characters and then cuts bytes.  The Kelvin sign counts as the letter
K, but takes three bytes, so that a keyword may end inside it.  This module shows that only one of
the keywords can, behind two particular letters, and that all the other cuts of the parser, at
quotes, at brackets and behind SELECT, fall between characters in every text.  It also follows the
counter of open brackets, which is taken down at every closing bracket but the last.

Main definitions:

* `KelvinFree`: no Kelvin sign stands behind the letters `li` in any case;
* `keywords`: the keywords of the shorthand;
* `bracketDepth`, `passedBy`: the counter of brackets, and the text it is kept along;
* `CutsWell`: all the cuts of a text fall between characters, and the counter is never negative.

Main results:

* `exists_kelvin`: a keyword that ends inside a character does so at its K;
* `bracketBody?_cases`: what the search does at one character;
* `bracketDepth_nonneg`: the counter is never negative;
* `cutsWell_of_kelvinFree`: **only a Kelvin sign behind `li` is ever cut**.
-/

set_option autoImplicit false

namespace WhereClause.Shorthand

variable {s t rest : Text}

/-! ### Keywords -/

/-- No Kelvin sign stands behind the letters `li`, in either case. -/
def KelvinFree (s : Text) : Prop :=
  ∀ l ∈ ['l', 'L'], ∀ i ∈ ['i', 'I'], ¬[l, i, '\u212a'] <:+: s

theorem KelvinFree.mono (h : KelvinFree s) (ht : t <:+: s) : KelvinFree t :=
  fun l hl i hi hli => h l hl i hi (hli.trans ht)

/-- The first two characters of a text have no two letters in front of them. -/
theorem kelvinFree_of_not_mem_drop (h : '\u212a' ∉ s.drop 2) : KelvinFree s := by
  rintro l - i - ⟨start, rest, rfl⟩
  apply h
  rw [List.append_assoc, List.drop_append]
  rcases start with _ | ⟨a, _ | ⟨b, start⟩⟩
  · simp
  · simp
  · simp

def keywords : List Text :=
  ["AND", "OR", "IS", "NOT", "NULL", "BETWEEN", "IN", "LIKE", "TRUE", "FALSE"]

theorem endsBeforeKelvin_of_mem {word : Text} (h : word ∈ keywords) :
    EndsBeforeKelvin word = true := by
  revert word
  decide

/-- Where a keyword cannot be cut off there is a Kelvin sign in the place of its K. -/
theorem exists_kelvin {word : Text} (hword : EndsBeforeKelvin word = true) (hagree : Agree s word)
    (hlong : Text.byteLength word ≤ Text.byteLength s)
    (hcut : Text.dropBytes? (Text.byteLength word) s = none) :
    ∃ w₁ w₂ s₁ s₂, word = w₁ ++ 'K' :: w₂ ∧ s = s₁ ++ '\u212a' :: s₂ ∧ Cased w₁ s₁ := by
  induction word generalizing s with
  | nil =>
      rw [Text.byteLength_nil, Text.dropBytes?] at hcut
      cases hcut
  | cons k word ih =>
      simp only [EndsBeforeKelvin, Bool.and_eq_true] at hword
      obtain ⟨⟨hk, -⟩, hword⟩ := hword
      have hsize : Text.byteLength (k :: word) = Text.byteLength word + 1 := by
        rw [Text.byteLength_cons, (toUpper_and_utf8Size hk (.inl rfl)).2, Nat.add_comm]
      rw [hsize] at hcut hlong
      cases s with
      | nil => cases hlong
      | cons c s =>
          obtain ⟨hfold, hagree⟩ := agree_cons.1 hagree
          by_cases hc : c = '\u212a'
          · subst hc
            obtain rfl := eq_of_foldCase_kelvin hk hfold
            exact ⟨[], word, [], s, rfl, rfl, Cased.refl []⟩
          · obtain ⟨hupper, hone⟩ := toUpper_and_utf8Size hk (eq_or_eq_toLower hk hc hfold)
            rw [Text.dropBytes?, if_pos (by omega), hone, Nat.add_sub_cancel] at hcut
            rw [Text.byteLength_cons, hone] at hlong
            obtain ⟨w₁, w₂, s₁, s₂, rfl, rfl, hcased⟩ := ih hword hagree (by omega) hcut
            refine ⟨k :: w₁, w₂, c :: s₁, s₂, rfl, rfl, ?_⟩
            rw [Cased, Text.toUpper, Text.toUpper, List.map_cons, List.map_cons, hupper]
            exact congrArg (k.toUpper :: ·) hcased

theorem mem_cases_of_toUpper (c : Char) :
    (c.toUpper = 'L' → c ∈ ['l', 'L']) ∧ (c.toUpper = 'I' → c ∈ ['i', 'I']) := by
  have hletters : ∀ n < 26,
      ((Char.ofNat (97 + n)).toUpper = 'L' → Char.ofNat (97 + n) ∈ ['l', 'L']) ∧
        ((Char.ofNat (97 + n)).toUpper = 'I' → Char.ofNat (97 + n) ∈ ['i', 'I']) := by decide
  rcases @toUpper_eq_self_or c with h | ⟨n, hn, rfl⟩
  · rw [h]
    constructor
    · rintro rfl
      decide
    · rintro rfl
      decide
  · exact hletters n hn

/-- Of the keywords only LIKE has a K, and in front of it there are two letters. -/
theorem KelvinFree.cut (h : KelvinFree s) {word : Text} (hword : word ∈ keywords)
    (hbegins : beginsWith word s = true) :
    ∃ rest, Text.dropBytes? (Text.byteLength word) s = some rest := by
  obtain ⟨hagree, hlong⟩ := beginsWith_iff.1 hbegins
  cases hcut : Text.dropBytes? (Text.byteLength word) s with
  | some rest => exact ⟨rest, rfl⟩
  | none =>
      obtain ⟨w₁, w₂, s₁, s₂, hsplit, rfl, hcased⟩ :=
        exists_kelvin (endsBeforeKelvin_of_mem hword) hagree hlong hcut
      have hlike : ∀ w ∈ keywords, 'K' ∈ w → w = ['L', 'I', 'K', 'E'] := by decide
      have hmem : 'K' ∈ word := by
        rw [hsplit]
        exact List.mem_append_right w₁ List.mem_cons_self
      rw [hlike word hword hmem] at hsplit
      have hfront : w₁ = ['L', 'I'] := by
        rcases w₁ with _ | ⟨a, _ | ⟨b, _ | ⟨c, _ | ⟨d, w₁⟩⟩⟩⟩
        all_goals simp at hsplit
        rw [hsplit.1, hsplit.2.1]
      have hupper : s₁.map Char.toUpper = ['L', 'I'] := by
        rw [hfront] at hcased
        exact hcased
      obtain ⟨l, s₁, rfl, hl, hupper⟩ := List.map_eq_cons_iff.1 hupper
      obtain ⟨i, s₁, rfl, hi, hupper⟩ := List.map_eq_cons_iff.1 hupper
      obtain rfl := List.map_eq_nil_iff.1 hupper
      refine absurd ?_ (h l ((mem_cases_of_toUpper l).1 hl) i ((mem_cases_of_toUpper i).2 hi))
      exact ⟨[], s₂, rfl⟩

/-! ### Brackets -/

/-- The brackets that are opened in the text, less those that are closed.  Brackets in single quotes
do not count; `quoted` tells whether a quote is open. -/
def bracketDepth (quoted : Bool) : Text → Int
  | [] => 0
  | c :: s =>
    if c = '\'' then bracketDepth (!quoted) s
    else if quoted then bracketDepth quoted s
    else if c = '(' then bracketDepth quoted s + 1
    else if c = ')' then bracketDepth quoted s - 1
    else bracketDepth quoted s

/-- The part of the text that the search for the closing bracket passes by: all of it if there is
none. -/
def passedBy (depth : Nat) (quoted : Bool) (s : Text) : Text :=
  match bracketBody? depth quoted s with
  | some (body, _) => body
  | none => s

/-- Nothing but the bracket that is looked for ends the search. -/
theorem passedBy_cons {depth depth' : Nat} {quoted quoted' : Bool} {c : Char}
    (h : bracketBody? depth quoted (c :: s) =
      (bracketBody? depth' quoted' s).map fun (body, rest) => (c :: body, rest)) :
    passedBy depth quoted (c :: s) = c :: passedBy depth' quoted' s := by
  rw [passedBy, h, passedBy]
  cases bracketBody? depth' quoted' s <;> rfl

theorem bracketDepth_cons (quoted : Bool) (c : Char) (s : Text) :
    bracketDepth quoted (c :: s) =
      bracketDepth quoted [c] + bracketDepth (quoted ^^ (c == '\'')) s := by
  by_cases hquote : c = '\''
  · subst hquote
    cases quoted <;> simp [bracketDepth]
  · rw [beq_eq_false_iff_ne.2 hquote, Bool.xor_false, bracketDepth, bracketDepth, if_neg hquote,
      if_neg hquote]
    split_ifs <;> rw [bracketDepth] <;> omega

/-- A character is the bracket that is looked for, or the search goes on behind it, and the counter
follows the brackets. -/
theorem bracketBody?_cases (depth : Nat) (quoted : Bool) (c : Char) :
    (depth = 0 ∧ quoted = false ∧ c = ')') ∨
      ∃ depth' : Nat, (depth' : Int) = depth + bracketDepth quoted [c] ∧
        ∀ s, bracketBody? depth quoted (c :: s) =
          (bracketBody? depth' (quoted ^^ (c == '\'')) s).map fun (body, rest) =>
            (c :: body, rest) := by
  by_cases hquote : c = '\''
  · subst hquote
    refine .inr ⟨depth, by simp [bracketDepth], fun s => ?_⟩
    rw [bracketBody?_quote, beq_self_eq_true, Bool.xor_true]
  rw [beq_eq_false_iff_ne.2 hquote, Bool.xor_false]
  cases quoted with
  | true => exact .inr ⟨depth, by simp [bracketDepth], fun s => bracketBody?_quoted depth s hquote⟩
  | false =>
      by_cases hopen : c = '('
      · subst hopen
        exact .inr ⟨depth + 1, by simp [bracketDepth], bracketBody?_open depth⟩
      by_cases hclose : c = ')'
      · subst hclose
        cases depth with
        | zero => exact .inl ⟨rfl, rfl, rfl⟩
        | succ depth => exact .inr ⟨depth, by simp [bracketDepth], bracketBody?_close depth⟩
      · refine .inr ⟨depth, by simp [bracketDepth, hquote, hopen, hclose], fun s => ?_⟩
        exact bracketBody?_plain depth s hquote hopen hclose

/-- The counter is never negative while the search goes on. -/
theorem bracketDepth_nonneg {depth : Nat} {quoted : Bool} (s : Text) {passed : Text}
    (h : passed <+: passedBy depth quoted s) : 0 ≤ depth + bracketDepth quoted passed := by
  induction s generalizing depth quoted passed with
  | nil =>
      obtain rfl : passed = [] := List.prefix_nil.1 h
      exact Int.natCast_nonneg depth
  | cons c s ih =>
      cases passed with
      | nil => exact Int.natCast_nonneg depth
      | cons d passed =>
          obtain ⟨rfl, rfl, rfl⟩ | ⟨depth', hdepth, hstep⟩ := bracketBody?_cases depth quoted c
          · -- nothing is passed by in front of the bracket that is looked for
            have hend : passedBy 0 false (')' :: s) = [] := by rw [passedBy, bracketBody?_end]
            rw [hend] at h
            cases List.prefix_nil.1 h
          · rw [passedBy_cons (hstep s), List.cons_prefix_cons] at h
            obtain ⟨rfl, h⟩ := h
            have hle := ih h
            rw [bracketDepth_cons]
            omega

/-! ### All the cuts -/

/-- A text can be cut in front of an ASCII character and behind it. -/
theorem dropBytes?_around (start : Text) {c : Char} (hc : c.utf8Size = 1) (rest : Text) :
    Text.dropBytes? (Text.byteLength start) (start ++ c :: rest) = some (c :: rest) ∧
      Text.dropBytes? (Text.byteLength start + 1) (start ++ c :: rest) = some rest := by
  refine ⟨dropBytes?_append start (c :: rest), ?_⟩
  have hbehind := dropBytes?_append (start ++ [c]) rest
  rwa [Text.byteLength_append, Text.byteLength_cons, Text.byteLength_nil, hc,
    List.append_assoc] at hbehind

theorem byteLength_toLower (s : Text) : Text.byteLength (Text.toLower s) = Text.byteLength s := by
  have hsize : ∀ c : Char, c.toLower.utf8Size = c.utf8Size := by
    intro c
    rcases @toLower_eq_self_or c with h | h
    · rw [h]
    · obtain ⟨hupper, hone⟩ := toUpper_and_utf8Size h (c := c.toLower) (.inr rfl)
      rw [hone, (toUpper_and_utf8Size h (.inl rfl)).2]
  induction s with
  | nil => rfl
  | cons c s ih =>
      rw [Text.toLower, List.map_cons, Text.byteLength_cons, Text.byteLength_cons, hsize]
      exact congrArg (c.utf8Size + ·) ih

/-- Wherever the parser cuts a part of the text, it does so between two characters, and the counter
of brackets is never negative. -/
structure CutsWell (s : Text) : Prop where
  /-- A keyword can be cut off where a text begins with it. -/
  keyword : ∀ t word, t <:+: s → word ∈ keywords → beginsWith word t = true →
    ∃ rest, Text.dropBytes? (Text.byteLength word) t = some rest
  /-- A text in quotes can be cut in front of its closing quote and behind it. -/
  quote : ∀ t content rest, t <:+: s → Quoted.readBody? '\'' t = some (content, rest) →
    Text.dropBytes? (Text.byteLength (Quoted.double '\'' content)) t = some ('\'' :: rest) ∧
      Text.dropBytes? (Text.byteLength (Quoted.double '\'' content) + 1) t = some rest
  /-- A text in quotes can be cut in front of two quotes that stand for one, and between them. -/
  doubled : ∀ piece rest, piece ++ '\'' :: '\'' :: rest <:+: s →
    Text.dropBytes? (Text.byteLength piece) (piece ++ '\'' :: '\'' :: rest) =
        some ('\'' :: '\'' :: rest) ∧
      Text.dropBytes? (Text.byteLength piece + 1) (piece ++ '\'' :: '\'' :: rest) =
        some ('\'' :: rest)
  /-- A text in brackets can be cut in front of its closing bracket and behind it. -/
  bracket : ∀ t body rest, t <:+: s → bracketBody? 0 false t = some (body, rest) →
    Text.dropBytes? (Text.byteLength body) t = some (')' :: rest) ∧
      Text.dropBytes? (Text.byteLength body + 1) t = some rest
  /-- The word SELECT can be cut off, whatever follows it. -/
  query : ∀ t, t <:+: s → Text.toLower ((Text.trimStart t).take 6) = "select" →
    Text.dropBytes? 6 (Text.trimStart t) = some ((Text.trimStart t).drop 6)
  /-- No more brackets are closed than were opened before. -/
  depth : ∀ t passed, t <:+: s → passed <+: passedBy 0 false t → 0 ≤ bracketDepth false passed

/-- Only a Kelvin sign behind `li` is ever cut. -/
theorem cutsWell_of_kelvinFree (h : KelvinFree s) : CutsWell s where
  keyword t word ht hword hbegins := (h.mono ht).cut hword hbegins
  quote t content rest _ hread := by
    obtain ⟨rfl, -⟩ := Quoted.eq_of_readBody? hread
    exact dropBytes?_around _ (by decide) rest
  doubled piece rest _ := dropBytes?_around piece (by decide) ('\'' :: rest)
  bracket t body rest _ hread := by
    obtain ⟨rfl, -⟩ := balanced_of_bracketBody? hread
    exact dropBytes?_around _ (by decide) rest
  query t _ hselect := by
    have hsix : Text.byteLength ((Text.trimStart t).take 6) = 6 := by
      rw [← byteLength_toLower, hselect]
      decide
    have hcut := dropBytes?_append ((Text.trimStart t).take 6) ((Text.trimStart t).drop 6)
    rwa [hsix, List.take_append_drop] at hcut
  depth t passed _ hpassed := by
    have hle := bracketDepth_nonneg t hpassed
    rwa [Int.natCast_zero, Int.zero_add] at hle

end WhereClause.Shorthand
