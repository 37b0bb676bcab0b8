import WhereClause.Dialect

/-!
# Lexical rules of the dialects

What a dialect reads in a text of SQL, as far as quotes are concerned: names and texts in quotes
are tokens, and every character outside of them is one.  A text that ends inside quotes has no
tokens, and neither has one that opens a comment with two hyphens outside of quotes.

The rules are those of the dialects and are stated without regard to how this library writes.

Main definitions:

* `Token`: a quoted name, a quoted text, or a character outside of quotes;
* `Lexicon`: the quote of names and the reader of quoted texts;
* `Lexicon.scan`: the tokens of a text;
* `Lexicon.Encodes`: the contents of a quoted text stand for a given text;
* `Lexicon.Renders`: scanning a piece of text gives certain quoted tokens, whatever follows it.

Main results:

* `Lexicon.renders_name`, `Lexicon.renders_string`: a quoted token is one piece;
* `Lexicon.Renders.append_text`: pieces with unquoted text between them are one piece;
* `Lexicon.Renders.scan_eq`: a piece that is the whole text is scanned to its end.
-/

set_option autoImplicit false

namespace WhereClause

inductive Token where
  | name (s : Text)
  | string (s : Text)
  /-- A character outside of quotes. -/
  | mark (c : Char)
deriving DecidableEq, Repr

def Token.isQuoted : Token → Bool
  | name _ => true
  | string _ => true
  | mark _ => false

/-- Holds of the characters that stand outside of quotes: letters and digits of ASCII, the space
and the marks of operators, lists and numbers. -/
def isOuter (c : Char) : Bool :=
  c.isAlphanum || c ∈ " (),.<>=!-".toList

/-- Unquoted text without hyphens. -/
def IsOuterText (s : Text) : Prop :=
  ∀ c ∈ s, isOuter c = true ∧ c ≠ '-'

instance (s : Text) : Decidable (IsOuterText s) :=
  List.decidableBAll _ s

theorem IsOuterText.append {s t : Text} (hs : IsOuterText s) (ht : IsOuterText t) :
    IsOuterText (s ++ t) :=
  List.forall_mem_append.2 ⟨hs, ht⟩

/-- The quotes of a dialect. -/
structure Lexicon where
  /-- The quote of names; it is written twice inside a name. -/
  nameQuote : Char
  /-- The text up to the closing single quote, and what follows that quote. -/
  readString : Text → Option (Text × Text)
  nameQuote_ne : nameQuote ≠ '\''
  nameQuote_outer : isOuter nameQuote = false
  length_lt : ∀ {s body rest : Text}, readString s = some (body, rest) → rest.length < s.length
  /-- A single quote closes the text unless another one follows. -/
  close : ∀ {rest : Text}, rest.head? ≠ some '\'' →
    readString ('\'' :: rest) = some ([], rest)
  /-- Characters other than the quote and the backslash stand for themselves. -/
  plain : ∀ {c : Char} (s : Text), c ≠ '\'' → c ≠ '\\' →
    readString (c :: s) = (readString s).map fun (body, rest) => (c :: body, rest)

theorem Quoted.length_lt_of_readBody? {quote : Char} {s body rest : Text}
    (h : Quoted.readBody? quote s = some (body, rest)) : rest.length < s.length := by
  obtain ⟨rfl, -⟩ := Quoted.eq_of_readBody? h
  simp
  omega

/-- Reading is resumed after what was written, whatever follows. -/
theorem Quoted.readBody?_double_append {quote : Char} (s rest : Text) :
    Quoted.readBody? quote (Quoted.double quote s ++ rest) =
      (Quoted.readBody? quote rest).map fun (body, rest) => (s ++ body, rest) := by
  induction s with
  | nil => simp
  | cons c s ih =>
      by_cases hc : c = quote
      · subst hc
        simp [Quoted.double_cons_self, Quoted.readBody?, ih, Function.comp_def]
      · simp [Quoted.double_cons_of_ne hc, Quoted.readBody?_cons_of_ne hc, ih,
          Function.comp_def]

namespace Lexicon

/-! ### The dialects -/

/-- Standard SQL: a single quote inside a text is written twice, and nothing else is special. -/
def standard : Lexicon where
  nameQuote := '"'
  readString := Quoted.readBody? '\''
  nameQuote_ne := by decide
  nameQuote_outer := by decide
  length_lt := Quoted.length_lt_of_readBody?
  close h := by simpa using Quoted.readBody?_double [] h
  plain s h _ := Quoted.readBody?_cons_of_ne h s

/-- The character that stands behind a backslash. -/
def unescape (c : Char) : Char :=
  if c = '0' then nul
  else if c = 'n' then '\n'
  else if c = 'r' then '\r'
  else if c = 'Z' then '\x1a'
  else c

/-- Reads a text with backslash escapes up to its closing quote. -/
def readEscaped : Text → Option (Text × Text)
  | [] => none
  | [c] => if c = '\'' then some ([], []) else none
  | c :: d :: s =>
    if c = '\\' then (readEscaped s).map fun (body, rest) => (unescape d :: body, rest)
    else if c = '\'' then
      if d = '\'' then (readEscaped s).map fun (body, rest) => ('\'' :: body, rest)
      else some ([], d :: s)
    else (readEscaped (d :: s)).map fun (body, rest) => (c :: body, rest)

theorem readEscaped_backslash (d : Char) (s : Text) :
    readEscaped ('\\' :: d :: s) =
      (readEscaped s).map fun (body, rest) => (unescape d :: body, rest) := by
  simp [readEscaped]

theorem readEscaped_plain {c : Char} (s : Text) (hq : c ≠ '\'') (hb : c ≠ '\\') :
    readEscaped (c :: s) = (readEscaped s).map fun (body, rest) => (c :: body, rest) := by
  cases s with
  | nil => simp [readEscaped, hq]
  | cons d s => simp [readEscaped, hq, hb]

theorem length_lt_of_readEscaped {s body rest : Text}
    (h : readEscaped s = some (body, rest)) : rest.length < s.length := by
  fun_induction readEscaped s generalizing body with
  | case1 => simp at h
  | case2 =>
      obtain ⟨-, rfl⟩ : [] = body ∧ [] = rest := by simpa using h
      simp
  | case3 => simp at h
  | case6 d s _ hd =>
      obtain ⟨-, rfl⟩ : [] = body ∧ d :: s = rest := by simpa using h
      simp
  | case4 | case5 | case7 =>
      rename_i ih
      simp only [Option.map_eq_some_iff, Prod.mk.injEq, Prod.exists] at h
      obtain ⟨body', rest', hr, -, rfl⟩ := h
      have := ih hr
      simp only [List.length_cons] at this ⊢
      omega

/-- The rules of MySQL: names in backticks, and escapes behind backslashes in texts. -/
def backslash : Lexicon where
  nameQuote := '\x60'
  readString := readEscaped
  nameQuote_ne := by decide
  nameQuote_outer := by decide
  length_lt := length_lt_of_readEscaped
  close {rest} h := by
    cases rest with
    | nil => rfl
    | cons d rest =>
        have hd : d ≠ '\'' := by simpa using h
        simp [readEscaped, hd]
  plain := readEscaped_plain

end Lexicon

def Dialect.lexicon : Dialect → Lexicon
  | postgres => .standard
  | mysql => .backslash
  | sqlite => .standard

namespace Lexicon

variable (l : Lexicon)

/-! ### Scanning -/

/-- The tokens of a text, unless it ends inside quotes or opens a comment. -/
def scan (s : Text) : Option (List Token) :=
  match s with
  | [] => some []
  | c :: s =>
    if c = '\'' then
      match _h : l.readString s with
      | none => none
      | some (body, rest) => (scan rest).map (.string body :: ·)
    else if c = l.nameQuote then
      match _h : Quoted.readBody? l.nameQuote s with
      | none => none
      | some (body, rest) => (scan rest).map (.name body :: ·)
    else if c = '-' ∧ s.head? = some '-' then none
    else (scan s).map (.mark c :: ·)
termination_by s.length
decreasing_by
  · have := l.length_lt _h
    simp only [List.length_cons]
    omega
  · have := Quoted.length_lt_of_readBody? _h
    simp only [List.length_cons]
    omega
  · simp

@[simp] theorem scan_nil : l.scan [] = some [] := by rw [scan]

variable {l}

theorem scan_string {s body rest : Text} (h : l.readString s = some (body, rest)) :
    l.scan ('\'' :: s) = (l.scan rest).map (.string body :: ·) := by
  rw [scan, if_pos rfl]
  split
  · rename_i hs
    rw [h] at hs
    cases hs
  · rename_i hs
    rw [h] at hs
    cases hs
    rfl

theorem scan_name {s body rest : Text} (h : Quoted.readBody? l.nameQuote s = some (body, rest)) :
    l.scan (l.nameQuote :: s) = (l.scan rest).map (.name body :: ·) := by
  rw [scan, if_neg l.nameQuote_ne, if_pos rfl]
  split
  · rename_i hs
    rw [h] at hs
    cases hs
  · rename_i hs
    rw [h] at hs
    cases hs
    rfl

theorem scan_mark {c : Char} {s : Text} (hq : c ≠ '\'') (hn : c ≠ l.nameQuote)
    (hc : ¬(c = '-' ∧ s.head? = some '-')) :
    l.scan (c :: s) = (l.scan s).map (.mark c :: ·) := by
  rw [scan, if_neg hq, if_neg hn, if_neg hc]

/-! ### The contents of quoted texts -/

variable (l) in
/-- The contents `written` of a quoted text stand for `s`, whatever follows them. -/
def Encodes (written s : Text) : Prop :=
  ∀ rest, l.readString (written ++ rest) =
    (l.readString rest).map fun (body, rest) => (s ++ body, rest)

namespace Encodes

theorem nil : l.Encodes [] [] := by
  intro rest
  simp

theorem append {written s written' s' : Text} (h : l.Encodes written s)
    (h' : l.Encodes written' s') : l.Encodes (written ++ written') (s ++ s') := by
  intro rest
  rw [List.append_assoc, h, h', Option.map_map]
  simp [Function.comp_def]

/-- Characters without a meaning of their own stand for themselves. -/
theorem plain {s : Text} (h : ∀ c ∈ s, c ≠ '\'' ∧ c ≠ '\\') : l.Encodes s s := by
  induction s with
  | nil => exact nil
  | cons c s ih =>
      obtain ⟨⟨hq, hb⟩, hs⟩ := List.forall_mem_cons.1 h
      intro rest
      rw [List.cons_append, l.plain _ hq hb, ih hs, Option.map_map]
      simp [Function.comp_def]

end Encodes

/-! ### Pieces of SQL -/

/-- The text does not begin with a quote of the dialect. -/
def Apart (l : Lexicon) (s : Text) : Prop :=
  s.head? ≠ some '\'' ∧ s.head? ≠ some l.nameQuote

/-- Scanning `s` in front of any rest that does not begin with a quote gives tokens of which the
quoted ones are `quoted`, and goes on with the rest.  Outside of quotes only the characters of
`isOuter` occur. -/
def Renders (l : Lexicon) (s : Text) (quoted : List Token) : Prop :=
  ∃ tokens : List Token, tokens.filter Token.isQuoted = quoted ∧
    (∀ c, .mark c ∈ tokens → isOuter c = true) ∧
    ∀ rest, l.Apart rest → l.scan (s ++ rest) = (l.scan rest).map (tokens ++ ·)

theorem ne_of_isOuter {c : Char} (h : isOuter c = true) : c ≠ '\'' ∧ c ≠ l.nameQuote := by
  constructor
  · rintro rfl
    exact absurd h (by decide)
  · rintro rfl
    rw [l.nameQuote_outer] at h
    cases h

namespace Renders

theorem nil : l.Renders [] [] :=
  ⟨[], rfl, by simp, fun rest _ => by simp⟩

/-- Unquoted text in front of a piece. -/
theorem text_append {w s : Text} {quoted : List Token} (hw : IsOuterText w)
    (h : l.Renders s quoted) : l.Renders (w ++ s) quoted := by
  induction w with
  | nil => exact h
  | cons c w ih =>
      -- no character of the text opens a quote or a comment
      obtain ⟨⟨houter, hminus⟩, hw⟩ := List.forall_mem_cons.1 hw
      obtain ⟨hq, hn⟩ := l.ne_of_isOuter houter
      obtain ⟨tokens, hquoted, hmarks, hscan⟩ := ih hw
      refine ⟨.mark c :: tokens, by simpa [Token.isQuoted] using hquoted, ?_, ?_⟩
      · intro d hd
        rcases List.mem_cons.1 hd with hd | hd
        · exact Token.mark.inj hd ▸ houter
        · exact hmarks d hd
      · intro rest hrest
        rw [List.cons_append, List.cons_append, scan_mark hq hn (fun h => hminus h.1),
          hscan rest hrest, Option.map_map]
        rfl

/-- One piece after another one, which does not begin with a quote. -/
theorem append {s s' : Text} {quoted quoted' : List Token} (h : l.Renders s quoted)
    (h' : l.Renders s' quoted') (hne : s' ≠ []) (hs' : l.Apart s') :
    l.Renders (s ++ s') (quoted ++ quoted') := by
  obtain ⟨tokens, rfl, hmarks, hscan⟩ := h
  obtain ⟨tokens', rfl, hmarks', hscan'⟩ := h'
  refine ⟨tokens ++ tokens', List.filter_append .., ?_, ?_⟩
  · intro c hc
    rcases List.mem_append.1 hc with hc | hc
    · exact hmarks c hc
    · exact hmarks' c hc
  · intro rest hrest
    -- a quote behind the first piece would be read as one inside of it
    have hapart : l.Apart (s' ++ rest) := by
      obtain ⟨c, s', rfl⟩ := List.exists_cons_of_ne_nil hne
      exact hs'
    rw [List.append_assoc, hscan _ hapart, hscan' _ hrest, Option.map_map]
    simp [Function.comp_def]

/-- Pieces with unquoted text between them. -/
theorem append_text {s w s' : Text} {quoted quoted' : List Token} (h : l.Renders s quoted)
    (hw : IsOuterText w) (hne : w ≠ []) (h' : l.Renders s' quoted') :
    l.Renders (s ++ (w ++ s')) (quoted ++ quoted') := by
  refine h.append (h'.text_append hw) (by simp [hne]) ?_
  obtain ⟨c, w, rfl⟩ := List.exists_cons_of_ne_nil hne
  obtain ⟨hq, hn⟩ := l.ne_of_isOuter (hw c List.mem_cons_self).1
  exact ⟨by simpa using hq, by simpa using hn⟩

/-- Unquoted text behind a piece. -/
theorem append_outer {s w : Text} {quoted : List Token} (h : l.Renders s quoted)
    (hw : IsOuterText w) (hne : w ≠ []) : l.Renders (s ++ w) quoted := by
  simpa using h.append_text hw hne nil

/-- Unquoted text alone. -/
theorem text {w : Text} (hw : IsOuterText w) : l.Renders w [] := by
  simpa using nil.text_append hw

/-- A piece that is the whole text. -/
theorem scan_eq {s : Text} {quoted : List Token} (h : l.Renders s quoted) :
    ∃ tokens, l.scan s = some tokens ∧ tokens.filter Token.isQuoted = quoted ∧
      ∀ c, .mark c ∈ tokens → isOuter c = true := by
  obtain ⟨tokens, hquoted, hmarks, hscan⟩ := h
  refine ⟨tokens, ?_, hquoted, hmarks⟩
  simpa using hscan [] ⟨by simp, by simp⟩

end Renders

/-- A quoted name is one token. -/
theorem renders_name (s : Text) : l.Renders (Quoted.write l.nameQuote s) [.name s] := by
  refine ⟨[.name s], rfl, by simp, ?_⟩
  intro rest hrest
  have hread := Quoted.readBody?_double s hrest.2
  simp only [Quoted.write, List.cons_append, List.append_assoc, List.nil_append]
  rw [scan_name hread]

/-- A quoted text is one token. -/
theorem renders_string {written s : Text} (h : l.Encodes written s) :
    l.Renders (inQuotes written) [.string s] := by
  refine ⟨[.string s], rfl, by simp, ?_⟩
  intro rest hrest
  have hread : l.readString (written ++ '\'' :: rest) = some (s, rest) := by
    rw [h, l.close hrest.1]
    simp
  simp only [inQuotes, List.cons_append, List.append_assoc, List.nil_append]
  rw [scan_string hread]

/-- A hyphen in front of unquoted text that does not begin with one. -/
theorem renders_hyphen {c : Char} {w : Text} (hw : IsOuterText (c :: w)) :
    l.Renders ('-' :: c :: w) [] := by
  obtain ⟨tokens, hquoted, hmarks, hscan⟩ := Renders.text hw
  have hc : c ≠ '-' := (hw c List.mem_cons_self).2
  refine ⟨.mark '-' :: tokens, by simpa [Token.isQuoted] using hquoted, ?_, ?_⟩
  · intro d hd
    rcases List.mem_cons.1 hd with hd | hd
    · exact Token.mark.inj hd ▸ (by decide)
    · exact hmarks d hd
  · intro rest hrest
    obtain ⟨hq, hn⟩ := l.ne_of_isOuter (c := '-') (by decide)
    rw [List.cons_append, scan_mark hq hn (by simp [hc]), hscan rest hrest, Option.map_map]
    rfl

end Lexicon

end WhereClause
