import WhereClause.Dialect
import WhereClause.Proofs.Derivation

/-!
# The scan for the closing quote

A text in quotes may hold quotes, each of them written twice, and it may end with one.  Of a run of
quotes nobody can tell by itself how many belong to the text and which one closes it.  The scan
decides this from left to right, a quote at a time, by the one character behind the quote, and it
must neither take the closing quote for half of a pair nor half of a pair for the closing quote.

Main definitions:

* `Quoted.Round`, `Quoted.round`: one round of the scan, up to the next quote;
* `Quoted.Scans`: rounds one after the other, how many there are and how they end.

Main results:

* `Quoted.round_cases`: what a round finds, and what it adds to the text read before it;
* `Quoted.exists_scans`: **the scan ends**, and with what is read by recursion on the characters;
* `quotedText_eq_done`, `quotedText_eq_unmatched`: where a text in quotes is read, and where not;
* `quotedText_inverse`: **reading a text in quotes undoes writing it, and reads nothing else**.
-/

set_option autoImplicit false

namespace WhereClause

namespace Quoted

variable {quote : Char}

/-! ### Rounds -/

/-- What a round of the scan finds. -/
inductive Round where
  /-- Two quotes, which stand for one: the text read so far, and what is left to be scanned. -/
  | doubled (content rest : Text)
  /-- A quote by itself, which closes the text: the whole text, and what follows. -/
  | closed (content rest : Text)
  | unclosed

/-- One round.  What stands in front of the next quote is added to the text read so far, and the
character behind that quote decides. -/
def round (quote : Char) (content s : Text) : Round :=
  let content := content ++ s.takeWhile (· != quote)
  match s.dropWhile (· != quote) with
  | [] => .unclosed
  | _ :: after =>
    match Text.dropStart? [quote] after with
    | some rest => .doubled (content ++ [quote]) rest
    | none => .closed content after

theorem round_of_mem {before after : Text} (hbefore : quote ∉ before) (content : Text) :
    round quote content (before ++ quote :: after) =
      match Text.dropStart? [quote] after with
      | some rest => .doubled (content ++ before ++ [quote]) rest
      | none => .closed (content ++ before) after := by
  have hrun : ∀ c ∈ before, (c != quote) = true := fun c hc =>
    bne_iff_ne.2 (ne_of_mem_of_not_mem hc hbefore)
  have hstops : Stops (· != quote) (quote :: after) := stops_cons.2 (by simp)
  rw [round, takeWhile_append_of_stops hrun hstops, dropWhile_append_of_stops hrun hstops]

theorem dropStart?_eq_none {after : Text} (h : Text.dropStart? [quote] after = none) :
    after.head? ≠ some quote := by
  cases after with
  | nil => simp
  | cons d rest =>
      rintro ⟨⟩
      simp [Text.dropStart?] at h

/-- A round ends at a pair of quotes, at a quote with none behind it, or without a quote. -/
theorem round_cases (quote : Char) (content s : Text) :
    (∃ before rest, quote ∉ before ∧ s = before ++ quote :: quote :: rest ∧
        round quote content s = .doubled (content ++ before ++ [quote]) rest) ∨
      (∃ before rest, quote ∉ before ∧ s = before ++ quote :: rest ∧ rest.head? ≠ some quote ∧
        round quote content s = .closed (content ++ before) rest) ∨
      (quote ∉ s ∧ round quote content s = .unclosed) := by
  by_cases hquote : quote ∈ s
  · obtain ⟨before, after, rfl, hbefore⟩ := List.eq_append_cons_of_mem hquote
    rw [round_of_mem hbefore]
    cases hafter : Text.dropStart? [quote] after with
    | some rest =>
        obtain rfl := Text.eq_append_of_dropStart? hafter
        exact .inl ⟨before, rest, hbefore, rfl, rfl⟩
    | none => exact .inr (.inl ⟨before, after, hbefore, rfl, dropStart?_eq_none hafter, rfl⟩)
  · have hdrop : s.dropWhile (· != quote) = [] :=
      List.dropWhile_eq_nil_iff.2 fun c hc => bne_iff_ne.2 (ne_of_mem_of_not_mem hc hquote)
    refine .inr (.inr ⟨hquote, ?_⟩)
    rw [round, hdrop]

/-! ### Whole scans -/

/-- The scan of `s`, where `content` was read before, ends after the given number of rounds, with
the text and what follows its closing quote, or for want of one. -/
inductive Scans (quote : Char) : Nat → (content s : Text) → Option (Text × Text) → Prop
  | closed {content s text rest : Text} (h : round quote content s = .closed text rest) :
      Scans quote 1 content s (some (text, rest))
  | unclosed {content s : Text} (h : round quote content s = .unclosed) :
      Scans quote 1 content s none
  | doubled {n : Nat} {content s text rest : Text} {result : Option (Text × Text)}
      (h : round quote content s = .doubled text rest) (hrest : Scans quote n text rest result) :
      Scans quote (n + 1) content s result

/-- What has no quote belongs to the text. -/
theorem readBody?_append {before : Text} (hbefore : quote ∉ before) (s : Text) :
    readBody? quote (before ++ s) =
      (readBody? quote s).map fun (body, rest) => (before ++ body, rest) := by
  induction before with
  | nil => simp
  | cons c before ih =>
      rw [List.mem_cons, not_or] at hbefore
      rw [List.cons_append, readBody?_cons_of_ne (Ne.symm hbefore.1), ih hbefore.2, Option.map_map]
      rfl

theorem readBody?_pair (s : Text) : readBody? quote (quote :: quote :: s) =
    (readBody? quote s).map fun (body, rest) => (quote :: body, rest) := by
  rw [readBody?, if_pos rfl, if_pos rfl]

theorem readBody?_nil_append {rest : Text} (h : rest.head? ≠ some quote) :
    readBody? quote (quote :: rest) = some ([], rest) :=
  readBody?_double [] h

theorem readBody?_eq_none {s : Text} (h : quote ∉ s) : readBody? quote s = none := by
  have hnone := readBody?_append h []
  rw [List.append_nil] at hnone
  rw [hnone, readBody?, Option.map_none]

/-- The scan ends: every round but the last passes a pair of quotes.  It ends with what is read by
recursion on the characters, behind what was read before. -/
theorem exists_scans (quote : Char) (content s : Text) :
    ∃ n ≤ s.count quote / 2 + 1, Scans quote n content s
      ((readBody? quote s).map fun (body, rest) => (content ++ body, rest)) := by
  induction hlength : s.length using Nat.strongRecOn generalizing content s with
  | ind length ih =>
      obtain ⟨before, rest, hbefore, rfl, hround⟩ | ⟨before, rest, hbefore, rfl, hrest, hround⟩ |
        ⟨hquote, hround⟩ := round_cases quote content s
      · have hshorter : rest.length < length := by
          rw [← hlength, List.length_append, List.length_cons, List.length_cons]
          omega
        obtain ⟨n, hn, hscan⟩ := ih _ hshorter (content ++ before ++ [quote]) rest rfl
        have hcount : (before ++ quote :: quote :: rest).count quote = rest.count quote + 2 := by
          rw [List.count_append, List.count_eq_zero.2 hbefore, List.count_cons_self,
            List.count_cons_self, Nat.zero_add]
        refine ⟨n + 1, by omega, .doubled hround ?_⟩
        rw [readBody?_append hbefore, readBody?_pair, Option.map_map, Option.map_map]
        simpa [Function.comp_def] using hscan
      · refine ⟨1, by omega, ?_⟩
        rw [readBody?_append hbefore, readBody?_nil_append hrest]
        simpa using Scans.closed hround
      · refine ⟨1, by omega, ?_⟩
        rw [readBody?_eq_none hquote, Option.map_none]
        exact .unclosed hround

end Quoted

/-! ### Texts in quotes -/

namespace Shorthand

open Quoted

variable {input s rest : Text}

theorem quotedText_eq_done : quotedText input = .done (.string s) rest ↔
    input = write '\'' s ++ rest ∧ rest.head? ≠ some '\'' := by
  rw [← read?_eq_some]
  constructor
  · intro h
    obtain ⟨content, hread, hcontent⟩ := Reader.map_eq_done.1 h
    cases hcontent
    exact Reader.ofOption_eq_done.1 hread
  · exact fun h => Reader.map_done (Reader.ofOption_some h)

/-- Where no text in quotes stands none is read, and nothing else is told. -/
theorem quotedText_eq_unmatched : quotedText input = .unmatched .mark input ↔
    ¬∃ s rest, input = write '\'' s ++ rest ∧ rest.head? ≠ some '\'' := by
  simp only [← read?_eq_some]
  constructor
  · rintro h ⟨s, rest, hread⟩
    have hdone : quotedText input = .done (.string s) rest :=
      Reader.map_done (Reader.ofOption_some hread)
    rw [hdone] at h
    cases h
  · intro h
    exact Reader.map_unmatched (Reader.ofOption_eq_unmatched.2 h)

/-- What the scan behind the first quote ends with is what the reader answers. -/
theorem quotedText_quote (s : Text) : quotedText ('\'' :: s) =
    match readBody? '\'' s with
    | some (text, rest) => .done (.string text) rest
    | none => .unmatched .mark ('\'' :: s) := by
  have hread : read? '\'' ('\'' :: s) = readBody? '\'' s := by rw [read?, if_pos rfl]
  cases hbody : readBody? '\'' s with
  | some pair => exact Reader.map_done (Reader.ofOption_some (hread.trans hbody))
  | none => exact Reader.map_unmatched (Reader.ofOption_none (hread.trans hbody))

/-- A text in quotes is read where one was written and no further quote stands behind it, and
nowhere else.  So it is read back from what is shown of it and from its literal in the two dialects
that double quotes; and the scan for its closing quote ends. -/
theorem quotedText_inverse :
    (∀ input s rest, quotedText input = .done (.string s) rest ↔
      input = '\'' :: (double '\'' s ++ '\'' :: rest) ∧ rest.head? ≠ some '\'') ∧
    (∀ input, quotedText input = .unmatched .mark input ↔
      ¬∃ s rest, input = '\'' :: (double '\'' s ++ '\'' :: rest) ∧ rest.head? ≠ some '\'') ∧
    (∀ s rest, rest.head? ≠ some '\'' →
      quotedText ((Value.string s).display ++ rest) = .done (.string s) rest) ∧
    (∀ d ∈ [Dialect.postgres, Dialect.sqlite], ∀ s rest, nul ∉ s → rest.head? ≠ some '\'' →
      ∃ literal, d.escaper.literal (.string s) = .ok literal ∧
        quotedText (literal ++ rest) = .done (.string s) rest) ∧
    (∀ s, ∃ n ≤ s.count '\'' / 2 + 1, ∃ result, Scans '\'' n [] s result ∧
      quotedText ('\'' :: s) = match result with
        | some (text, rest) => .done (.string text) rest
        | none => .unmatched .mark ('\'' :: s)) := by
  have hwrite : ∀ s rest, write '\'' s ++ rest = '\'' :: (double '\'' s ++ '\'' :: rest) := by
    simp [write]
  refine ⟨fun input s rest => ?_, fun input => ?_, fun s rest hrest => ?_, ?_, fun s => ?_⟩
  · rw [quotedText_eq_done, hwrite]
  · simp only [quotedText_eq_unmatched, hwrite]
  · exact quotedText_eq_done.2 ⟨rfl, hrest⟩
  · intro d hd s rest hnul hrest
    have hstring : d.escaper.string = doubleSingleQuotes := by
      rcases List.mem_pair.1 hd with rfl | rfl <;> rfl
    refine ⟨write '\'' s, ?_, quotedText_eq_done.2 ⟨rfl, hrest⟩⟩
    rw [Escaper.literal, hstring, doubleSingleQuotes, if_neg hnul]
    rfl
  · obtain ⟨n, hn, hscan⟩ := exists_scans '\'' [] s
    refine ⟨n, hn, _, hscan, ?_⟩
    rw [quotedText_quote]
    cases readBody? '\'' s <;> rfl

/-- A run of five quotes holds two of the text and the one that closes it. -/
theorem quotedText_inverse_run :
    let s : Text := ['a', '\'', '\'']
    quotedText ['\'', 'a', '\'', '\'', '\'', '\'', '\'', ' '] = .done (.string s) [' '] ∧
      quotedText ((Value.string s).display ++ [' ']) = .done (.string s) [' '] ∧
      (∃ literal, Dialect.sqlite.escaper.literal (.string s) = .ok literal ∧
        quotedText (literal ++ [')']) = .done (.string s) [')']) ∧
      ∃ n ≤ 3, ∃ result, Scans '\'' n [] ['a', '\'', '\'', '\'', '\'', '\'', ' '] result := by
  intro s
  obtain ⟨hdone, -, hdisplay, hliteral, hscan⟩ := quotedText_inverse
  refine ⟨(hdone _ s _).2 ⟨by decide, by decide⟩, hdisplay s _ (by decide),
    hliteral .sqlite (by decide) s _ (by decide) (by decide), ?_⟩
  obtain ⟨n, hn, result, hresult, -⟩ := hscan ['a', '\'', '\'', '\'', '\'', '\'', ' ']
  exact ⟨n, hn, result, hresult⟩

end Shorthand

end WhereClause
