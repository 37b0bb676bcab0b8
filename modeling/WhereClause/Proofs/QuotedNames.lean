import WhereClause.Escaper
import WhereClause.Proofs.Outcome

/-!
# Dotted names in quotes

A dotted name is quoted part by part.  A part may hold quotes, also at its ends, where they stand
beside the quotes around the part, and whoever reads the text must not take them for each other: if
two names had one text, a filter on one column would be a filter on the other.  No two names have,
whatever the quote is, unless it is the dot: the parts are read back from the text one after the
other, and a dot between two parts is never in quotes.

Main definitions:

* `Quoted.writeDotted`: parts in quotes with dots between them;
* `Quoted.readDotted?`: the parts of such a text;
* `Quotable`: what a part of a name must be.

Main results:

* `Quoted.readDotted?_eq_some`: **which texts are read, and as which parts**;
* `quoteIdentifier_eq_ok`, `quoteIdentifier_eq_error`: what a name is quoted to, and which part of
  it is refused;
* `quoteIdentifier_lossless`: **the parts of a name are read back from its quoted form**.
-/

set_option autoImplicit false

namespace WhereClause

/-! ### Reading quoted parts -/

namespace Quoted

variable {quote : Char}

/-- The parts of a text that consists of parts in quotes with dots between them, and of nothing
else. -/
def readDotted? (quote : Char) (s : Text) : Option (List Text) :=
  match _h : read? quote s with
  | none => none
  | some (part, []) => some [part]
  | some (part, c :: rest) => if c = '.' then (readDotted? quote rest).map (part :: ·) else none
termination_by s.length
decreasing_by
  obtain ⟨rfl, -⟩ := read?_eq_some.1 _h
  rw [List.length_append, List.length_cons]
  omega

theorem readDotted?_eq (s : Text) : readDotted? quote s = match read? quote s with
    | none => none
    | some (part, []) => some [part]
    | some (part, c :: rest) =>
      if c = '.' then (readDotted? quote rest).map (part :: ·) else none := by
  rw [readDotted?]
  split <;> rename_i h <;> rw [h]

theorem readDotted?_last (part : Text) : readDotted? quote (write quote part) = some [part] := by
  have hread : read? quote (write quote part) = some (part, []) :=
    read?_eq_some.2 ⟨(List.append_nil _).symm, by simp⟩
  rw [readDotted?_eq, hread]

/-- A dot behind a part is not in quotes, if it is not the quote itself. -/
theorem readDotted?_next (hquote : quote ≠ '.') (part rest : Text) :
    readDotted? quote (write quote part ++ '.' :: rest) =
      (readDotted? quote rest).map (part :: ·) := by
  have hread : read? quote (write quote part ++ '.' :: rest) = some (part, '.' :: rest) :=
    read?_eq_some.2 ⟨rfl, by simpa using Ne.symm hquote⟩
  rw [readDotted?_eq, hread]
  exact if_pos rfl

def writeDotted (quote : Char) (parts : List Text) : Text :=
  Text.joinWith ['.'] (parts.map (write quote))

theorem writeDotted_cons (part next : Text) (parts : List Text) :
    writeDotted quote (part :: next :: parts) =
      write quote part ++ '.' :: writeDotted quote (next :: parts) := by
  rw [writeDotted, Text.joinWith, List.map_cons, List.map_cons, List.intercalate_cons_cons,
    List.append_assoc]
  rfl

theorem readDotted?_writeDotted (hquote : quote ≠ '.') {parts : List Text} (hne : parts ≠ []) :
    readDotted? quote (writeDotted quote parts) = some parts := by
  induction parts with
  | nil => exact absurd rfl hne
  | cons part parts ih =>
      cases parts with
      | nil => simpa [writeDotted, Text.joinWith] using readDotted?_last part
      | cons next parts =>
          rw [writeDotted_cons, readDotted?_next hquote, ih (List.cons_ne_nil _ _)]
          rfl

/-- Nothing is read but quoted parts with dots between them. -/
theorem eq_writeDotted_of_readDotted? {s : Text} {parts : List Text}
    (h : readDotted? quote s = some parts) : parts ≠ [] ∧ s = writeDotted quote parts := by
  induction hlength : s.length using Nat.strongRecOn generalizing s parts with
  | ind length ih =>
      rw [readDotted?_eq] at h
      split at h
      · cases h
      · rename_i part hread
        cases h
        obtain ⟨rfl, -⟩ := read?_eq_some.1 hread
        simp [writeDotted, Text.joinWith]
      · rename_i part c rest hread
        split at h
        · rename_i hc
          subst hc
          obtain ⟨parts, hrest, rfl⟩ := Option.map_eq_some_iff.1 h
          obtain ⟨rfl, -⟩ := read?_eq_some.1 hread
          obtain ⟨hne, rfl⟩ := ih rest.length
            (by rw [← hlength, List.length_append, List.length_cons]; omega) hrest rfl
          obtain ⟨next, parts, rfl⟩ := List.exists_cons_of_ne_nil hne
          exact ⟨List.cons_ne_nil _ _, (writeDotted_cons part next parts).symm⟩
        · cases h

/-- Quoted parts with dots between them are read, and nothing else is. -/
theorem readDotted?_eq_some (hquote : quote ≠ '.') {s : Text} {parts : List Text} :
    readDotted? quote s = some parts ↔ parts ≠ [] ∧ s = writeDotted quote parts := by
  constructor
  · exact eq_writeDotted_of_readDotted?
  · rintro ⟨hne, rfl⟩
    exact readDotted?_writeDotted hquote hne

end Quoted

/-! ### Quoting names -/

open Quoted

/-- The part of a name can be quoted: it is not empty, and it does not hold the character NUL. -/
def Quotable (part : Text) : Prop :=
  part ≠ [] ∧ nul ∉ part

section Quoting

variable {quote : Char} {name part written : Text} {e : EscapeError}

theorem quotePart_eq_ok :
    quotePart quote name part = .ok written ↔ Quotable part ∧ written = write quote part := by
  unfold quotePart
  by_cases hempty : part = []
  · simp [hempty, Quotable]
  by_cases hnul : nul ∈ part
  · simp [hempty, hnul, Quotable]
  · simp [hempty, hnul, Quotable, eq_comm]

theorem quotePart_eq_error : quotePart quote name part = .error e ↔
    part = [] ∧ e = .emptyIdentifier name ∨ nul ∈ part ∧ e = .nulInIdentifier := by
  unfold quotePart
  by_cases hempty : part = []
  · simp [hempty, eq_comm]
  by_cases hnul : nul ∈ part
  · simp [hempty, hnul, eq_comm]
  · simp [hempty, hnul]

theorem mapM_quotePart {parts quoted : List Text} :
    parts.mapM (quotePart quote name) = .ok quoted ↔
      (∀ part ∈ parts, Quotable part) ∧ quoted = parts.map (write quote) :=
  mapM_eq_ok_iff fun _ _ _ => quotePart_eq_ok

/-- A name of which all parts can be quoted is quoted part by part. -/
theorem quoteIdentifier_eq_ok : quoteIdentifier quote name = .ok written ↔
    (∀ part ∈ Text.pieces '.' name, Quotable part) ∧
      written = writeDotted quote (Text.pieces '.' name) := by
  rw [quoteIdentifier, map_eq_ok]
  simp only [mapM_quotePart]
  constructor
  · rintro ⟨parts, ⟨hquotable, rfl⟩, rfl⟩
    exact ⟨hquotable, rfl⟩
  · rintro ⟨hquotable, rfl⟩
    exact ⟨_, ⟨hquotable, rfl⟩, rfl⟩

/-- The first part that cannot be quoted is what a name is refused for. -/
theorem quoteIdentifier_eq_error : quoteIdentifier quote name = .error e ↔
    ∃ before part after, Text.pieces '.' name = before ++ part :: after ∧
      (∀ p ∈ before, Quotable p) ∧
      (part = [] ∧ e = .emptyIdentifier name ∨ nul ∈ part ∧ e = .nulInIdentifier) := by
  simp only [quoteIdentifier, map_eq_error, ← @quotePart_eq_error quote]
  constructor
  · intro h
    obtain ⟨before, part, after, hpieces, ⟨quoted, hbefore⟩, hpart⟩ := exists_of_mapM_eq_error h
    exact ⟨before, part, after, hpieces, (mapM_quotePart.1 hbefore).1, hpart⟩
  · rintro ⟨before, part, after, hpieces, hbefore, hpart⟩
    rw [hpieces]
    exact mapM_append_eq_error (mapM_quotePart.2 ⟨hbefore, rfl⟩) hpart

end Quoting

/-- With any quote but the dot: a name is refused if one of its parts is empty or holds the
character NUL, and the first such part tells why.  Any other name is quoted to a text that is read
as its parts, so that no other name is quoted to it. -/
theorem quoteIdentifier_lossless {quote : Char} (hquote : quote ≠ '.') :
    (∀ name, (∃ e, quoteIdentifier quote name = .error e) ↔
      ∃ part ∈ Text.pieces '.' name, part = [] ∨ nul ∈ part) ∧
    (∀ name e, quoteIdentifier quote name = .error e ↔
      ∃ before part after, Text.pieces '.' name = before ++ part :: after ∧
        (∀ p ∈ before, p ≠ [] ∧ nul ∉ p) ∧
        (part = [] ∧ e = .emptyIdentifier name ∨ nul ∈ part ∧ e = .nulInIdentifier)) ∧
    (∀ name, (∀ part ∈ Text.pieces '.' name, part ≠ [] ∧ nul ∉ part) →
      ∃ written, quoteIdentifier quote name = .ok written) ∧
    (∀ name written, quoteIdentifier quote name = .ok written →
      readDotted? quote written = some (Text.pieces '.' name)) ∧
    (∀ s parts, readDotted? quote s = some parts ↔
      parts ≠ [] ∧ s = Text.joinWith "." (parts.map (write quote))) ∧
    ∀ name name' written, quoteIdentifier quote name = .ok written →
      quoteIdentifier quote name' = .ok written → name = name' := by
  have hread : ∀ name written, quoteIdentifier quote name = .ok written →
      readDotted? quote written = some (Text.pieces '.' name) := by
    intro name written h
    obtain ⟨-, rfl⟩ := quoteIdentifier_eq_ok.1 h
    exact readDotted?_writeDotted hquote (List.splitOn_ne_nil '.' name)
  refine ⟨fun name => ⟨?_, ?_⟩, fun name e => quoteIdentifier_eq_error, fun name h => ?_, hread,
    fun s parts => readDotted?_eq_some hquote, fun name name' written h h' => ?_⟩
  · rintro ⟨e, h⟩
    obtain ⟨before, part, after, hpieces, -, hpart⟩ := quoteIdentifier_eq_error.1 h
    exact ⟨part, by simp [hpieces], hpart.imp And.left And.left⟩
  · rintro ⟨part, hmem, hpart⟩
    cases h : quoteIdentifier quote name with
    | error e => exact ⟨e, rfl⟩
    | ok written =>
        obtain ⟨hne, hnul⟩ := (quoteIdentifier_eq_ok.1 h).1 part hmem
        exact (hpart.elim hne hnul).elim
  · exact ⟨_, quoteIdentifier_eq_ok.2 ⟨h, rfl⟩⟩
  · have hjoin : ∀ s, Text.joinWith ['.'] (Text.pieces '.' s) = s := fun s =>
      List.intercalate_splitOn '.'
    have hpieces : Text.pieces '.' name = Text.pieces '.' name' :=
      Option.some.inj ((hread name written h).symm.trans (hread name' written h'))
    calc name = Text.joinWith ['.'] (Text.pieces '.' name) := (hjoin name).symm
      _ = Text.joinWith ['.'] (Text.pieces '.' name') := by rw [hpieces]
      _ = name' := hjoin name'

/-- A letter as the quote of a name in which it stands beside every quote and beside the dot; and a
name with two parts that are refused, of which the first holds a NUL. -/
theorem quoteIdentifier_lossless_letter :
    'x' ≠ '.' ∧ quoteIdentifier 'x' "x.axx" = .ok "xxxx.xaxxxxx" ∧
      readDotted? 'x' "xxxx.xaxxxxx" = some [['x'], ['a', 'x', 'x']] ∧
      (∀ name, quoteIdentifier 'x' name = .ok "xxxx.xaxxxxx" → name = "x.axx") ∧
      quoteIdentifier 'x' ['a', '.', nul, '.'] = .error .nulInIdentifier ∧
      ∃ written, quoteIdentifier 'x' "a.b" = .ok written := by
  have hquote : 'x' ≠ '.' := by decide
  obtain ⟨-, herror, hok, hread, -, hunique⟩ := quoteIdentifier_lossless hquote
  have hwritten : quoteIdentifier 'x' "x.axx" = .ok "xxxx.xaxxxxx" := by rfl
  refine ⟨hquote, hwritten, hread _ _ hwritten, fun name h => hunique _ _ _ h hwritten,
    (herror _ _).2 ⟨[['a']], [nul], [[]], by decide, by decide, .inr ⟨by decide, rfl⟩⟩,
    hok "a.b" (by decide)⟩

end WhereClause
