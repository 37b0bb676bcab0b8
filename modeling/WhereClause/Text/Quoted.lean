import WhereClause.Text.Basic

/-!
# Quoted texts

A quoted text opens and closes with one quote character, and a quote inside it is written twice.

Main definitions:

* `Quoted.double`: every quote written twice;
* `Quoted.write`: the quoted form of a text;
* `Quoted.read?`: the text behind a quoted form at the start of the input, and what follows it.

Main statements:

* `Quoted.readBody?_double`: reading undoes writing, as long as no further quote follows;
* `Quoted.eq_of_readBody?`: nothing else is read;
* `Quoted.read?_eq_some`: what is read is what was written, with no further quote behind it.
-/

set_option autoImplicit false

namespace WhereClause.Quoted

/-- The text with every `quote` written twice. -/
def double (quote : Char) : Text → Text
  | [] => []
  | c :: s => if c = quote then quote :: quote :: double quote s else c :: double quote s

def write (quote : Char) (s : Text) : Text :=
  quote :: (double quote s ++ [quote])

/-- Reads up to the closing quote: the text so far, and what follows the closing quote. -/
def readBody? (quote : Char) : Text → Option (Text × Text)
  | [] => none
  | [c] => if c = quote then some ([], []) else none
  | c :: d :: s =>
    if c = quote then
      if d = quote then (readBody? quote s).map fun (body, rest) => (quote :: body, rest)
      else some ([], d :: s)
    else (readBody? quote (d :: s)).map fun (body, rest) => (c :: body, rest)

def read? (quote : Char) : Text → Option (Text × Text)
  | [] => none
  | c :: s => if c = quote then readBody? quote s else none

variable {quote : Char}

@[simp] theorem double_nil : double quote [] = [] := rfl

theorem double_cons_self (s : Text) :
    double quote (quote :: s) = quote :: quote :: double quote s := by
  simp [double]

theorem double_cons_of_ne {c : Char} (h : c ≠ quote) (s : Text) :
    double quote (c :: s) = c :: double quote s := by
  simp [double, h]

theorem readBody?_cons_of_ne {c : Char} (h : c ≠ quote) (s : Text) :
    readBody? quote (c :: s) = (readBody? quote s).map fun (body, rest) => (c :: body, rest) := by
  cases s with
  | nil => simp [readBody?, h]
  | cons d s => simp [readBody?, h]

/-- Reading undoes writing in front of every rest that does not go on with a quote. -/
theorem readBody?_double (s : Text) {rest : Text} (h : rest.head? ≠ some quote) :
    readBody? quote (double quote s ++ quote :: rest) = some (s, rest) := by
  induction s with
  | nil =>
    cases rest with
    | nil => simp [readBody?]
    | cons d rest =>
      have hd : d ≠ quote := by simpa using h
      simp [readBody?, hd]
  | cons c s ih =>
    by_cases hc : c = quote
    · subst hc
      simp [double_cons_self, readBody?, ih]
    · simp [double_cons_of_ne hc, readBody?_cons_of_ne hc, ih]

/-- What is read was written so, and the rest does not go on with a quote. -/
theorem eq_of_readBody? {s body rest : Text} (h : readBody? quote s = some (body, rest)) :
    s = double quote body ++ quote :: rest ∧ rest.head? ≠ some quote := by
  fun_induction readBody? quote s generalizing body with
  | case1 => simp at h
  | case2 =>
    obtain ⟨rfl, rfl⟩ : [] = body ∧ [] = rest := by simpa using h
    simp
  | case3 => simp at h
  | case4 s ih =>
    simp only [Option.map_eq_some_iff, Prod.mk.injEq, Prod.exists] at h
    obtain ⟨body', rest', hr, rfl, rfl⟩ := h
    obtain ⟨hs, hq⟩ := ih hr
    exact ⟨by simp [double_cons_self, hs], hq⟩
  | case5 d s hd =>
    obtain ⟨rfl, rfl⟩ : [] = body ∧ d :: s = rest := by simpa using h
    simp [hd]
  | case6 c d s hc ih =>
    simp only [Option.map_eq_some_iff, Prod.mk.injEq, Prod.exists] at h
    obtain ⟨body', rest', hr, rfl, rfl⟩ := h
    obtain ⟨hs, hq⟩ := ih hr
    exact ⟨by simp [double_cons_of_ne hc, hs], hq⟩

/-- A quoted form is read where one stands that is not followed by a quote. -/
theorem read?_eq_some {s body rest : Text} : read? quote s = some (body, rest) ↔
    s = write quote body ++ rest ∧ rest.head? ≠ some quote := by
  constructor
  · intro h
    cases s with
    | nil => cases h
    | cons c s =>
        rw [read?] at h
        split at h
        · rename_i hc
          obtain ⟨rfl, hrest⟩ := eq_of_readBody? h
          exact ⟨by simp [write, hc], hrest⟩
        · cases h
  · rintro ⟨rfl, hrest⟩
    rw [write, List.cons_append, List.append_assoc, read?, if_pos rfl]
    exact readBody?_double body hrest

end WhereClause.Quoted
