import Mathlib.Data.List.TakeWhile
import WhereClause.Text.Basic

/-!
# Runs of characters

Readers take the longest run of characters of one kind.  A run that was written ends where it was
meant to end if what stands behind it does not begin with such a character.

Main definitions:

* `Stops`: a text does not begin with a character of the kind.

Main results:

* `takeWhile_append_of_stops`, `dropWhile_append_of_stops`: the run is taken, and no more;
* `takeWhile_append_stops`, `dropWhile_append_stops`: more text behind it does not go on with it.
-/

set_option autoImplicit false

namespace WhereClause

/-- The text does not begin with a character for which `p` holds. -/
def Stops (p : Char → Bool) (rest : Text) : Prop :=
  ∀ c ∈ rest.head?, p c = false

variable {p q : Char → Bool} {run rest : Text}

@[simp] theorem stops_nil : Stops p [] := by
  simp [Stops]

@[simp] theorem stops_cons {c : Char} : Stops p (c :: rest) ↔ p c = false := by
  simp [Stops]

theorem not_any_head?_iff : ¬rest.head?.any p = true ↔ Stops p rest := by
  cases rest <;> simp

theorem Stops.mono (h : Stops p rest) (hq : ∀ c, q c = true → p c = true) : Stops q rest := by
  intro c hc
  have := h c hc
  cases hqc : q c with
  | false => rfl
  | true => rw [hq c hqc] at this; contradiction

theorem dropWhile_of_stops (h : Stops p rest) : rest.dropWhile p = rest := by
  cases rest with
  | nil => rfl
  | cons c rest => simp [stops_cons.1 h]

theorem takeWhile_of_stops (h : Stops p rest) : rest.takeWhile p = [] := by
  cases rest with
  | nil => rfl
  | cons c rest => simp [stops_cons.1 h]

theorem stops_dropWhile (p : Char → Bool) (s : Text) : Stops p (s.dropWhile p) := by
  intro c hc
  have hhead := List.head?_dropWhile_not p s
  rw [Option.mem_def.1 hc] at hhead
  simpa using hhead

/-- The run is taken up to its end. -/
theorem takeWhile_append_of_stops (hrun : ∀ c ∈ run, p c = true) (h : Stops p rest) :
    (run ++ rest).takeWhile p = run := by
  rw [List.takeWhile_append_of_pos hrun, takeWhile_of_stops h, List.append_nil]

/-- What follows the run is left. -/
theorem dropWhile_append_of_stops (hrun : ∀ c ∈ run, p c = true) (h : Stops p rest) :
    (run ++ rest).dropWhile p = rest := by
  rw [List.dropWhile_append_of_pos hrun, dropWhile_of_stops h]

/-! ### Runs in front of more text -/

variable {s u : Text}

theorem Stops.append_of_ne_nil (h : Stops p s) (hne : s ≠ []) (u : Text) : Stops p (s ++ u) := by
  obtain ⟨c, s, rfl⟩ := List.exists_cons_of_ne_nil hne
  exact stops_cons.2 (stops_cons.1 h)

theorem Stops.of_append (h : Stops p (s ++ u)) : Stops p s := by
  cases s with
  | nil => exact stops_nil
  | cons c s => exact stops_cons.2 (stops_cons.1 h)

/-- Whether a run goes on behind `s` does not depend on a text that it would not go on with. -/
theorem any_head?_append_stops (s : Text) (hu : Stops p u) :
    (s ++ u).head?.any p = s.head?.any p := by
  cases s with
  | cons c s => rfl
  | nil =>
      cases u with
      | nil => rfl
      | cons c u => simpa using hu

/-- A text that does not go on with the run takes nothing from it. -/
theorem takeWhile_append_stops (s : Text) (hu : Stops p u) :
    (s ++ u).takeWhile p = s.takeWhile p := by
  induction s with
  | nil => exact takeWhile_of_stops hu
  | cons c s ih =>
      rw [List.cons_append, List.takeWhile_cons, List.takeWhile_cons, ih]

theorem dropWhile_append_stops (s : Text) (hu : Stops p u) :
    (s ++ u).dropWhile p = s.dropWhile p ++ u := by
  induction s with
  | nil => exact dropWhile_of_stops hu
  | cons c s ih =>
      rw [List.cons_append, List.dropWhile_cons, List.dropWhile_cons, ih]
      split <;> rfl

end WhereClause
