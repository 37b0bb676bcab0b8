import Mathlib.Tactic.SplitIfs
import WhereClause.Calendar

/-!
# The characters of days and times

The texts of days and times are digits with a few marks between them.  No dialect of SQL has a
special form for any of these characters, and none of them begins a reference to a column.

Main definitions:

* `isCalendarChar`, `IsCalendarText`: the characters in question.

Main results:

* `isCalendarText_date`, `isCalendarText_dateTime`, `isCalendarText_iso`: **all texts of days and
  times consist of them**.
-/

set_option autoImplicit false

namespace WhereClause

/-- Holds of the characters in the texts of days and times. -/
def isCalendarChar (c : Char) : Bool :=
  c.isDigit || c ∈ "+-: T.".toList

def IsCalendarText (s : Text) : Prop :=
  ∀ c ∈ s, isCalendarChar c = true

namespace IsCalendarText

variable {s t : Text}

theorem append (hs : IsCalendarText s) (ht : IsCalendarText t) : IsCalendarText (s ++ t) :=
  List.forall_mem_append.2 ⟨hs, ht⟩

theorem cons {c : Char} (hc : isCalendarChar c = true) (hs : IsCalendarText s) :
    IsCalendarText (c :: s) :=
  List.forall_mem_cons.2 ⟨hc, hs⟩

/-- A character that does not occur in such texts does not occur in this one. -/
theorem ne {d : Char} (hs : IsCalendarText s) (hd : isCalendarChar d = false) : ∀ c ∈ s, c ≠ d := by
  rintro c hc rfl
  rw [hs c hc] at hd
  contradiction

end IsCalendarText

theorem isCalendarText_paddedNumeral (width n : Nat) : IsCalendarText (paddedNumeral width n) := by
  intro c hc
  rcases List.mem_append.1 hc with hc | hc
  · obtain ⟨-, rfl⟩ := List.mem_replicate.1 hc
    rfl
  · rw [isCalendarChar, Numeral.isDigit_of_mem_ofNat hc, Bool.true_or]

theorem isCalendarText_date (d : Date) : IsCalendarText d.text := by
  have hyear : IsCalendarText (Date.yearText d.year) := by
    unfold Date.yearText
    dsimp only
    split_ifs
    · exact .cons rfl (isCalendarText_paddedNumeral _ _)
    · exact .cons rfl (isCalendarText_paddedNumeral _ _)
    · exact isCalendarText_paddedNumeral _ _
  exact (hyear.append (.cons rfl (isCalendarText_paddedNumeral _ _))).append
    (.cons rfl (isCalendarText_paddedNumeral _ _))

theorem isCalendarText_time (t : TimeOfDay) : IsCalendarText t.text :=
  ((isCalendarText_paddedNumeral _ _).append
    (.cons rfl (isCalendarText_paddedNumeral _ _))).append
    (.cons rfl (isCalendarText_paddedNumeral _ _))

theorem isCalendarText_fraction (t : TimeOfDay) : IsCalendarText t.fractionText := by
  unfold TimeOfDay.fractionText
  dsimp only
  split_ifs
  · exact fun c hc => absurd hc List.not_mem_nil
  · exact .cons rfl (isCalendarText_paddedNumeral _ _)
  · exact .cons rfl (isCalendarText_paddedNumeral _ _)
  · exact .cons rfl (isCalendarText_paddedNumeral _ _)

theorem isCalendarText_dateTime (t : DateTime) : IsCalendarText t.text :=
  (isCalendarText_date t.date).append (.cons rfl (isCalendarText_time t.time))

theorem isCalendarText_iso (t : DateTime) : IsCalendarText t.isoText :=
  ((isCalendarText_date t.date).append (.cons rfl (isCalendarText_time t.time))).append
    (isCalendarText_fraction t.time)

/-- The two texts of a moment differ: one has a space where the other has a `T`. -/
theorem count_text_lt_count_iso (t : DateTime) : t.text.count 'T' < t.isoText.count 'T' := by
  have hspace : (' ' :: t.time.text).count 'T' = t.time.text.count 'T' :=
    List.count_cons_of_ne (by decide)
  rw [DateTime.text, DateTime.isoText, List.count_append, List.count_append, List.count_append,
    hspace, List.count_cons_self]
  omega

end WhereClause
