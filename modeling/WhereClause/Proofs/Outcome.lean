import Mathlib.Data.List.Forall2

/-!
# Outcomes

Rendering, building and loading answer in `Except`.  This module takes a successful answer of a
sequence of steps apart into the successful answers of the steps, and compares two sequences of
steps that go side by side.

Main definitions:

* `SameOutcome`: two computations fail in the same way or succeed with related answers.

Main statements:

* `bind_eq_ok`, `map_eq_ok`, `map_eq_error`, `mapError_eq_ok`: a step that follows another one;
* `mapM_eq_ok`, `mapM_eq_ok_iff`, `exists_mapM`, `exists_of_mapM_eq_error`, `mapM_append_eq_error`:
  one step for each member of a list;
* `SameOutcome.bind`: two steps that follow two others;
* `SameOutcome.mapM`: one step for each member of a list, in two ways.
-/

set_option autoImplicit false

namespace WhereClause

variable {ε ε' α β : Type}

theorem bind_eq_ok {x : Except ε α} {f : α → Except ε β} {b : β} :
    (x >>= f) = .ok b ↔ ∃ a, x = .ok a ∧ f a = .ok b := by
  cases x with
  | error e => simp [bind, Except.bind]
  | ok a => simp [bind, Except.bind]

@[simp] theorem ok_bind (a : α) (f : α → Except ε β) : ((.ok a : Except ε α) >>= f) = f a := rfl

theorem pure_eq_ok {a b : α} : (pure a : Except ε α) = .ok b ↔ a = b := by
  simp [pure, Except.pure]

theorem map_eq_ok {x : Except ε α} {f : α → β} {b : β} :
    x.map f = .ok b ↔ ∃ a, x = .ok a ∧ f a = b := by
  cases x with
  | error e => simp [Except.map]
  | ok a => simp [Except.map]

theorem map_eq_error {x : Except ε α} {f : α → β} {e : ε} : x.map f = .error e ↔ x = .error e := by
  cases x with
  | error e' => simp [Except.map]
  | ok a => simp [Except.map]

theorem mapError_eq_ok {x : Except ε α} {f : ε → ε'} {a : α} :
    x.mapError f = .ok a ↔ x = .ok a := by
  cases x with
  | error e => simp [Except.mapError]
  | ok b => simp [Except.mapError]

/-- A step for each member of a list succeeds when all of them do. -/
theorem mapM_eq_ok {f : α → Except ε β} {xs : List α} {ys : List β} :
    xs.mapM f = .ok ys ↔ List.Forall₂ (fun x y => f x = .ok y) xs ys := by
  induction xs generalizing ys with
  | nil => simp [pure, Except.pure, eq_comm]
  | cons x xs ih =>
      rw [List.mapM_cons, bind_eq_ok, List.forall₂_cons_left_iff]
      constructor
      · rintro ⟨y, hy, h⟩
        obtain ⟨zs, hzs, h⟩ := bind_eq_ok.1 h
        exact ⟨y, zs, hy, ih.1 hzs, (pure_eq_ok.1 h).symm⟩
      · rintro ⟨y, zs, hy, hzs, rfl⟩
        exact ⟨y, hy, bind_eq_ok.2 ⟨zs, ih.2 hzs, rfl⟩⟩

/-- If every member's step succeeds with an answer related to the member, so do the steps of the
list, member by member. -/
theorem exists_mapM {f : α → Except ε β} {R : α → β → Prop} {xs : List α}
    (h : ∀ x ∈ xs, ∃ y, f x = .ok y ∧ R x y) :
    ∃ ys, xs.mapM f = .ok ys ∧ List.Forall₂ R xs ys := by
  induction xs with
  | nil => exact ⟨[], rfl, .nil⟩
  | cons x xs ih =>
      rw [List.forall_mem_cons] at h
      obtain ⟨⟨y, hy, hrel⟩, hxs⟩ := h
      obtain ⟨ys, hys, hall⟩ := ih hxs
      refine ⟨y :: ys, ?_, .cons hrel hall⟩
      rw [List.mapM_cons, hy, hys]
      rfl

/-- If a member's step succeeds exactly when `P` holds, and then gives what `g` says, all steps
succeed exactly when `P` holds of every member. -/
theorem mapM_eq_ok_iff {f : α → Except ε β} {P : α → Prop} {g : α → β} {xs : List α}
    (h : ∀ x ∈ xs, ∀ y, f x = .ok y ↔ P x ∧ y = g x) {ys : List β} :
    xs.mapM f = .ok ys ↔ (∀ x ∈ xs, P x) ∧ ys = xs.map g := by
  induction xs generalizing ys with
  | nil => simp [pure, Except.pure, eq_comm]
  | cons x xs ih =>
      have hx := h x (by simp)
      have hxs := @ih fun w hw => h w (List.mem_cons_of_mem _ hw)
      simp only [List.mapM_cons, bind_eq_ok, pure_eq_ok, hx, hxs, List.forall_mem_cons,
        List.map_cons]
      constructor
      · rintro ⟨y, ⟨hP, rfl⟩, zs, ⟨hPs, rfl⟩, rfl⟩
        exact ⟨⟨hP, hPs⟩, rfl⟩
      · rintro ⟨⟨hP, hPs⟩, rfl⟩
        exact ⟨g x, ⟨hP, rfl⟩, xs.map g, ⟨hPs, rfl⟩, rfl⟩

theorem mapM_congr {f g : α → Except ε β} {xs : List α} (h : ∀ x ∈ xs, f x = g x) :
    xs.mapM f = xs.mapM g := by
  induction xs with
  | nil => rfl
  | cons x xs ih =>
      rw [List.forall_mem_cons] at h
      rw [List.mapM_cons, List.mapM_cons, h.1, ih h.2]

/-- If the steps of a list do not all succeed, the first one that fails tells why. -/
theorem exists_of_mapM_eq_error {f : α → Except ε β} {xs : List α} {e : ε}
    (h : xs.mapM f = .error e) :
    ∃ before x after, xs = before ++ x :: after ∧ (∃ ys, before.mapM f = .ok ys) ∧
      f x = .error e := by
  induction xs with
  | nil => cases h
  | cons x xs ih =>
      rw [List.mapM_cons] at h
      cases hx : f x with
      | error e' =>
          rw [hx] at h
          cases h
          exact ⟨[], x, xs, rfl, ⟨[], rfl⟩, hx⟩
      | ok y =>
          rw [hx, ok_bind] at h
          cases hxs : xs.mapM f with
          | ok ys =>
              rw [hxs] at h
              cases h
          | error e' =>
              rw [hxs] at h
              cases h
              obtain ⟨before, x', after, rfl, ⟨ys, hbefore⟩, hx'⟩ := ih hxs
              refine ⟨x :: before, x', after, rfl, ⟨y :: ys, ?_⟩, hx'⟩
              rw [List.mapM_cons, hx, hbefore]
              rfl

/-- A step that fails behind steps that succeed tells why the steps of the list fail. -/
theorem mapM_append_eq_error {f : α → Except ε β} {before after : List α} {x : α} {ys : List β}
    {e : ε} (hbefore : before.mapM f = .ok ys) (hx : f x = .error e) :
    (before ++ x :: after).mapM f = .error e := by
  rw [List.mapM_append, hbefore, ok_bind, List.mapM_cons, hx]
  rfl

/-! ### Two computations side by side -/

/-- Both computations fail with the same error, or both succeed and `R` relates their answers. -/
inductive SameOutcome (R : α → β → Prop) : Except ε α → Except ε β → Prop
  | ok {a : α} {b : β} (h : R a b) : SameOutcome R (.ok a) (.ok b)
  | error (e : ε) : SameOutcome R (.error e) (.error e)

namespace SameOutcome

variable {γ δ : Type} {R : α → β → Prop} {S : γ → δ → Prop} {x : Except ε α} {y : Except ε β}

theorem bind {f : α → Except ε γ} {g : β → Except ε δ} (h : SameOutcome R x y)
    (hstep : ∀ a b, R a b → SameOutcome S (f a) (g b)) : SameOutcome S (x >>= f) (y >>= g) := by
  cases h with
  | ok h => exact hstep _ _ h
  | error e => exact .error e

theorem refl {R : α → α → Prop} (h : ∀ a, R a a) (x : Except ε α) : SameOutcome R x x := by
  cases x with
  | ok a => exact .ok (h a)
  | error e => exact .error e

theorem map {f : α → γ} {g : β → δ} (h : SameOutcome R x y) (hfg : ∀ a b, R a b → S (f a) (g b)) :
    SameOutcome S (x.map f) (y.map g) := by
  cases h with
  | ok h => exact .ok (hfg _ _ h)
  | error e => exact .error e

/-- A step for each member of a list, in two ways. -/
theorem mapM {ι : Type} {f : ι → Except ε α} {g : ι → Except ε β} {items : List ι}
    (h : ∀ item ∈ items, SameOutcome R (f item) (g item)) :
    SameOutcome (List.Forall₂ R) (items.mapM f) (items.mapM g) := by
  induction items with
  | nil => exact .ok .nil
  | cons item items ih =>
      rw [List.forall_mem_cons] at h
      rw [List.mapM_cons, List.mapM_cons]
      exact h.1.bind fun a b hab => (ih h.2).bind fun as bs hall => .ok (.cons hab hall)

/-- Two computations that end as a third one does end alike. -/
theorem of_common {z : Except ε γ} (hx : SameOutcome (fun _ _ => True) x z)
    (hy : SameOutcome (fun _ _ => True) y z) : SameOutcome (fun _ _ => True) x y := by
  cases hx with
  | ok _ =>
      cases hy with
      | ok _ => exact .ok trivial
  | error e =>
      cases hy with
      | error _ => exact .error e

theorem exists_ok_iff (h : SameOutcome R x y) : (∃ a, x = .ok a) ↔ ∃ b, y = .ok b := by
  cases h with
  | ok h => simp
  | error e => simp

theorem eq_error_iff (h : SameOutcome R x y) {e : ε} : x = .error e ↔ y = .error e := by
  cases h with
  | ok h => simp
  | error e => simp

end SameOutcome

end WhereClause
