import Mathlib.Order.Bounds.Basic
import Mathlib.Order.MinMax

/-!
# Edit distance

An edit inserts, deletes or replaces one element of a list. The least number of edits between two
lists obeys the recurrence that tables of distances are filled by.
-/

namespace DoraSpec.Base
open List

variable {α : Type*} {xs ys : List α} {n : Nat}

/-- One insertion, deletion or substitution. -/
inductive Edit : List α → List α → Prop
  | insertion (l r : List α) (x : α) : Edit (l ++ r) (l ++ x :: r)
  | deletion (l r : List α) (x : α) : Edit (l ++ x :: r) (l ++ r)
  | substitution (l r : List α) (x y : α) : Edit (l ++ x :: r) (l ++ y :: r)

/-- A number of edits, one after the other. -/
inductive Edits : Nat → List α → List α → Prop
  | refl (xs : List α) : Edits 0 xs xs
  | head {n : Nat} {xs ys zs : List α} : Edit xs ys → Edits n ys zs → Edits (n + 1) xs zs

private theorem Edit.cons (x : α) (h : Edit xs ys) : Edit (x :: xs) (x :: ys) := by
  cases h with
  | insertion l r y => exact .insertion (x :: l) r y
  | deletion l r y => exact .deletion (x :: l) r y
  | substitution l r y z => exact .substitution (x :: l) r y z

private theorem Edit.reverse (h : Edit xs ys) : Edit xs.reverse ys.reverse := by
  cases h with
  | insertion l r x => simpa using Edit.insertion r.reverse l.reverse x
  | deletion l r x => simpa using Edit.deletion r.reverse l.reverse x
  | substitution l r x y => simpa using Edit.substitution r.reverse l.reverse x y

private theorem Edits.map {f : List α → List α} (hf : ∀ {xs ys}, Edit xs ys → Edit (f xs) (f ys))
    (h : Edits n xs ys) : Edits n (f xs) (f ys) := by
  induction h with
  | refl xs => exact .refl _
  | head h _ ih => exact .head (hf h) ih

private theorem Edits.cons (x : α) (h : Edits n xs ys) :
    Edits n (x :: xs) (x :: ys) := h.map (.cons x)

/-- Reversed texts have the same distance. -/
theorem isLeast_of_reverse (h : IsLeast {n | Edits n xs.reverse ys.reverse} n) :
    IsLeast {n | Edits n xs ys} n := by
  refine ⟨?_, fun m hm => h.2 (hm.map Edit.reverse)⟩
  simpa using Edits.map Edit.reverse h.1

/-! ## Recurrence -/

variable [DecidableEq α]

/-- Levenshtein distance, by the first elements of both lists. -/
def lev : List α → List α → Nat
  | [], ys => ys.length
  | x :: xs, [] => (x :: xs).length
  | x :: xs, y :: ys =>
    min (min (lev xs (y :: ys) + 1) (lev (x :: xs) ys + 1))
      (lev xs ys + if x = y then 0 else 1)
termination_by xs ys => xs.length + ys.length

/-- Everything is deleted. -/
@[simp] theorem lev_nil_right (xs : List α) : lev xs [] = xs.length := by
  cases xs <;> simp [lev]

private theorem edits_lev (xs ys : List α) : Edits (lev xs ys) xs ys := by
  fun_induction lev xs ys with
  | case1 ys =>
    induction ys with
    | nil => exact .refl _
    | cons y ys ih => exact .head (.insertion [] [] y) (ih.cons y)
  | case2 x xs =>
    induction x :: xs with
    | nil => exact .refl _
    | cons x xs ih => exact .head (.deletion [] xs x) ih
  | case3 x xs y ys ihd ihi ihs =>
    rcases min_choice (min (lev xs (y :: ys) + 1) (lev (x :: xs) ys + 1))
      (lev xs ys + if x = y then 0 else 1) with h | h
    · rw [h]
      rcases min_choice (lev xs (y :: ys) + 1) (lev (x :: xs) ys + 1) with h | h
      · rw [h]
        exact .head (.deletion [] xs x) ihd
      · rw [h]
        exact .head (.insertion [] (x :: xs) y) (ihi.cons y)
    · rw [h]
      split
      · next hxy =>
        subst hxy
        exact ihs.cons x
      · exact .head (.substitution [] xs x y) (ihs.cons y)

private theorem lev_self (xs : List α) : lev xs xs = 0 := by
  induction xs with
  | nil => simp
  | cons x xs ih => simp [lev, ih]

private theorem lev_cons_left_le (x : α) (xs ys : List α) : lev (x :: xs) ys ≤ lev xs ys + 1 := by
  cases ys with
  | nil => simp
  | cons y ys =>
    rw [lev]
    omega

private theorem lev_cons_right_le (xs : List α) (y : α) (ys : List α) :
    lev xs (y :: ys) ≤ lev xs ys + 1 := by
  cases xs with
  | nil => simp [lev]
  | cons x xs =>
    rw [lev]
    omega

private theorem lev_le_cons_left (x : α) (xs ys : List α) : lev xs ys ≤ lev (x :: xs) ys + 1 := by
  induction ys with
  | nil =>
    simp only [lev_nil_right, length_cons]
    omega
  | cons y ys ih =>
    have h := lev_cons_right_le xs y ys
    rw [lev]
    omega

private theorem lev_replace_le (x y : α) (xs zs : List α) :
    lev (x :: xs) zs ≤ lev (y :: xs) zs + 1 := by
  induction zs with
  | nil => simp
  | cons z zs ih =>
    rw [lev, lev]
    split <;> omega

private theorem lev_cons_le (x : α) (h : ∀ zs, lev xs zs ≤ lev ys zs + 1) (zs : List α) :
    lev (x :: xs) zs ≤ lev (x :: ys) zs + 1 := by
  induction zs with
  | nil => simpa using h []
  | cons z zs ih =>
    have h₁ := h (z :: zs)
    have h₂ := h zs
    rw [lev, lev]
    omega

private theorem lev_append_le (l : List α) (h : ∀ zs, lev xs zs ≤ lev ys zs + 1) (zs : List α) :
    lev (l ++ xs) zs ≤ lev (l ++ ys) zs + 1 := by
  induction l generalizing zs with
  | nil => exact h zs
  | cons x l ih => exact lev_cons_le x ih zs

private theorem lev_le_of_edit (h : Edit xs ys) (zs : List α) : lev xs zs ≤ lev ys zs + 1 := by
  cases h with
  | insertion l r x => exact lev_append_le l (lev_le_cons_left x r) zs
  | deletion l r x => exact lev_append_le l (lev_cons_left_le x r) zs
  | substitution l r x y => exact lev_append_le l (lev_replace_le x y r) zs

private theorem lev_le_of_edits (h : Edits n xs ys) : lev xs ys ≤ n := by
  induction h with
  | refl xs => exact (lev_self xs).le
  | head h _ ih => exact (lev_le_of_edit h _).trans (by omega)

/-- The recursion gives the least number of edits. -/
theorem isLeast_lev (xs ys : List α) : IsLeast {n | Edits n xs ys} (lev xs ys) :=
  ⟨edits_lev xs ys, fun _ => lev_le_of_edits⟩

end DoraSpec.Base
