import Mathlib.Data.List.Nodup

/-!
# Least-recently-used order

A list without repetitions orders the members of a group by their last turn, oldest first. A
turn moves one member to the end. The members ahead of a waiting member are its potential: a
turn of one of them lowers it and nothing raises it.
-/

namespace DoraSpec.Base.Recency

open List

universe u

variable {α : Type u} [DecidableEq α]

/-- Members whose turn comes before the one of `b`. -/
def ahead (b : α) (l : List α) : List α := l.takeWhile (fun a => !decide (a = b))

private theorem ahead_append_cons (b : α) (front back : List α) (hb : b ∉ front) :
    ahead b (front ++ b :: back) = front := by
  induction front with
  | nil => simp [ahead]
  | cons a front ih =>
    have hne : a ≠ b := fun he => hb (by simp [he])
    have := ih (fun hm => hb (mem_cons_of_mem a hm))
    simp only [ahead] at this
    simp [ahead, hne, this]

/-- A new member queues up behind a waiting one. -/
theorem ahead_append (b : α) (l r : List α) (hb : b ∈ l) : ahead b (l ++ r) = ahead b l := by
  obtain ⟨front, back, rfl, hf⟩ := eq_append_cons_of_mem hb
  rw [append_assoc, cons_append, ahead_append_cons b _ _ hf,
    ahead_append_cons b _ _ hf]

/-- A turn of a member ahead of `b` lowers the potential of `b` by that member. -/
theorem countP_ahead_serve (p : α → Bool) (b j : α) (front back : List α) (hf : b ∉ front)
    (hb : b ∈ back) (hj : j ≠ b) (hp : p j = true) :
    (ahead b (front ++ back ++ [j])).countP p + 1 = (ahead b (front ++ j :: back)).countP p := by
  obtain ⟨mid, rest, rfl, hm⟩ := eq_append_cons_of_mem hb
  have h1 : front ++ (mid ++ b :: rest) ++ [j] = (front ++ mid) ++ b :: (rest ++ [j]) := by simp
  have h2 : front ++ j :: (mid ++ b :: rest) = (front ++ j :: mid) ++ b :: rest := by simp
  rw [h1, h2, ahead_append_cons _ _ _ (by simp [hf, hm]),
    ahead_append_cons _ _ _ (by simp [hf, hm, hj.symm])]
  simp only [countP_append, countP_cons, hp, ↓reduceIte]
  omega

/-- The members ahead of a member are at most all others. -/
theorem countP_ahead_lt (p : α → Bool) (b : α) (l : List α) (hb : b ∈ l) (hp : p b = true) :
    (ahead b l).countP p < l.countP p := by
  obtain ⟨front, back, rfl, hf⟩ := eq_append_cons_of_mem hb
  rw [ahead_append_cons b _ _ hf, countP_append, countP_cons, if_pos hp]
  omega

end DoraSpec.Base.Recency
