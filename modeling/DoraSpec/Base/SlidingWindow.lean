import Mathlib.Data.List.Basic

/-!
# Events in sliding intervals

How many of some times are in an interval of a given length, wherever it starts.
-/

namespace DoraSpec.Base.SlidingWindow

open List

/-- Times in the closed interval of a length. -/
def within (length start : Nat) (times : List Nat) : List Nat :=
  times.filter fun t => start ≤ t ∧ t ≤ start + length

/-- Every interval of the length holds at most so many of the times. -/
def AtMost (length bound : Nat) (times : List Nat) : Prop :=
  ∀ start, (within length start times).length ≤ bound

/-- Few times are few in any window. -/
theorem atMost_of_length_le {length bound : Nat} {times : List Nat} (h : times.length ≤ bound) :
    AtMost length bound times :=
  fun _ => Nat.le_trans (length_filter_le _ _) h

/-- The latest times count only with those that are not further back than the length. -/
theorem AtMost.append {length bound : Nat} {latest previous older : List Nat}
    (h : AtMost length bound (previous ++ older)) (hlen : latest.length + previous.length ≤ bound)
    (hapart : ∀ t ∈ latest, ∀ u ∈ older, u + length < t) :
    AtMost length bound (latest ++ (previous ++ older)) := by
  intro start
  rw [within, filter_append, length_append]
  by_cases hnone : latest.filter (fun t => start ≤ t ∧ t ≤ start + length) = []
  · rw [hnone, length_nil, Nat.zero_add]
    exact h start
  · -- some of the latest times are in the interval, which does not reach back to the older ones
    obtain ⟨t, ht⟩ := exists_mem_of_ne_nil _ hnone
    obtain ⟨hmem, ht⟩ := mem_filter.mp ht
    have hlate : t ≤ start + length := (of_decide_eq_true ht).2
    have holder : older.filter (fun t => start ≤ t ∧ t ≤ start + length) = [] := by
      refine filter_eq_nil_iff.mpr fun u hu => ?_
      have := hapart t hmem u hu
      simp only [decide_eq_true_eq]
      omega
    have h₁ := length_filter_le (fun t => decide (start ≤ t ∧ t ≤ start + length)) latest
    have h₂ := length_filter_le (fun t => decide (start ≤ t ∧ t ≤ start + length)) previous
    rw [filter_append, holder, append_nil]
    omega

end DoraSpec.Base.SlidingWindow
