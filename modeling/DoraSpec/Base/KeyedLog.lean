import Mathlib.Data.List.Induction

/-!
# Logs of keyed messages

A log holds messages, oldest first, each about one key. What a reader of the log knows about a
key is the latest message about it.
-/

namespace DoraSpec.Base.KeyedLog

open List

universe u v

variable {κ : Type u} {μ : Type v} [DecidableEq κ] (key : μ → κ)

/-- Latest message about a key. -/
def latest (k : κ) (log : List μ) : Option μ := log.reverse.find? fun m => key m = k

/-- An empty log has no value. -/
@[simp] theorem latest_nil (k : κ) : latest key k [] = none := rfl

/-- A new message is the latest one about its key, and no other key is concerned. -/
theorem latest_concat (k : κ) (log : List μ) (m : μ) :
    latest key k (log ++ [m]) = if key m = k then some m else latest key k log := by
  simp only [latest, reverse_append, reverse_singleton, singleton_append,
    List.find?_cons]
  split <;> simp_all

/-- The latest message about a key is about that key. -/
theorem key_of_latest {k : κ} {log : List μ} {m : μ} (h : latest key k log = some m) :
    key m = k := by
  simpa using List.find?_some h

/-- The latest message about a key comes after every message about it. -/
theorem exists_latest {k : κ} {log : List μ} {i : Nat} {m : μ} (hm : log[i]? = some m)
    (hk : key m = k) : ∃ j m', latest key k log = some m' ∧ log[j]? = some m' ∧ i ≤ j := by
  induction log using reverseRecOn with
  | nil => simp at hm
  | append_singleton log last ih =>
    rw [latest_concat]
    have hi : i < log.length + 1 := by simpa using (List.getElem?_eq_some_iff.mp hm).1
    split
    · exact ⟨log.length, last, rfl, by simp, by omega⟩
    · next hlast =>
      rcases Nat.lt_or_ge i log.length with hlt | hge
      · obtain ⟨j, m', hlatest, hj, hij⟩ := ih (by rwa [getElem?_append_left hlt] at hm)
        refine ⟨j, m', hlatest, ?_, hij⟩
        rw [List.getElem?_append_left (List.getElem?_eq_some_iff.mp hj).1, hj]
      · -- the only message at this place is the new one, which is about another key
        obtain rfl : i = log.length := by omega
        simp only [getElem?_concat_length, Option.some.injEq] at hm
        exact absurd (hm ▸ hk) hlast

end DoraSpec.Base.KeyedLog
