import Mathlib.Data.List.Basic
import Mathlib.Data.List.TakeWhile

/-!
# Excerpts of a numbered log

Operations are numbered from one in the order in which they were made. An excerpt holds some
operations that follow each other, with their numbers. Dropping a front part, keeping what comes
after a number and keeping a front part give excerpts again.
-/

namespace DoraSpec.Base.SequencedLog

open List

universe u

variable {α : Type u}

/-- A list agrees with its front part. -/
theorem getElem?_of_isPrefix {front l : List α} (h : front <+: l) {i : Nat} (hi : i < front.length) :
    l[i]? = front[i]? := by
  obtain ⟨rest, rfl⟩ := h
  exact getElem?_append_left hi

/-- Operation with its number. -/
structure Entry (α : Type u) where
  sequence : Nat
  operation : α
  deriving DecidableEq

/-- The entries are those that follow the first `start` operations. -/
def Excerpt (all : List α) (start : Nat) (entries : List (Entry α)) : Prop :=
  ∀ m e, entries[m]? = some e → e.sequence = start + m + 1 ∧ all[start + m]? = some e.operation

variable {all : List α} {start : Nat} {entries : List (Entry α)}

/-- The empty excerpt. -/
theorem excerpt_nil : Excerpt all start [] := by simp [Excerpt]

variable (h : Excerpt all start entries)
include h

/-- New operations do not change an excerpt. -/
theorem Excerpt.mono {all' : List α} (hall : all <+: all') : Excerpt all' start entries := by
  intro m e he
  obtain ⟨hs, ho⟩ := h m e he
  exact ⟨hs, by rw [getElem?_of_isPrefix hall (List.getElem?_eq_some_iff.mp ho).1, ho]⟩

/-- A new operation extends an excerpt that reaches the end. -/
theorem Excerpt.concat (hend : start + entries.length = all.length)
    (op : α) : Excerpt (all ++ [op]) start (entries ++ [⟨all.length + 1, op⟩]) := by
  intro m e he
  rcases Nat.lt_or_ge m entries.length with hm | hm
  · rw [getElem?_append_left hm] at he
    exact h.mono (prefix_append _ _) m e he
  · rw [getElem?_append_right hm, getElem?_singleton] at he
    split at he
    · next hz =>
      cases he
      have hstart : start + m = all.length := by omega
      simp [hstart]
    · cases he

/-- The end of an excerpt is one. -/
theorem Excerpt.drop (n : Nat) : Excerpt all (start + n) (entries.drop n) := by
  intro m e he
  rw [getElem?_drop] at he
  simpa only [Nat.add_assoc] using h (n + m) e he

/-- A front part of an excerpt starts at the same operation. -/
theorem Excerpt.of_isPrefix {front : List (Entry α)}
    (hfront : front <+: entries) : Excerpt all start front := by
  intro m e he
  exact h m e (by rw [getElem?_of_isPrefix hfront (List.getElem?_eq_some_iff.mp he).1, he])

/-- Keeping the entries after a number drops a front part. -/
theorem Excerpt.filter_lt (n : Nat) :
    entries.filter (fun e => n < e.sequence) = entries.drop (n - start) := by
  induction entries generalizing start with
  | nil => simp
  | cons e entries ih =>
    have hhead : e.sequence = start + 1 := (h 0 e rfl).1
    have htail : Excerpt all (start + 1) entries := h.drop 1
    rw [filter_cons, ih htail, hhead]
    rcases Nat.lt_or_ge n (start + 1) with hn | hn
    · have h0 : n - start = 0 := by omega
      have h1 : n - (start + 1) = 0 := by omega
      simp [hn, h0, h1]
    · have hs : n - start = (n - (start + 1)) + 1 := by omega
      rw [hs, drop_succ_cons, if_neg (by simpa using hn)]

/-- The last entry of an excerpt has the number of the operations up to it. -/
theorem Excerpt.sequence_getLast {e : Entry α} (he : entries.getLast? = some e) :
    e.sequence = start + entries.length ∧ start + entries.length ≤ all.length := by
  rw [getLast?_eq_getElem?] at he
  obtain ⟨hs, ho⟩ := h _ e he
  have hlen := (List.getElem?_eq_some_iff.mp he).1
  have hall := (List.getElem?_eq_some_iff.mp ho).1
  omega

end DoraSpec.Base.SequencedLog
