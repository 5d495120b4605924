import Mathlib.Data.List.Perm.Basic

/-!
# Bounded queues with protected elements

A first-in first-out queue over an arbitrary element type with a soft capacity. An arrival at
a full queue costs one element: the oldest unprotected one, else the arrival itself when it is
unprotected, else the oldest element. `offer` is the queue afterwards and `victim` what it cost.
-/

namespace DoraSpec.Base.ProtectedQueue

open List

universe u

variable {α : Type u} (keep : α → Bool)

/-- Queue after an arrival. -/
def offer (cap : Nat) (q : List α) (x : α) : List α :=
  if q.length < cap then q ++ [x]
  else match q.findIdx? (fun y => !keep y) with
    | some i => q.eraseIdx i ++ [x]
    | none => if keep x then q.tail ++ [x] else q

/-- Element given up for an arrival, if any. -/
def victim (cap : Nat) (q : List α) (x : α) : Option α :=
  if q.length < cap then none
  else match q.findIdx? (fun y => !keep y) with
    | some i => q[i]?
    | none => if keep x then q.head? else some x

/-- The three ways an arrival can change the queue, with everything each of them implies. -/
theorem offer_cases (cap : Nat) (q : List α) (x : α) :
    (q.length < cap ∧ offer keep cap q x = q ++ [x] ∧ victim keep cap q x = none) ∨
    (∃ front y back, cap ≤ q.length ∧ q = front ++ y :: back ∧ keep y = false ∧
      offer keep cap q x = front ++ back ++ [x] ∧ victim keep cap q x = some y) ∨
    (cap ≤ q.length ∧ (∀ y ∈ q, keep y = true) ∧
      (keep x = false ∧ offer keep cap q x = q ∧ victim keep cap q x = some x ∨
        keep x = true ∧ offer keep cap q x = q.tail ++ [x] ∧ victim keep cap q x = q.head?)) := by
  unfold offer victim
  by_cases hc : q.length < cap
  · exact .inl ⟨hc, by simp [hc], by simp [hc]⟩
  · right
    simp only [hc, ↓reduceIte]
    cases hi : q.findIdx? (fun y => !keep y) with
    | some i =>
      left
      obtain ⟨hlt, hy, -⟩ := findIdx?_eq_some_iff_getElem.mp hi
      refine ⟨q.take i, q[i], q.drop (i + 1), by omega, ?_, by simpa using hy, ?_, ?_⟩
      · rw [getElem_cons_drop, take_append_drop]
      · change q.eraseIdx i ++ [x] = _
        rw [eraseIdx_eq_take_drop_succ]
      · exact getElem?_eq_getElem hlt
    | none =>
      right
      have hk : ∀ y ∈ q, keep y = true := by
        intro y hy
        have := findIdx?_eq_none_iff.mp hi y hy
        simpa using this
      refine ⟨by omega, hk, ?_⟩
      cases hx : keep x with
      | false | true => simp

/-- Nothing is invented or lost: the new queue and the victim rearrange the old queue and
the arrival. -/
theorem offer_victim_perm (cap : Nat) (q : List α) (x : α) :
    (offer keep cap q x ++ (victim keep cap q x).toList).Perm (q ++ [x]) := by
  obtain ⟨-, ha, hv⟩ | ⟨front, y, back, -, rfl, -, ha, hv⟩ |
    ⟨-, -, ⟨-, ha, hv⟩ | ⟨-, ha, hv⟩⟩ := offer_cases keep cap q x
  · rw [ha, hv]
    simp
  · rw [ha, hv, append_assoc front, append_assoc front, append_assoc front]
    apply List.Perm.append_left
    exact perm_append_singleton y (back ++ [x])
  · rw [ha, hv]
    simp
  · rw [ha, hv]
    cases q with
    | nil => simp
    | cons y rest => exact perm_append_singleton y (rest ++ [x])

/-- Arrival order is kept. -/
theorem offer_sublist (cap : Nat) (q : List α) (x : α) :
    (offer keep cap q x).Sublist (q ++ [x]) := by
  obtain ⟨-, ha, -⟩ | ⟨front, y, back, -, rfl, -, ha, -⟩ |
    ⟨-, -, ⟨-, ha, -⟩ | ⟨-, ha, -⟩⟩ := offer_cases keep cap q x
  · rw [ha]
  · rw [ha]
    apply List.Sublist.append_right
    apply List.Sublist.append_left
    exact sublist_cons_self y back
  · rw [ha]
    exact sublist_append_left q [x]
  · rw [ha]
    apply List.Sublist.append_right
    exact tail_sublist q

/-- A full queue gives up an element, except when it is empty and the arrival is protected. -/
theorem length_victim (cap : Nat) (q : List α) (x : α) :
    (victim keep cap q x).toList.length =
      if cap ≤ q.length ∧ ¬ (q = [] ∧ keep x = true) then 1 else 0 := by
  obtain ⟨hc, -, hv⟩ | ⟨front, y, back, hc, rfl, -, -, hv⟩ |
    ⟨hc, -, ⟨hx, -, hv⟩ | ⟨hx, -, hv⟩⟩ := offer_cases keep cap q x
  · have hn : ¬ cap ≤ q.length := by omega
    simp [hv, hn]
  · rw [hv, if_pos ⟨hc, by simp⟩]
    rfl
  · rw [hv, if_pos ⟨hc, by simp [hx]⟩]
    rfl
  · rw [hv]
    cases q with
    | nil => simp [hx]
    | cons y rest =>
      rw [if_pos ⟨hc, by simp⟩]
      rfl

variable {cap : Nat} {q : List α}

/-- A protected element is given up only by a full queue of protected elements to a protected
arrival, and then it is the oldest element. -/
theorem victim_keep {x v : α} (hv : victim keep cap q x = some v) (hk : keep v = true) :
    cap ≤ q.length ∧ (∀ y ∈ q, keep y = true) ∧ keep x = true ∧ q.head? = some v ∧
      offer keep cap q x = q.tail ++ [x] := by
  obtain ⟨-, -, hn⟩ | ⟨front, y, back, -, -, hy, -, hn⟩ |
    ⟨hc, ha, ⟨hx, -, hn⟩ | ⟨hx, he, hn⟩⟩ := offer_cases keep cap q x
  · simp [hn] at hv
  · rw [hn] at hv
    cases hv
    simp [hy] at hk
  · rw [hn] at hv
    cases hv
    simp [hx] at hk
  · rw [hn] at hv
    exact ⟨hc, ha, hx, hv, he⟩

/-- Within its bounds: at most the capacity, but one protected element always fits. -/
def Bounded (cap : Nat) (q : List α) : Prop :=
  q.length ≤ max cap 1 ∧ (cap = 0 → ∀ y ∈ q, keep y = true)

/-- An empty queue is within its bounds. -/
theorem bounded_nil (cap : Nat) : Bounded keep cap [] := by
  simp [Bounded]

/-- Removing elements keeps a queue within its bounds. -/
theorem Bounded.sublist {r : List α} (h : Bounded keep cap q) (hs : r.Sublist q) :
    Bounded keep cap r :=
  ⟨Nat.le_trans hs.length_le h.1, fun hc y hy => h.2 hc y (hs.subset hy)⟩

/-- Arrivals keep a queue within its bounds. -/
theorem Bounded.offer (h : Bounded keep cap q) (x : α) :
    Bounded keep cap (offer keep cap q x) := by
  obtain ⟨hl, hk⟩ := h
  obtain ⟨hc, ha, -⟩ | ⟨front, y, back, hc, rfl, hy, ha, -⟩ |
    ⟨hc, hq, ⟨hx, ha, -⟩ | ⟨hx, ha, -⟩⟩ := offer_cases keep cap q x
  · rw [ha]
    refine ⟨?_, by omega⟩
    rw [length_append, length_singleton]
    omega
  · rw [ha]
    -- an unprotected queued element means the capacity is not zero
    have hp : cap ≠ 0 := by
      intro hz
      have := hk hz y (by simp)
      simp [hy] at this
    refine ⟨?_, fun hz => absurd hz hp⟩
    simp only [length_append, length_cons, length_nil] at hl ⊢
    omega
  · rw [ha]
    exact ⟨hl, hk⟩
  · rw [ha]
    constructor
    · simp only [length_append, length_tail, length_singleton]
      omega
    · intro _ y hy
      rcases mem_append.mp hy with hm | hm
      · exact hq y (mem_of_mem_tail hm)
      · rw [mem_singleton.mp hm]
        exact hx

/-- An arrival leaves the queue empty only when it is itself rejected by an empty queue. -/
theorem offer_eq_nil {x : α} (h : offer keep cap q x = []) :
    q = [] ∧ cap = 0 ∧ keep x = false := by
  obtain ⟨-, ha, -⟩ | ⟨front, y, back, -, -, -, ha, -⟩ |
    ⟨hc, -, ⟨hx, ha, -⟩ | ⟨-, ha, -⟩⟩ := offer_cases keep cap q x
  · simp [ha] at h
  · simp [ha] at h
  · rw [ha] at h
    subst h
    exact ⟨rfl, by simpa using hc, hx⟩
  · simp [ha] at h

/-- Discard the unprotected elements. -/
def flush (q : List α) : List α := q.filter keep

/-- A flush of a queue within zero capacity discards nothing. -/
theorem Bounded.flush_eq_self (h : Bounded keep 0 q) : flush keep q = q :=
  filter_eq_self.mpr (h.2 rfl)

/-- A queue that a flush leaves full held protected elements only. -/
theorem Bounded.all_keep_of_flush (h : Bounded keep cap q) (hf : cap ≤ (flush keep q).length) :
    ∀ y ∈ q, keep y = true := by
  by_cases hz : cap = 0
  · exact h.2 hz
  · have hl : (flush keep q).length = q.length := by
      have := (filter_sublist (p := keep) (l := q)).length_le
      have hm := h.1
      rw [flush] at hf ⊢
      omega
    exact length_filter_eq_length_iff.mp hl

end DoraSpec.Base.ProtectedQueue
