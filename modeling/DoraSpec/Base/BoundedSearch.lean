import Mathlib.Algebra.Order.BigOperators.Group.List
import Mathlib.Algebra.Order.Ring.Nat

/-!
# Breadth-first search with a depth limit

A queue holds the vertices that were found, with their depths, and the neighbours of a vertex are
compared with the target before they are queued. The search finds the target exactly if some walk
of at most the limit leads there, since vertices are found at their distance from the start.
-/

namespace DoraSpec.Base.BoundedSearch

open List

universe u

variable {α : Type u} [DecidableEq α]

/-- Walks by their length. -/
inductive Walk (next : α → List α) (start : α) : Nat → α → Prop
  | refl : Walk next start 0 start
  | step {n : Nat} {a b : α} : Walk next start n a → b ∈ next a → Walk next start (n + 1) b

/-- Queue the new ones of some neighbours, unless the target is among them. -/
def scan (target : α) (depth : Nat) :
    List α → List (α × Nat) → List α → Option (List (α × Nat) × List α)
  | [], queue, visited => some (queue, visited)
  | a :: rest, queue, visited =>
    if a = target then none
    else if a ∈ visited then scan target depth rest queue visited
    else scan target depth rest (queue ++ [(a, depth + 1)]) (a :: visited)

variable {depth : Nat} {queue : List (α × Nat)} {visited : List α}

variable {queue' done : List (α × Nat)} {visited' : List α} {current : α}

private theorem scan_eq_some {target : α} {as : List α}
    (h : scan target depth as queue visited = some (queue', visited')) :
    ∃ new : List α, new.Sublist as ∧ queue' = queue ++ new.map (·, depth + 1) ∧
      (∀ a ∈ as, a ≠ target ∧ (a ∈ visited ∨ a ∈ new)) ∧ ∀ a ∈ visited', a ∈ visited ∨ a ∈ new := by
  induction as generalizing queue visited with
  | nil =>
    obtain ⟨rfl, rfl⟩ := Prod.mk.inj (Option.some.inj h)
    exact ⟨[], .slnil, by simp, by simp, by simp⟩
  | cons a as ih =>
    rw [scan] at h
    split at h
    · cases h
    next hne =>
    split at h
    · next hseen =>
      obtain ⟨new, hsub, hqueue, has, hvisited⟩ := ih h
      exact ⟨new, hsub.cons a, hqueue, forall_mem_cons.mpr ⟨⟨hne, .inl hseen⟩, has⟩, hvisited⟩
    · obtain ⟨new, hsub, hqueue, has, hvisited⟩ := ih h
      refine ⟨a :: new, hsub.cons_cons a, by simpa using hqueue, ?_, ?_⟩
      · refine forall_mem_cons.mpr ⟨⟨hne, .inr mem_cons_self⟩, fun b hb => ⟨(has b hb).1, ?_⟩⟩
        have := (has b hb).2
        grind
      · intro b hb
        have := hvisited b hb
        grind

private theorem scan_eq_none {target : α} {as : List α}
    (h : scan target depth as queue visited = none) :
    target ∈ as := by
  induction as generalizing queue visited with
  | nil => cases h
  | cons a as ih =>
    rw [scan] at h
    split at h
    · next heq => exact heq ▸ mem_cons_self
    · split at h
      · exact mem_cons_of_mem _ (ih h)
      · exact mem_cons_of_mem _ (ih h)

/-- Number of walks of at most a length, which bounds how often the search goes on from a vertex. -/
def walkCount (next : α → List α) : Nat → α → Nat
  | 0, _ => 1
  | n + 1, a => 1 + ((next a).map (walkCount next n)).sum

variable (next : α → List α) (limit : Nat) (target : α)

/-- Work that is left for a queue. -/
def work (queue : List (α × Nat)) : Nat :=
  (queue.map fun e => walkCount next (limit - e.2) e.1).sum

private theorem work_scan_lt (hdepth : ¬ limit ≤ depth)
    (h : scan target depth (next current) queue visited = some (queue', visited')) :
    work next limit queue' < work next limit ((current, depth) :: queue) := by
  obtain ⟨new, hsub, rfl, -, -⟩ := scan_eq_some h
  obtain ⟨n, hn⟩ : ∃ n, limit - depth = n + 1 := ⟨limit - depth - 1, by omega⟩
  have hn' : limit - (depth + 1) = n := by omega
  have hle : (new.map fun a => walkCount next n a).sum ≤ ((next current).map (walkCount next n)).sum :=
    (hsub.map (walkCount next n)).sum_le_sum (by simp)
  simp only [work, map_append, sum_append, map_cons, sum_cons, map_map,
    Function.comp_def, hn, hn', walkCount]
  omega

/-- Go on with the first vertex of the queue. -/
def search (queue : List (α × Nat)) (visited : List α) : Bool :=
  match queue with
  | [] => false
  | (current, depth) :: queue =>
    if limit ≤ depth then search queue visited
    else
      match _h : scan target depth (next current) queue visited with
      | none => true
      | some (queue', visited') => search queue' visited'
termination_by work next limit queue
decreasing_by
  · cases hn : limit - depth <;> simp only [work, walkCount, hn, List.map_cons, List.sum_cons] <;>
      omega
  · exact work_scan_lt next limit target ‹_› ‹_›

/-- The target is found from the start. -/
def reaches (start : α) : Bool := search next limit target [(start, 0)] [start]

variable {next limit target} {start : α}

private theorem search_sound (hqueue : ∀ e ∈ queue, Walk next start e.2 e.1)
    (h : search next limit target queue visited = true) :
    ∃ n, n < limit ∧ Walk next start (n + 1) target := by
  fun_induction search next limit target queue visited with
  | case1 => cases h
  | case2 visited current depth queue hdepth ih =>
    exact ih (fun e he => hqueue e (mem_cons_of_mem _ he)) h
  | case3 visited current depth queue hdepth hscan =>
    exact ⟨depth, by omega, (hqueue _ mem_cons_self).step (scan_eq_none hscan)⟩
  | case4 visited current depth queue hdepth queue' visited' hscan ih =>
    obtain ⟨new, hsub, rfl, -, -⟩ := scan_eq_some hscan
    refine ih (fun e he => ?_) h
    rcases mem_append.mp he with he | he
    · exact hqueue e (mem_cons_of_mem _ he)
    · obtain ⟨a, ha, rfl⟩ := mem_map.mp he
      exact (hqueue _ mem_cons_self).step (hsub.subset ha)

/-- Neighbours of the vertices that were dealt with are found, one deeper at most, and none of them
is the target. -/
def Closed (next : α → List α) (limit : Nat) (target : α) (done found : List (α × Nat)) : Prop :=
  ∀ e ∈ done, e.2 < limit → ∀ a ∈ next e.1, a ≠ target ∧ ∃ d ≤ e.2 + 1, (a, d) ∈ found

/-- State of a search that has found the vertices of its queue in the order of their depths. -/
structure Layered (next : α → List α) (limit : Nat) (target : α) (done queue : List (α × Nat))
    (visited : List α) : Prop where
  closed : Closed next limit target done (done ++ queue)
  sorted : queue.Pairwise (·.2 ≤ ·.2)
  near : ∀ e ∈ done ++ queue, ∀ q ∈ queue, e.2 ≤ q.2 + 1
  visited_found : ∀ a ∈ visited, ∃ d, (a, d) ∈ done ++ queue

omit [DecidableEq α] in
private theorem Layered.skip (h : Layered next limit target done ((current, depth) :: queue) visited)
    (hdepth : limit ≤ depth) :
    Layered next limit target (done ++ [(current, depth)]) queue visited := by
  have hsplit : done ++ [(current, depth)] ++ queue = done ++ (current, depth) :: queue := by simp
  constructor
  · intro e he hlt a ha
    rcases mem_append.mp he with he | he
    · exact hsplit ▸ h.closed e he hlt a ha
    · obtain rfl := mem_singleton.mp he
      exact absurd hlt (not_lt.mpr hdepth)
  · exact h.sorted.of_cons
  · exact fun e he q hq => h.near e (hsplit ▸ he) q (mem_cons_of_mem _ hq)
  · exact hsplit ▸ h.visited_found

private theorem Layered.follow (h : Layered next limit target done ((current, depth) :: queue) visited)
    (hscan : scan target depth (next current) queue visited = some (queue', visited')) :
    Layered next limit target (done ++ [(current, depth)]) queue' visited' := by
  obtain ⟨new, -, rfl, hall, hvisited⟩ := scan_eq_some hscan
  have hsplit : done ++ [(current, depth)] ++ (queue ++ new.map (·, depth + 1)) =
      (done ++ (current, depth) :: queue) ++ new.map (·, depth + 1) := by simp
  have hold {e : α × Nat} (he : e ∈ done ++ (current, depth) :: queue) : e.2 ≤ depth + 1 :=
    h.near e he _ mem_cons_self
  have hrest {q : α × Nat} (hq : q ∈ queue) : depth ≤ q.2 := rel_of_pairwise_cons h.sorted hq
  have hnew {e : α × Nat} (he : e ∈ new.map (·, depth + 1)) : e.2 = depth + 1 := by
    obtain ⟨a, -, rfl⟩ := mem_map.mp he
    rfl
  constructor
  · rw [hsplit]
    intro e he hlt a ha
    rcases mem_append.mp he with he | he
    · obtain ⟨hne, d, hd, hfound⟩ := h.closed e he hlt a ha
      exact ⟨hne, d, hd, mem_append_left _ hfound⟩
    · obtain rfl := mem_singleton.mp he
      obtain ⟨hne, hseen | hfresh⟩ := hall a ha
      · obtain ⟨d, hd⟩ := h.visited_found a hseen
        exact ⟨hne, d, hold hd, mem_append_left _ hd⟩
      · exact ⟨hne, depth + 1, le_rfl, mem_append_right _ (mem_map_of_mem hfresh)⟩
  · refine pairwise_append.mpr ⟨h.sorted.of_cons, ?_, fun e he q hq => ?_⟩
    · exact pairwise_map.mpr (pairwise_of_forall fun _ _ => le_rfl)
    · rw [hnew hq]
      exact hold (mem_append_right _ (mem_cons_of_mem _ he))
  · rw [hsplit]
    intro e he q hq
    have hle : e.2 ≤ depth + 1 := by
      rcases mem_append.mp he with he | he
      · exact hold he
      · exact (hnew he).le
    rcases mem_append.mp hq with hq | hq
    · have := hrest hq
      omega
    · rw [hnew hq]
      omega
  · rw [hsplit]
    intro a ha
    rcases hvisited a ha with ha | ha
    · obtain ⟨d, hd⟩ := h.visited_found a ha
      exact ⟨d, mem_append_left _ hd⟩
    · exact ⟨depth + 1, mem_append_right _ (mem_map_of_mem ha)⟩

private theorem search_complete (hinv : Layered next limit target done queue visited)
    (h : search next limit target queue visited = false) :
    ∃ found, done ++ queue ⊆ found ∧ Closed next limit target found found := by
  fun_induction search next limit target queue visited generalizing done with
  | case1 => exact ⟨done, by simp, by simpa using hinv.closed⟩
  | case2 visited current depth queue hdepth ih =>
    obtain ⟨found, hsub, hclosed⟩ := ih (hinv.skip hdepth) h
    exact ⟨found, by simpa using hsub, hclosed⟩
  | case3 => cases h
  | case4 visited current depth queue hdepth queue' visited' hscan ih =>
    obtain ⟨found, hsub, hclosed⟩ := ih (hinv.follow hscan) h
    obtain ⟨new, -, rfl, -, -⟩ := scan_eq_some hscan
    refine ⟨found, fun e he => hsub ?_, hclosed⟩
    simp only [mem_append, mem_cons, not_mem_nil, or_false] at he ⊢
    tauto

/-- The search finds the target exactly if a walk of at most the limit leads there. -/
theorem reaches_iff :
    reaches next limit target start = true ↔ ∃ n, n < limit ∧ Walk next start (n + 1) target := by
  refine ⟨search_sound (by simpa using Walk.refl), fun ⟨n, hn, hwalk⟩ => ?_⟩
  by_contra hfalse
  have hinit : Layered next limit target [] [(start, 0)] [start] := by
    constructor <;> simp [Closed]
  obtain ⟨found, hsub, hclosed⟩ := search_complete hinit (by simpa [reaches] using hfalse)
  have hfound {k : Nat} {a : α} (hk : k ≤ limit) (hw : Walk next start k a) :
      ∃ d ≤ k, (a, d) ∈ found := by
    induction hw with
    | refl => exact ⟨0, le_rfl, hsub mem_cons_self⟩
    | step hw hstep ih =>
      obtain ⟨d, hd, hmem⟩ := ih (by omega)
      obtain ⟨-, d', hd', hmem'⟩ := hclosed _ hmem (by dsimp only; omega) _ hstep
      exact ⟨d', by dsimp only at hd'; omega, hmem'⟩
  cases hwalk with
  | step hw hstep =>
    obtain ⟨d, hd, hmem⟩ := hfound (by omega) hw
    exact (hclosed _ hmem (by dsimp only; omega) _ hstep).1 rfl

end DoraSpec.Base.BoundedSearch
