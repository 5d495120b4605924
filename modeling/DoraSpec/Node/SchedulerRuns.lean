import DoraSpec.Node.Scheduler

/-!
# Runs of the scheduler

The scheduler as a machine over its three operations, started from any configuration of queue
sizes and policies, and the invariant of its reachable states: the order of service lists
every known input once, events are queued under their own key, and queues keep to their
capacity.
-/

namespace DoraSpec.Node
open Base Message List

namespace Scheduler

/-- Call of one of the three operations. -/
inductive Op where
  | addEvent (event : EventItem)
  | next
  | drainDropCounts

/-- Observable effect of one call. An arrival also shows how many events its flush marker
discarded, the `drained` of `scheduler.rs:230`. -/
inductive Out where
  | added (event : EventItem) (flushed : Nat)
  | yielded (event : Option EventItem)
  | drained (counts : AList fun _ : DataId => Nat)

/-- One call of an operation. -/
def step (s : Scheduler) : Op → Scheduler × Out
  | .addEvent event =>
    (s.addEvent event,
      .added event ((s.queueOf event.queueId).length - (s.flushedQueue event).length))
  | .next => (s.next.2, .yielded s.next.1)
  | .drainDropCounts => (s.drainDropCounts.1, .drained s.drainDropCounts.2)

/-- Empty queues of the configured sizes. -/
def emptyQueues (sizes : AList fun _ : DataId => Nat) : EventQueues where
  entries := sizes.entries.map (fun entry => ⟨entry.1, entry.2, []⟩)
  nodupKeys := by
    have h := sizes.nodupKeys
    simp only [List.NodupKeys, List.keys, List.map_map] at h ⊢
    exact h

/-- Freshly configured scheduler. -/
def init (sizes : AList fun _ : DataId => Nat)
    (queuePolicies : AList fun _ : DataId => QueuePolicy) : Scheduler :=
  withPolicies (emptyQueues sizes) queuePolicies

/-- Invariant of the reachable states. -/
structure WF (s : Scheduler) : Prop where
  nodup : s.lastUsed.Nodup
  known : ∀ i ∈ s.lastUsed, i ∈ s.eventQueues
  listed : ∀ i ∈ s.eventQueues, i ≠ nonInputEvent → i ∈ s.lastUsed
  sorted : ∀ i, ∀ event ∈ s.queueOf i, event.queueId = i
  bounded : ∀ i, ProtectedQueue.Bounded isCorrelated (s.capOf i) (s.queueOf i)

private theorem dlookup_emptyQueues (i : DataId) (l : List (Sigma fun _ : DataId => Nat)) :
    List.dlookup i (l.map (fun entry => (⟨entry.1, entry.2, []⟩ :
      Sigma fun _ : DataId => Nat × List EventItem))) =
      (List.dlookup i l).map (fun size => (size, [])) := by
  induction l with
  | nil => rfl
  | cons entry l ih =>
    obtain ⟨k, size⟩ := entry
    by_cases hk : k = i
    · subst hk
      simp
    · rw [map_cons, dlookup_cons_ne _ _ (Ne.symm hk), ih,
        dlookup_cons_ne _ _ (Ne.symm hk)]

variable (sizes : AList fun _ : DataId => Nat) (queuePolicies : AList fun _ : DataId => QueuePolicy)

/-- A fresh scheduler holds no event. -/
theorem queueOf_init (i : DataId) : (init sizes queuePolicies).queueOf i = [] := by
  have h : (init sizes queuePolicies).eventQueues.lookup i = _ :=
    dlookup_emptyQueues i sizes.entries
  unfold queueOf
  rw [h]
  cases dlookup i sizes.entries <;> rfl

/-- A fresh scheduler satisfies the invariant. -/
theorem wf_init : WF (init sizes queuePolicies) where
  nodup := (emptyQueues sizes).keys_nodup.filter _
  known i hi := (mem_filter.mp hi).1
  listed i hi hn := mem_filter.mpr ⟨hi, by simpa using hn⟩
  sorted i event he := by simp [queueOf_init] at he
  bounded i := by
    rw [queueOf_init]
    exact ProtectedQueue.bounded_nil _ _

/-- The queue found by the capacity check keeps some of the queued events, in order. -/
theorem flushedQueue_sublist (s : Scheduler) (event : EventItem) :
    (s.flushedQueue event).Sublist (s.queueOf event.queueId) := by
  unfold flushedQueue
  split
  · exact filter_sublist
  · exact List.Sublist.refl _

/-- Arrivals keep the invariant. -/
theorem WF.addEvent {s : Scheduler} (h : WF s) (event : EventItem) : WF (s.addEvent event) where
  nodup := by
    rw [lastUsed_addEvent]
    split
    · exact h.nodup
    · next hn =>
      have hl : event.queueId ∉ s.lastUsed := fun hm => hn (h.known _ hm)
      exact List.Nodup.append h.nodup (nodup_singleton _) (by simpa using hl)
  known i hi := by
    rw [lastUsed_addEvent] at hi
    rw [mem_addEvent]
    split at hi
    · exact .inr (h.known i hi)
    · rcases mem_append.mp hi with hm | hm
      · exact .inr (h.known i hm)
      · exact .inl (mem_singleton.mp hm)
  listed i hi hn := by
    rw [mem_addEvent] at hi
    rw [lastUsed_addEvent]
    by_cases hm : i ∈ s.eventQueues
    · have := h.listed i hm hn
      split
      · exact this
      · exact mem_append_left _ this
    · have he : i = event.queueId := hi.resolve_right hm
      subst he
      simp [hm]
  sorted i ev he := by
    rw [queueOf_addEvent] at he
    split at he
    · next hi =>
      subst hi
      have hm := (ProtectedQueue.offer_sublist _ _ _ _).subset he
      rcases mem_append.mp hm with hq | hx
      · exact h.sorted _ ev ((s.flushedQueue_sublist event).subset hq)
      · rw [mem_singleton.mp hx]
    · exact h.sorted i ev he
  bounded i := by
    rw [queueOf_addEvent, capOf_addEvent]
    split
    · next hi =>
      subst hi
      apply ProtectedQueue.Bounded.offer
      exact (h.bounded _).sublist _ (s.flushedQueue_sublist event)
    · exact h.bounded i

private theorem WF.popped {s s' : Scheduler} {id : DataId} {event : EventItem} (h : WF s)
    (hp : Popped s id event s') (hl : s'.lastUsed.Perm s.lastUsed) : WF s' where
  nodup := hl.nodup_iff.mpr h.nodup
  known i hi := (hp.known i).mpr (h.known i (hl.mem_iff.mp hi))
  listed i hi hn := hl.mem_iff.mpr (h.listed i ((hp.known i).mp hi) hn)
  sorted i ev he := by
    by_cases hi : i = id
    · subst hi
      exact h.sorted i ev (by rw [hp.queue]; exact mem_cons_of_mem _ he)
    · rw [hp.others i hi] at he
      exact h.sorted i ev he
  bounded i := by
    rw [hp.cap]
    by_cases hi : i = id
    · subst hi
      apply (h.bounded i).sublist
      rw [hp.queue]
      exact sublist_cons_self _ _
    · rw [hp.others i hi]
      exact h.bounded i

/-- Receives keep the invariant. -/
theorem WF.next {s : Scheduler} (h : WF s) : WF s.next.2 := by
  obtain ⟨hn, -, -⟩ | ⟨event, s', hn, hp, hl⟩ |
    ⟨front, id, back, event, s', hn, hp, -, hs, -, hl⟩ := next_cases s
  · rw [hn]
    exact h
  · rw [hn]
    exact h.popped hp (by rw [hl])
  · rw [hn]
    apply h.popped hp
    rw [hl, hs, append_assoc]
    apply List.Perm.append_left
    exact perm_append_singleton id back

/-- Every operation keeps the invariant. -/
theorem WF.step {s : Scheduler} (h : WF s) (op : Op) : WF (s.step op).1 := by
  cases op with
  | addEvent event => exact h.addEvent event
  | next => exact h.next
  | drainDropCounts => exact ⟨h.nodup, h.known, h.listed, h.sorted, h.bounded⟩

/-- State after a run from a fresh scheduler. -/
def after (sizes : AList fun _ : DataId => Nat)
    (queuePolicies : AList fun _ : DataId => QueuePolicy) (ops : List Op) : Scheduler :=
  (Machine.run step (init sizes queuePolicies) ops).1

/-- Every reachable state satisfies the invariant. -/
theorem wf_after (ops : List Op) : WF (after sizes queuePolicies ops) :=
  Machine.always step WF (fun _ op hw => hw.step op) (wf_init sizes queuePolicies) ops

end Scheduler
end DoraSpec.Node
