import DoraSpec.Node.SchedulerRuns

/-!
# What leaves the scheduler's queues

Over any run, the events of a key are yielded in arrival order, and each arrival is yielded,
still queued, discarded by a flush marker or counted as dropped. The count is exact unless a
correlated event arrives at an empty queue of capacity zero: it is counted and queued as well.
A correlated event leaves unyielded only as the oldest event of a full queue of correlated
events at a correlated arrival.
-/

namespace DoraSpec.Node
open Base Message List

namespace Scheduler

/-! ### Observations of outputs -/

/-- Events that a call added under a key. -/
def addedFor (i : DataId) : Out → List EventItem
  | .added event _ => if event.queueId = i then [event] else []
  | _ => []

/-- Events of a key that a call yielded. -/
def yieldedFor (i : DataId) : Out → List EventItem
  | .yielded (some event) => if event.queueId = i then [event] else []
  | _ => []

/-- Number of events of a key that a call's flush marker removed. -/
def flushedFor (i : DataId) : Out → Nat
  | .added event flushed => if event.queueId = i then flushed else 0
  | _ => 0

/-- Drops of a key that a call reported. -/
def reportedFor (i : DataId) : Out → Nat
  | .drained counts => (counts.lookup i).getD 0
  | _ => 0

/-- The conservation law of one key after a run: yielded events are a subsequence of the added
ones, and every added event is yielded, queued, flushed or in a drop counter. -/
def Conserved (i : DataId) (r : Scheduler × List Out) : Prop :=
  (r.2.flatMap (yieldedFor i)).Sublist (r.2.flatMap (addedFor i)) ∧
    (r.2.flatMap (addedFor i)).length =
      (r.2.flatMap (yieldedFor i)).length + (r.1.queueOf i).length +
        (r.2.map (flushedFor i)).sum + ((r.2.map (reportedFor i)).sum + r.1.droppedOf i)

/-- The drop counter tells the truth about a call: no correlated event arrives at an empty queue
of capacity zero, and a counter that advances stays within 64 bits. -/
def CountsDrops (s : Scheduler) : Op → Prop
  | .addEvent event =>
    ¬ (s.capOf event.queueId = 0 ∧ s.queueOf event.queueId = [] ∧ isCorrelated event = true) ∧
      (s.capOf event.queueId ≤ (s.flushedQueue event).length →
        s.droppedOf event.queueId + 1 < 2 ^ 64)
  | _ => True

instance (s : Scheduler) : (op : Op) → Decidable (CountsDrops s op)
  | .addEvent event => inferInstanceAs (Decidable (
      ¬ (s.capOf event.queueId = 0 ∧ s.queueOf event.queueId = [] ∧ isCorrelated event = true) ∧
        (s.capOf event.queueId ≤ (s.flushedQueue event).length →
          s.droppedOf event.queueId + 1 < 2 ^ 64)))
  | .next => .isTrue True.intro
  | .drainDropCounts => .isTrue True.intro

/-! ### One call -/

variable {s : Scheduler}

/-- The served key is the key of the yielded event. -/
theorem queueId_popped {s' : Scheduler} {id : DataId} {event : EventItem} (h : WF s)
    (hp : Popped s id event s') : event.queueId = id :=
  h.sorted id event (by rw [hp.queue]; exact mem_cons_self)

private theorem queueOf_popped {s' : Scheduler} {id : DataId} {event : EventItem} (h : WF s)
    (hp : Popped s id event s') (i : DataId) :
    s.queueOf i = yieldedFor i (.yielded (some event)) ++ s'.queueOf i := by
  have hid := queueId_popped h hp
  by_cases hi : i = id
  · subst hi
    simp [yieldedFor, hid, hp.queue]
  · have hne : event.queueId ≠ i := fun he => hi (he.symm.trans hid)
    simp [yieldedFor, hne, hp.others i hi]

/-- A receive takes what it yields from the front of the queues and changes no counter. -/
theorem queueOf_next (h : WF s) (i : DataId) :
    s.queueOf i = yieldedFor i (.yielded s.next.1) ++ s.next.2.queueOf i ∧
      s.next.2.droppedOf i = s.droppedOf i := by
  obtain ⟨hn, -, -⟩ | ⟨event, s', hn, hp, -⟩ | ⟨front, id, back, event, s', hn, hp, -⟩ :=
    next_cases s
  · rw [hn]
    exact ⟨rfl, rfl⟩
  · rw [hn]
    exact ⟨queueOf_popped h hp i, by rw [droppedOf, droppedOf, hp.counters]⟩
  · rw [hn]
    exact ⟨queueOf_popped h hp i, by rw [droppedOf, droppedOf, hp.counters]⟩

/-- At capacity zero a flush finds nothing to discard. -/
theorem flushedQueue_of_cap_zero (h : WF s) (event : EventItem) (hc : s.capOf event.queueId = 0) :
    s.flushedQueue event = s.queueOf event.queueId := by
  have hb := h.bounded event.queueId
  rw [hc] at hb
  unfold flushedQueue
  split
  · exact hb.flush_eq_self
  · rfl

private theorem addEvent_balance (h : WF s) (event : EventItem)
    (hc : CountsDrops s (.addEvent event)) :
    (s.queueOf event.queueId).length + 1 + s.droppedOf event.queueId =
      ((s.addEvent event).queueOf event.queueId).length +
        ((s.queueOf event.queueId).length - (s.flushedQueue event).length) +
        (s.addEvent event).droppedOf event.queueId := by
  have hp := (ProtectedQueue.offer_victim_perm isCorrelated (s.capOf event.queueId)
    (s.flushedQueue event) event).length_eq
  have hv := ProtectedQueue.length_victim isCorrelated (s.capOf event.queueId)
    (s.flushedQueue event) event
  have hf := (s.flushedQueue_sublist event).length_le
  rw [queueOf_addEvent, if_pos rfl, droppedOf_addEvent]
  simp only [length_append, length_singleton, true_and] at hp ⊢
  by_cases hfull : s.capOf event.queueId ≤ (s.flushedQueue event).length
  · have hne : ¬ (s.flushedQueue event = [] ∧ isCorrelated event = true) := by
      rintro ⟨he, hk⟩
      have hz : s.capOf event.queueId = 0 := by
        rw [he] at hfull
        simpa using hfull
      exact hc.1 ⟨hz, (flushedQueue_of_cap_zero h event hz).symm.trans he, hk⟩
    rw [if_pos ⟨hfull, hne⟩] at hv
    have hlt := hc.2 hfull
    rw [if_pos hfull, Nat.mod_eq_of_lt hlt]
    omega
  · rw [if_neg (fun hn => hfull hn.1)] at hv
    rw [if_neg hfull]
    omega

private theorem step_balance (h : WF s) (op : Op) (hc : CountsDrops s op) (i : DataId) :
    (s.queueOf i).length + (addedFor i (s.step op).2).length + s.droppedOf i =
      (yieldedFor i (s.step op).2).length + ((s.step op).1.queueOf i).length +
        flushedFor i (s.step op).2 + reportedFor i (s.step op).2 +
        (s.step op).1.droppedOf i := by
  cases op with
  | addEvent event =>
    by_cases hi : i = event.queueId
    · subst hi
      have := addEvent_balance h event hc
      simp only [step, addedFor, yieldedFor, flushedFor, reportedFor, ↓reduceIte,
        length_singleton, length_nil]
      omega
    · have hne : event.queueId ≠ i := Ne.symm hi
      simp [step, addedFor, yieldedFor, flushedFor, reportedFor, hne, queueOf_addEvent,
        droppedOf_addEvent, hi]
  | next =>
    obtain ⟨hq, hd⟩ := queueOf_next h i
    have hl := congrArg List.length hq
    rw [length_append] at hl
    simp only [step, addedFor, flushedFor, reportedFor, length_nil, hd]
    omega
  | drainDropCounts =>
    simp only [step, drainDropCounts, addedFor, yieldedFor, flushedFor, reportedFor, droppedOf,
      length_nil, AList.lookup_empty, Option.getD_none]
    change (s.queueOf i).length + 0 + _ = 0 + (s.queueOf i).length + 0 + _ + 0
    omega

/-- Every call keeps the order of arrival: what it yields comes before what stays. -/
theorem step_order (h : WF s) (op : Op) (i : DataId) :
    (yieldedFor i (s.step op).2 ++ (s.step op).1.queueOf i).Sublist
      (s.queueOf i ++ addedFor i (s.step op).2) := by
  cases op with
  | addEvent event =>
    simp only [step, yieldedFor, addedFor, nil_append, queueOf_addEvent]
    by_cases hi : i = event.queueId
    · subst hi
      simp only [↓reduceIte]
      apply (ProtectedQueue.offer_sublist _ _ _ _).trans
      exact (s.flushedQueue_sublist event).append_right [event]
    · simp [hi, Ne.symm hi]
  | next =>
    simp only [step, addedFor, append_nil]
    rw [← (queueOf_next h i).1]
  | drainDropCounts =>
    simp only [step, drainDropCounts, yieldedFor, addedFor, nil_append, append_nil]
    exact List.Sublist.refl _

/-! ### Whole runs -/

private structure Ledger (i : DataId) (outs : List Out) (s : Scheduler) : Prop where
  wf : WF s
  order : (outs.flatMap (yieldedFor i) ++ s.queueOf i).Sublist (outs.flatMap (addedFor i))
  total : (outs.flatMap (addedFor i)).length =
    (outs.flatMap (yieldedFor i)).length + (s.queueOf i).length + (outs.map (flushedFor i)).sum +
      ((outs.map (reportedFor i)).sum + s.droppedOf i)

private theorem ledger_step (i : DataId) (outs : List Out) (s : Scheduler) (op : Op)
    (h : Ledger i outs s) (hc : CountsDrops s op) :
    Ledger i (outs ++ [(s.step op).2]) (s.step op).1 where
  wf := h.wf.step op
  order := by
    simp only [flatMap_append, flatMap_singleton, append_assoc]
    apply (List.Sublist.append_left (step_order h.wf op i) _).trans
    rw [← append_assoc]
    exact h.order.append_right _
  total := by
    have hb := step_balance h.wf op hc i
    have ht := h.total
    simp only [flatMap_append, flatMap_singleton, length_append, map_append,
      map_cons, map_nil, sum_append, sum_cons, sum_nil]
    omega

/-- In every run whose drops are counted truly, the events of every key are conserved: nothing
is lost, duplicated or reordered, and the counters report exactly the dropped events. -/
theorem run_conserved (sizes : AList fun _ : DataId => Nat)
    (queuePolicies : AList fun _ : DataId => QueuePolicy) (ops : List Op) (i : DataId)
    (h : Machine.Along step CountsDrops (init sizes queuePolicies) ops) :
    Conserved i (Machine.run step (init sizes queuePolicies) ops) := by
  have h0 : Ledger i [] (init sizes queuePolicies) := by
    refine ⟨wf_init sizes queuePolicies, ?_, ?_⟩
    · simp [queueOf_init]
    · have hd : (init sizes queuePolicies).droppedOf i = 0 := rfl
      simp [queueOf_init, hd]
  have hl := Machine.history_invariant step (Ledger i) (ledger_step i) [] _ ops h0 h
  exact ⟨(sublist_append_left _ _).trans hl.order, hl.total⟩

/-! ### Sample events -/

/-- Input item with the given parameters and no payload. -/
def sampleInput (id : DataId) (parameters : MetadataParameters) : EventItem :=
  .nodeEvent (.input id
    { metadataVersion := 0
      timestamp := ⟨0, 0⟩
      typeInfo := ⟨.null, 0, 0, none, 0, [], [], none, none⟩
      parameters := parameters } none)

/-- Identifier of the sample input. -/
def audio : DataId := ⟨"audio", by decide⟩

/-- Plain stream chunk. -/
def sampleChunk : EventItem := sampleInput audio ∅

/-- Service response with the given request identifier. -/
def sampleResponse (request : String) : EventItem :=
  sampleInput audio (AList.singleton requestId (.string request))

/-- A queue of size one drops the older of two chunks and yields the newer one. -/
theorem run_conserved_overflow :
    Conserved audio (Machine.run step (init (AList.singleton audio 1) ∅)
      [.addEvent sampleChunk, .addEvent sampleChunk, .drainDropCounts, .next]) :=
  run_conserved _ _ _ _ ⟨by decide, by decide, True.intro, True.intro, True.intro⟩

/-- A response that arrives at the empty queue of an input of size zero is queued and counted
as dropped. -/
theorem not_conserved_cap_zero :
    ¬ Conserved audio (Machine.run step (init (AList.singleton audio 0) ∅)
      [.addEvent (sampleResponse "req-1")]) := by
  rintro ⟨-, h⟩
  exact absurd h (by decide)

/-! ### Correlated events -/

/-- A call removes an event from a key's queue without yielding it: it is among the events
that the queue and the call's arrival held before and that are neither yielded nor queued
afterwards. -/
def LeavesUnyielded (s : Scheduler) (op : Op) (i : DataId) (event : EventItem) : Prop :=
  ∃ lost, (s.queueOf i ++ addedFor i (s.step op).2).Perm
    (yieldedFor i (s.step op).2 ++ (s.step op).1.queueOf i ++ lost) ∧ event ∈ lost

private theorem flushedQueue_split (s : Scheduler) (event : EventItem) :
    ∃ discarded, (s.queueOf event.queueId).Perm (s.flushedQueue event ++ discarded) ∧
      ∀ e ∈ discarded, isCorrelated e = false := by
  unfold flushedQueue
  split
  · refine ⟨(s.queueOf event.queueId).filter (fun e => !isCorrelated e), ?_, by simp⟩
    exact (filter_append_perm isCorrelated _).symm
  · exact ⟨[], by simp, by simp⟩

private theorem lost_addEvent (s : Scheduler) (arriving : EventItem) (lost : List EventItem)
    (hp : (s.queueOf arriving.queueId ++ [arriving]).Perm
      ((s.addEvent arriving).queueOf arriving.queueId ++ lost)) :
    ∃ discarded, (∀ e ∈ discarded, isCorrelated e = false) ∧
      lost.Perm ((ProtectedQueue.victim isCorrelated (s.capOf arriving.queueId)
        (s.flushedQueue arriving) arriving).toList ++ discarded) := by
  obtain ⟨discarded, hq, hd⟩ := flushedQueue_split s arriving
  refine ⟨discarded, hd, ?_⟩
  have ha := ProtectedQueue.offer_victim_perm isCorrelated (s.capOf arriving.queueId)
    (s.flushedQueue arriving) arriving
  rw [queueOf_addEvent, if_pos rfl] at hp
  apply (perm_append_left_iff (ProtectedQueue.offer isCorrelated
    (s.capOf arriving.queueId) (s.flushedQueue arriving) arriving)).mp
  apply hp.symm.trans
  apply (hq.append_right [arriving]).trans
  rw [append_assoc, ← append_assoc _ _ discarded]
  apply (perm_append_comm.append_left _).trans
  rw [← append_assoc]
  exact ha.symm.append_right discarded

private theorem flushedQueue_of_full (h : WF s) (arriving : EventItem)
    (hcap : s.capOf arriving.queueId ≤ (s.flushedQueue arriving).length)
    (hall : ∀ e ∈ s.flushedQueue arriving, isCorrelated e = true) :
    s.flushedQueue arriving = s.queueOf arriving.queueId ∧
      ∀ e ∈ s.queueOf arriving.queueId, isCorrelated e = true := by
  unfold flushedQueue at hcap hall ⊢
  split at hcap
  · next hf =>
    have hq := (h.bounded arriving.queueId).all_keep_of_flush _ hcap
    rw [if_pos hf]
    exact ⟨filter_eq_self.mpr hq, hq⟩
  · next hf =>
    rw [if_neg hf] at hall ⊢
    exact ⟨rfl, hall⟩

/-- In every reachable state, a correlated event leaves its queue unyielded only when a
correlated event arrives at a queue that is at capacity and holds correlated events only, and
then it is the oldest of them. -/
theorem correlated_leaves_only_if_full (sizes : AList fun _ : DataId => Nat)
    (queuePolicies : AList fun _ : DataId => QueuePolicy) (ops : List Op) (op : Op) (i : DataId)
    (event : EventItem) (hcorr : isCorrelated event = true)
    (hleave : LeavesUnyielded (after sizes queuePolicies ops) op i event) :
    ∃ arriving, op = .addEvent arriving ∧ arriving.queueId = i ∧ isCorrelated arriving = true ∧
      (after sizes queuePolicies ops).capOf i ≤
        ((after sizes queuePolicies ops).queueOf i).length ∧
      (∀ e ∈ (after sizes queuePolicies ops).queueOf i, isCorrelated e = true) ∧
      ((after sizes queuePolicies ops).queueOf i).head? = some event := by
  have hwf := wf_after sizes queuePolicies ops
  generalize after sizes queuePolicies ops = s at hleave hwf ⊢
  obtain ⟨lost, hp, hm⟩ := hleave
  -- a call that keeps the events of the key loses none
  have hkeep (hq : s.queueOf i ++ addedFor i (s.step op).2 =
      yieldedFor i (s.step op).2 ++ (s.step op).1.queueOf i) : False := by
    have hlen := hp.length_eq
    rw [hq, length_append, length_append, length_append] at hlen
    have : lost = [] := length_eq_zero_iff.mp (by omega)
    simp [this] at hm
  cases op with
  | addEvent arriving =>
    by_cases hi : arriving.queueId = i
    · subst hi
      simp only [step, addedFor, yieldedFor, ↓reduceIte, nil_append] at hp
      obtain ⟨discarded, hd, hlost⟩ := lost_addEvent s arriving lost hp
      rcases mem_append.mp (hlost.mem_iff.mp hm) with hv | hx
      · obtain ⟨hcap, hall, harr, hhead, -⟩ :=
          ProtectedQueue.victim_keep isCorrelated (Option.mem_toList.mp hv) hcorr
        obtain ⟨hsame, hq⟩ := flushedQueue_of_full hwf arriving hcap hall
        rw [hsame] at hcap hhead
        exact ⟨arriving, rfl, rfl, harr, hcap, hq, hhead⟩
      · simp [hd event hx] at hcorr
    · exact (hkeep (by
        simp [step, addedFor, yieldedFor, hi, queueOf_addEvent, Ne.symm hi])).elim
  | next =>
    exact (hkeep (by
      simp only [step, addedFor, append_nil]
      exact (queueOf_next hwf i).1)).elim
  | drainDropCounts =>
    exact (hkeep (by
      simp [step, addedFor, yieldedFor, drainDropCounts, queueOf])).elim

/-- The older of two responses leaves a queue of size one when the newer one arrives. -/
theorem correlated_leaves_sample :
    ∃ arriving, Op.addEvent (sampleResponse "req-2") = .addEvent arriving ∧
      arriving.queueId = audio ∧ isCorrelated arriving = true ∧
      (after (AList.singleton audio 1) ∅ [.addEvent (sampleResponse "req-1")]).capOf audio ≤
        ((after (AList.singleton audio 1) ∅
          [.addEvent (sampleResponse "req-1")]).queueOf audio).length ∧
      (∀ e ∈ (after (AList.singleton audio 1) ∅
        [.addEvent (sampleResponse "req-1")]).queueOf audio, isCorrelated e = true) ∧
      ((after (AList.singleton audio 1) ∅
        [.addEvent (sampleResponse "req-1")]).queueOf audio).head? =
          some (sampleResponse "req-1") :=
  correlated_leaves_only_if_full _ _ _ _ _ _ (by decide)
    ⟨[sampleResponse "req-1"], List.Perm.swap _ _ _, mem_singleton_self _⟩

end Scheduler
end DoraSpec.Node
