import DoraSpec.Base.Machine
import DoraSpec.Base.ProtectedQueue
import DoraSpec.Message.QueuePolicy
import DoraSpec.Node.Event

/-!
# Input scheduler of the event stream

Source `apis/rust/node/src/event_stream/scheduler.rs`. One queue for each input identifier and
one for all other events; inputs are served in least-recently-used order. Hash maps are
association lists with distinct keys, so the iteration order that fills `lastUsed` is arbitrary.
Log output is left out.
-/

namespace DoraSpec.Node
open Base Message

/-- Queue key of every event that is not an input; `scheduler.rs:85`. -/
def nonInputEvent : DataId := ⟨"dora.non_input_event", by decide⟩

/-- The item carries `request_id`, `goal_id` or `goal_status`; `scheduler.rs:19-31`. -/
def isCorrelated (event : EventItem) : Bool :=
  match event.inputParts with
  | some (_, metadata) =>
    (metadata.parameters.lookup requestId).isSome ||
      (metadata.parameters.lookup goalId).isSome ||
      (metadata.parameters.lookup goalStatus).isSome
  | none => false

/-- Queue key of an item; the first component of the match in `scheduler.rs:196-217`. -/
def EventItem.queueId (event : EventItem) : DataId :=
  match event.inputParts with
  | some (id, _) => id
  | none => nonInputEvent

/-- Flush request of an item; the second component of the match in `scheduler.rs:196-217`. -/
def EventItem.shouldFlush (event : EventItem) : Bool :=
  match event.inputParts with
  | some (_, metadata) => getBoolParam metadata.parameters flush == some true
  | none => false

/-- What an arrival at a full queue costs; `scheduler.rs:34-43`. -/
inductive Eviction where
  | removeAt (index : Nat)
  | dropIncoming
  | dropFrontLoud

/-- Choice of the dropped event; `select_eviction`, `scheduler.rs:50-58`. -/
def selectEviction (queue : List EventItem) (incoming : EventItem) : Eviction :=
  match queue.findIdx? (fun e => !isCorrelated e) with
  | some idx => .removeAt idx
  | none => if !isCorrelated incoming then .dropIncoming else .dropFrontLoud

/-- Configured size and queued events for each key. -/
abbrev EventQueues := AList fun _ : DataId => Nat × List EventItem

/-- Scheduler state; `scheduler.rs:156-166`. -/
structure Scheduler where
  lastUsed : List DataId
  eventQueues : EventQueues
  queuePolicies : AList fun _ : DataId => QueuePolicy
  dropped : AList fun _ : DataId => Nat

namespace Scheduler

/-- Initial state over given queues; `with_policies`, `scheduler.rs:169-185`. -/
def withPolicies (eventQueues : EventQueues)
    (queuePolicies : AList fun _ : DataId => QueuePolicy) : Scheduler where
  lastUsed := eventQueues.keys.filter (fun t => decide (t ≠ nonInputEvent))
  eventQueues := eventQueues
  queuePolicies := queuePolicies
  dropped := ∅

/-- Read and reset the drop counters; `drain_drop_counts`, `scheduler.rs:188-190`. -/
def drainDropCounts (s : Scheduler) : Scheduler × AList fun _ : DataId => Nat :=
  ({ s with dropped := ∅ }, s.dropped)

/-- Drop the uncorrelated events of an existing queue; `scheduler.rs:227-243`. -/
def flushQueue (s : Scheduler) (id : DataId) : Scheduler :=
  match s.eventQueues.lookup id with
  | some (size, queue) =>
    { s with eventQueues := s.eventQueues.insert id (size, queue.filter isCorrelated) }
  | none => s

/-- Create a missing queue of the default size, served last; `scheduler.rs:246-255`. -/
def ensureQueue (s : Scheduler) (id : DataId) : Scheduler :=
  match s.eventQueues.lookup id with
  | some _ => s
  | none =>
    { s with
      lastUsed := s.lastUsed ++ [id]
      eventQueues := s.eventQueues.insert id (defaultQueueSize, []) }

/-- Count one drop in the 64-bit counter of a key; `scheduler.rs:273`. -/
def countDrop (s : Scheduler) (id : DataId) : Scheduler :=
  { s with dropped := s.dropped.insert id (((s.dropped.lookup id).getD 0 + 1) % 2 ^ 64) }

/-- Replace the events queued under a key. -/
def setQueue (s : Scheduler) (id : DataId) (size : Nat) (queue : List EventItem) : Scheduler :=
  { s with eventQueues := s.eventQueues.insert id (size, queue) }

/-- Append an event to an existing queue within its capacity; `scheduler.rs:257-288`. -/
def enqueue (s : Scheduler) (id : DataId) (event : EventItem) : Scheduler :=
  match s.eventQueues.lookup id with
  | none => s
  | some (size, queue) =>
    let policy := (s.queuePolicies.lookup id).getD default
    let cap := policy.effectiveCap size
    if queue.length ≥ cap then
      let s := s.countDrop id
      match selectEviction queue event with
      | .removeAt idx => s.setQueue id size (queue.eraseIdx idx ++ [event])
      | .dropIncoming => s
      | .dropFrontLoud => s.setQueue id size (queue.tail ++ [event])
    else s.setQueue id size (queue ++ [event])

/-- Sort an arriving event into its queue; `add_event`, `scheduler.rs:192-289`. -/
def addEvent (s : Scheduler) (event : EventItem) : Scheduler :=
  let s := if event.shouldFlush then s.flushQueue event.queueId else s
  (s.ensureQueue event.queueId).enqueue event.queueId event

/-- Remove the oldest event of a key's queue. -/
def popFront (s : Scheduler) (id : DataId) : Option (EventItem × Scheduler) :=
  match s.eventQueues.lookup id with
  | some (size, event :: queue) => some (event, s.setQueue id size queue)
  | _ => none

/-- First key in `ids` with a queued event, its index counted from `index`, and the pop;
the loop of `scheduler.rs:302-312`. -/
def firstReady (s : Scheduler) : List DataId → Nat → Option (Nat × DataId × EventItem × Scheduler)
  | [], _ => none
  | id :: ids, index =>
    match s.popFront id with
    | some (event, s') => some (index, id, event, s')
    | none => s.firstReady ids (index + 1)

/-- Take the next event: other events first, then inputs in least-recently-used order;
`next`, `scheduler.rs:291-315`. -/
def next (s : Scheduler) : Option EventItem × Scheduler :=
  match s.popFront nonInputEvent with
  | some (event, s') => (some event, s')
  | none =>
    match s.firstReady s.lastUsed 0 with
    | some (index, id, event, s') =>
      (some event, { s' with lastUsed := s'.lastUsed.eraseIdx index ++ [id] })
    | none => (none, s)

/-- No queue holds an event; `is_empty`, `scheduler.rs:317-321`. -/
def isEmpty (s : Scheduler) : Bool :=
  s.eventQueues.entries.all (fun entry => entry.2.2.isEmpty)

/-! ### Observations of one key -/

/-- Events queued under a key, none for an unknown key. -/
def queueOf (s : Scheduler) (id : DataId) : List EventItem :=
  ((s.eventQueues.lookup id).map Prod.snd).getD []

/-- Configured size of a key's queue; an unknown key gets the default on its first event. -/
def configuredSize (s : Scheduler) (id : DataId) : Nat :=
  ((s.eventQueues.lookup id).map Prod.fst).getD defaultQueueSize

/-- Capacity in force for a key. -/
def capOf (s : Scheduler) (id : DataId) : Nat :=
  ((s.queuePolicies.lookup id).getD default).effectiveCap (s.configuredSize id)

/-- Drops counted for a key since the counters were last read. -/
def droppedOf (s : Scheduler) (id : DataId) : Nat := (s.dropped.lookup id).getD 0

/-- Queue of the arriving event's key as the capacity check finds it. -/
def flushedQueue (s : Scheduler) (event : EventItem) : List EventItem :=
  if event.shouldFlush then ProtectedQueue.flush isCorrelated (s.queueOf event.queueId)
  else s.queueOf event.queueId

/-! ### Effect of an arrival -/

private theorem lookup_flushQueue (s : Scheduler) (id i : DataId) :
    (s.flushQueue id).eventQueues.lookup i =
      if i = id then (s.eventQueues.lookup id).map (fun p => (p.1, p.2.filter isCorrelated))
      else s.eventQueues.lookup i := by
  unfold flushQueue
  split
  · next size queue h =>
    by_cases hi : i = id
    · subst hi
      simp [h]
    · simp [hi, AList.lookup_insert_ne]
  · next h =>
    by_cases hi : i = id
    · subst hi
      simp [h]
    · simp [hi]

private theorem lookup_ensureQueue (s : Scheduler) (id i : DataId) :
    (s.ensureQueue id).eventQueues.lookup i =
      if i = id then some ((s.eventQueues.lookup id).getD (defaultQueueSize, []))
      else s.eventQueues.lookup i := by
  unfold ensureQueue
  split
  · next p h =>
    by_cases hi : i = id
    · subst hi
      simp [h]
    · simp [hi]
  · next h =>
    by_cases hi : i = id
    · subst hi
      simp [h]
    · simp [hi, AList.lookup_insert_ne]

/-- State of `addEvent` before the capacity check. -/
def prepared (s : Scheduler) (event : EventItem) : Scheduler :=
  (if event.shouldFlush then s.flushQueue event.queueId else s).ensureQueue event.queueId

variable (s : Scheduler) (event : EventItem) (i : DataId)

private theorem addEvent_eq :
    s.addEvent event = (s.prepared event).enqueue event.queueId event := rfl

private theorem lookup_prepared :
    (s.prepared event).eventQueues.lookup i =
      if i = event.queueId then some (s.configuredSize event.queueId, s.flushedQueue event)
      else s.eventQueues.lookup i := by
  unfold prepared
  rw [lookup_ensureQueue]
  split
  · next hi =>
    congr 1
    unfold flushedQueue configuredSize queueOf ProtectedQueue.flush
    split
    · rw [lookup_flushQueue, if_pos rfl]
      cases s.eventQueues.lookup event.queueId <;> rfl
    · cases s.eventQueues.lookup event.queueId <;> rfl
  · next hi =>
    split
    · rw [lookup_flushQueue, if_neg hi]
    · rfl

private theorem queuePolicies_prepared : (s.prepared event).queuePolicies = s.queuePolicies := by
  unfold prepared ensureQueue flushQueue
  grind

private theorem dropped_prepared : (s.prepared event).dropped = s.dropped := by
  unfold prepared ensureQueue flushQueue
  grind

private theorem lastUsed_prepared :
    (s.prepared event).lastUsed =
      if event.queueId ∈ s.eventQueues then s.lastUsed
      else s.lastUsed ++ [event.queueId] := by
  have hm : event.queueId ∈ s.eventQueues ↔
      (s.eventQueues.lookup event.queueId).isSome = true := AList.lookup_isSome.symm
  unfold prepared ensureQueue flushQueue
  grind [AList.lookup_insert]

private theorem lookup_enqueue (s : Scheduler) (id i : DataId) (event : EventItem) (size : Nat)
    (queue : List EventItem) (h : s.eventQueues.lookup id = some (size, queue)) :
    (s.enqueue id event).eventQueues.lookup i =
      if i = id then some (size, ProtectedQueue.offer isCorrelated (s.capOf id) queue event)
      else s.eventQueues.lookup i := by
  have hc : s.capOf id = ((s.queuePolicies.lookup id).getD default).effectiveCap size := by
    simp [capOf, configuredSize, h]
  simp only [enqueue, h, ← hc, ProtectedQueue.offer, selectEviction, countDrop, setQueue]
  by_cases hi : i = id
  · subst hi
    grind [AList.lookup_insert]
  · grind [AList.lookup_insert_ne]

private theorem enqueue_frame (s : Scheduler) (id : DataId) (event : EventItem) :
    (s.enqueue id event).queuePolicies = s.queuePolicies ∧
      (s.enqueue id event).lastUsed = s.lastUsed := by
  simp only [enqueue, countDrop, setQueue]
  grind

private theorem dropped_enqueue (s : Scheduler) (id : DataId) (event : EventItem) (size : Nat)
    (queue : List EventItem) (h : s.eventQueues.lookup id = some (size, queue)) :
    (s.enqueue id event).dropped =
      if s.capOf id ≤ queue.length then (s.countDrop id).dropped else s.dropped := by
  have hc : s.capOf id = ((s.queuePolicies.lookup id).getD default).effectiveCap size := by
    simp [capOf, configuredSize, h]
  simp only [enqueue, h, ← hc, countDrop, setQueue]
  grind

private theorem capOf_prepared : (s.prepared event).capOf i = s.capOf i := by
  simp only [capOf, configuredSize, queuePolicies_prepared, lookup_prepared]
  split
  · next hi =>
    subst hi
    rfl
  · rfl

private theorem lookup_addEvent :
    (s.addEvent event).eventQueues.lookup i =
      if i = event.queueId then
        some (s.configuredSize event.queueId,
          ProtectedQueue.offer isCorrelated (s.capOf event.queueId) (s.flushedQueue event) event)
      else s.eventQueues.lookup i := by
  have hp := lookup_prepared s event event.queueId
  rw [if_pos rfl] at hp
  rw [addEvent_eq, lookup_enqueue _ _ _ _ _ _ hp, capOf_prepared, lookup_prepared]
  split <;> rfl

/-- An arrival changes the queue of its own key only, to what `offer` keeps of it. -/
theorem queueOf_addEvent :
    (s.addEvent event).queueOf i =
      if i = event.queueId then
        ProtectedQueue.offer isCorrelated (s.capOf event.queueId) (s.flushedQueue event) event
      else s.queueOf i := by
  simp only [queueOf, lookup_addEvent]
  split <;> rfl

/-- Arrivals never change a capacity. -/
theorem capOf_addEvent : (s.addEvent event).capOf i = s.capOf i := by
  have hq : (s.addEvent event).queuePolicies = s.queuePolicies :=
    (enqueue_frame _ _ _).1.trans (queuePolicies_prepared s event)
  simp only [capOf, configuredSize, hq, lookup_addEvent]
  split
  · next hi =>
    subst hi
    rfl
  · rfl

/-- The drop counter advances exactly when the capacity check finds the queue full. -/
theorem droppedOf_addEvent :
    (s.addEvent event).droppedOf i =
      if i = event.queueId ∧ s.capOf i ≤ (s.flushedQueue event).length then
        (s.droppedOf i + 1) % 2 ^ 64
      else s.droppedOf i := by
  have hp := lookup_prepared s event event.queueId
  rw [if_pos rfl] at hp
  have hd := dropped_enqueue (s.prepared event) event.queueId event _ _ hp
  rw [← addEvent_eq] at hd
  simp only [capOf_prepared, countDrop, dropped_prepared] at hd
  simp only [droppedOf, hd]
  by_cases hi : i = event.queueId
  · subst hi
    by_cases hc : s.capOf event.queueId ≤ (s.flushedQueue event).length <;> simp [hc]
  · by_cases hc : s.capOf event.queueId ≤ (s.flushedQueue event).length <;>
      simp [hc, hi, AList.lookup_insert_ne hi]

/-- A key is known once an event with it has arrived. -/
theorem mem_addEvent :
    i ∈ (s.addEvent event).eventQueues ↔ i = event.queueId ∨ i ∈ s.eventQueues := by
  rw [← AList.lookup_isSome, ← AList.lookup_isSome, lookup_addEvent]
  split
  · next hi => simp [hi]
  · next hi => simp [hi]

/-- A key seen for the first time is served last. -/
theorem lastUsed_addEvent :
    (s.addEvent event).lastUsed =
      if event.queueId ∈ s.eventQueues then s.lastUsed
      else s.lastUsed ++ [event.queueId] :=
  (enqueue_frame _ _ _).2.trans (lastUsed_prepared s event)

/-! ### Effect of a receive -/

/-- One event has left the front of a key's queue and nothing else changed, up to the order
of service. -/
structure Popped (s : Scheduler) (id : DataId) (event : EventItem) (s' : Scheduler) : Prop where
  queue : s.queueOf id = event :: s'.queueOf id
  others : ∀ i, i ≠ id → s'.queueOf i = s.queueOf i
  cap : ∀ i, s'.capOf i = s.capOf i
  known : ∀ i, i ∈ s'.eventQueues ↔ i ∈ s.eventQueues
  counters : s'.dropped = s.dropped

private theorem popFront_none {s : Scheduler} {id : DataId} (h : s.popFront id = none) :
    s.queueOf id = [] := by
  unfold popFront at h
  unfold queueOf
  cases hl : s.eventQueues.lookup id with
  | none => rfl
  | some p =>
    obtain ⟨size, queue⟩ := p
    cases queue with
    | nil => rfl
    | cons event queue => simp [hl] at h

private theorem popFront_some {s s' : Scheduler} {id : DataId} {event : EventItem}
    (h : s.popFront id = some (event, s')) : Popped s id event s' ∧ s'.lastUsed = s.lastUsed := by
  unfold popFront at h
  split at h
  · next size ev queue hl =>
    cases h
    have hsame : ∀ i, i ≠ id →
        (s.setQueue id size queue).eventQueues.lookup i = s.eventQueues.lookup i :=
      fun i hi => AList.lookup_insert_ne hi
    have hat : (s.setQueue id size queue).eventQueues.lookup id = some (size, queue) :=
      AList.lookup_insert _
    refine ⟨⟨?_, ?_, ?_, ?_, rfl⟩, rfl⟩
    · simp [queueOf, hl, hat]
    · intro i hi
      simp [queueOf, hsame i hi]
    · intro i
      by_cases hi : i = id
      · subst hi
        simp only [capOf, configuredSize, hat, hl]
        rfl
      · simp only [capOf, configuredSize, hsame i hi]
        rfl
    · intro i
      rw [← AList.lookup_isSome, ← AList.lookup_isSome]
      by_cases hi : i = id
      · subst hi
        simp [hat, hl]
      · rw [hsame i hi]
  · cases h

private theorem firstReady_cases (s : Scheduler) (ids : List DataId) (index : Nat) :
    (s.firstReady ids index = none ∧ ∀ i ∈ ids, s.queueOf i = []) ∨
    ∃ front id back event s', ids = front ++ id :: back ∧ (∀ i ∈ front, s.queueOf i = []) ∧
      s.firstReady ids index = some (index + front.length, id, event, s') ∧
      s.popFront id = some (event, s') := by
  induction ids generalizing index with
  | nil => exact .inl ⟨rfl, by simp⟩
  | cons id ids ih =>
    cases hp : s.popFront id with
    | some p =>
      obtain ⟨event, s'⟩ := p
      refine .inr ⟨[], id, ids, event, s', rfl, by simp, ?_, hp⟩
      simp [firstReady, hp]
    | none =>
      have he := popFront_none hp
      obtain ⟨hn, ha⟩ | ⟨front, j, back, event, s', rfl, hf, hr, hj⟩ := ih (index + 1)
      · refine .inl ⟨by simp [firstReady, hp, hn], ?_⟩
        simp [he]
        exact ha
      · refine .inr ⟨id :: front, j, back, event, s', rfl, ?_, ?_, hj⟩
        · simp only [List.mem_cons, forall_eq_or_imp]
          exact ⟨he, hf⟩
        · simp only [firstReady, hp, hr, List.length_cons]
          congr 2
          omega

/-- The three outcomes of a receive: nothing is queued, a prioritised event that is not an
input leaves, or the first ready input is served and moves to the end of the order. -/
theorem next_cases (s : Scheduler) :
    (s.next = (none, s) ∧ s.queueOf nonInputEvent = [] ∧ ∀ i ∈ s.lastUsed, s.queueOf i = []) ∨
    (∃ event s', s.next = (some event, s') ∧ Popped s nonInputEvent event s' ∧
      s'.lastUsed = s.lastUsed) ∨
    (∃ front id back event s', s.next = (some event, s') ∧ Popped s id event s' ∧
      s.queueOf nonInputEvent = [] ∧ s.lastUsed = front ++ id :: back ∧
      (∀ i ∈ front, s.queueOf i = []) ∧ s'.lastUsed = front ++ back ++ [id]) := by
  unfold next
  cases hp : s.popFront nonInputEvent with
  | some p =>
    obtain ⟨event, s'⟩ := p
    obtain ⟨hpop, hl⟩ := popFront_some hp
    exact .inr (.inl ⟨event, s', rfl, hpop, hl⟩)
  | none =>
    have he := popFront_none hp
    obtain ⟨hn, ha⟩ | ⟨front, id, back, event, s', hids, hf, hr, hj⟩ :=
      firstReady_cases s s.lastUsed 0
    · exact .inl ⟨by rw [hn], he, ha⟩
    · obtain ⟨hpop, hl⟩ := popFront_some hj
      refine .inr (.inr ⟨front, id, back, event,
        { s' with lastUsed := s'.lastUsed.eraseIdx front.length ++ [id] }, ?_, ?_, he, hids, hf, ?_⟩)
      · rw [hr]
        simp
      · exact ⟨hpop.queue, hpop.others, hpop.cap, hpop.known, hpop.counters⟩
      · rw [hl, hids]
        simp [List.eraseIdx_append_of_length_le]

/-- Nothing is taken from a scheduler without events. -/
theorem next_of_isEmpty {s : Scheduler} (h : s.isEmpty = true) : s.next = (none, s) := by
  have hqueue (id : DataId) : s.queueOf id = [] := by
    unfold queueOf
    cases hl : s.eventQueues.lookup id with
    | none => rfl
    | some p => simpa using List.all_eq_true.mp h ⟨id, p⟩ (List.of_mem_dlookup hl)
  rcases s.next_cases with ⟨hnext, -⟩ | ⟨event, s', -, hpop, -⟩ | ⟨_, id, _, event, s', -, hpop, -⟩
  · exact hnext
  · exact absurd (hpop.queue.symm.trans (hqueue _)) (List.cons_ne_nil _ _)
  · exact absurd (hpop.queue.symm.trans (hqueue _)) (List.cons_ne_nil _ _)

end Scheduler
end DoraSpec.Node
