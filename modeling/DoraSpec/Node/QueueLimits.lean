import DoraSpec.Node.SchedulerAccounting

/-!
# Limits of the scheduler's queues

Source `apis/rust/node/src/event_stream/scheduler.rs:195-314` and `mod.rs:159-184`. Queues keep to
their capacity and the queue of the other events is free of inputs, with two exceptions: a queue of
capacity zero takes a correlated event, and an input may have the reserved key as its identifier.
-/

namespace DoraSpec.Node
open Base Message List

namespace Scheduler

/-- No queue is longer than its capacity, and no input is among the events that are none. An input
that makes one of them leave is queued in its place. -/
structure Orderly (s : Scheduler) : Prop where
  within : ∀ i, (s.queueOf i).length ≤ s.capOf i
  control : ∀ event ∈ s.queueOf nonInputEvent, event.isInput = false

/-- A queue of capacity zero gets no correlated event, and the reserved key gets an input only if
that is dropped for want of any capacity. -/
def KeepsLimits (s : Scheduler) : Op → Prop
  | .addEvent event => (s.capOf event.queueId = 0 → isCorrelated event = false) ∧
    (event.isInput = true → event.queueId = nonInputEvent → s.capOf nonInputEvent = 0)
  | _ => True

variable {s : Scheduler} {event : EventItem}

private theorem isInput_of_isCorrelated (h : isCorrelated event = true) :
    event.isInput = true := by
  unfold isCorrelated at h
  unfold EventItem.isInput
  cases hp : event.inputParts with
  | none => simp [hp] at h
  | some _ => rfl

private theorem within_addEvent (hw : WF s) (h : Orderly s)
    (hz : s.capOf event.queueId = 0 → isCorrelated event = false) (i : DataId) :
    ((s.addEvent event).queueOf i).length ≤ s.capOf i := by
  by_cases hi : i = event.queueId
  · subst hi
    by_cases hc : s.capOf event.queueId = 0
    · have hq : s.queueOf event.queueId = [] :=
        length_eq_zero_iff.mp (by have := h.within event.queueId; omega)
      have hf : s.flushedQueue event = [] := (flushedQueue_of_cap_zero hw event hc).trans hq
      simp [queueOf_addEvent, hf, hc, ProtectedQueue.offer, hz hc]
    · have := ((hw.addEvent event).bounded event.queueId).1
      rw [capOf_addEvent] at this
      omega
  · rw [queueOf_addEvent, if_neg hi]
    exact h.within i

private theorem mem_addEvent_control (h : Orderly s) (hid : event.queueId = nonInputEvent)
    (hc : s.capOf nonInputEvent ≠ 0) :
    event ∈ (s.addEvent event).queueOf nonInputEvent := by
  rw [queueOf_addEvent, if_pos hid.symm, hid]
  obtain ⟨-, ha, -⟩ | ⟨front, y, back, -, -, -, ha, -⟩ | ⟨hfull, hall, ⟨-, -, -⟩ | ⟨-, ha, -⟩⟩ :=
    ProtectedQueue.offer_cases isCorrelated (s.capOf nonInputEvent) (s.flushedQueue event) event
  · simp [ha]
  · simp [ha]
  · -- a full queue of correlated events would hold an input
    have hpos := Nat.lt_of_lt_of_le (Nat.pos_of_ne_zero hc) hfull
    obtain ⟨y, hy⟩ := exists_mem_of_length_pos hpos
    have hold := h.control y (hid ▸ (s.flushedQueue_sublist event).subset hy)
    rw [isInput_of_isCorrelated (hall y hy)] at hold
    cases hold
  · simp [ha]

private theorem keepsLimits_addEvent_iff (hw : WF s) (h : Orderly s) (event : EventItem) :
    KeepsLimits s (.addEvent event) ↔ Orderly (s.addEvent event) := by
  constructor
  · rintro ⟨hz, hreserved⟩
    have hwithin := within_addEvent hw h hz
    refine ⟨fun i => (capOf_addEvent s event i).symm ▸ hwithin i, fun e he => ?_⟩
    by_cases hid : nonInputEvent = event.queueId
    · have hne : s.capOf nonInputEvent ≠ 0 := by
        have := hwithin nonInputEvent
        have := length_pos_of_mem he
        omega
      rw [queueOf_addEvent, if_pos hid] at he
      rcases mem_append.mp ((ProtectedQueue.offer_sublist _ _ _ _).subset he) with hq | hx
      · exact h.control e (hid ▸ (s.flushedQueue_sublist event).subset hq)
      · rw [mem_singleton.mp hx, ← Bool.not_eq_true]
        exact fun hinput => hne (hreserved hinput hid.symm)
    · rw [queueOf_addEvent, if_neg hid] at he
      exact h.control e he
  · intro hafter
    refine ⟨fun hz => ?_, fun hinput hid => ?_⟩
    · have hnil := hafter.within event.queueId
      rw [capOf_addEvent, hz, queueOf_addEvent, if_pos rfl] at hnil
      exact (ProtectedQueue.offer_eq_nil _ (length_eq_zero_iff.mp (Nat.le_zero.mp hnil))).2.2
    · by_contra hc
      have := hafter.control event (mem_addEvent_control h hid hc)
      simp [hinput] at this

private theorem Orderly.popped {s' : Scheduler} {id : DataId} (h : Orderly s)
    (hp : Popped s id event s') : Orderly s' := by
  have hsub (i : DataId) : (s'.queueOf i).Sublist (s.queueOf i) := by
    by_cases hi : i = id
    · rw [hi, hp.queue]
      exact sublist_cons_self _ _
    · rw [hp.others i hi]
  refine ⟨fun i => ?_, fun e he => h.control e ((hsub _).subset he)⟩
  rw [hp.cap]
  exact (hsub i).length_le.trans (h.within i)

private theorem keepsLimits_iff (op : Op) (hi : WF s ∧ Orderly s) :
    KeepsLimits s op ↔ WF (s.step op).1 ∧ Orderly (s.step op).1 := by
  obtain ⟨hw, h⟩ := hi
  rw [and_iff_right (hw.step op)]
  cases op with
  | addEvent event => exact keepsLimits_addEvent_iff hw h event
  | next =>
    refine ⟨fun _ => ?_, fun _ => True.intro⟩
    obtain ⟨hn, -⟩ | ⟨event, s', hn, hp, -⟩ | ⟨front, id, back, event, s', hn, hp, -⟩ :=
      next_cases s
    · simpa only [step, hn] using h
    · simpa only [step, hn] using h.popped hp
    · simpa only [step, hn] using h.popped hp
  | drainDropCounts => exact ⟨fun _ => ⟨h.within, h.control⟩, fun _ => True.intro⟩

/-- For every configuration and every run, the limits hold in all states exactly if all calls keep
to the condition. -/
theorem orderly_iff_keepsLimits (sizes : AList fun _ : DataId => Nat)
    (queuePolicies : AList fun _ : DataId => QueuePolicy) (ops : List Op) :
    (∀ pre, pre <+: ops → Orderly (after sizes queuePolicies pre)) ↔
      Machine.Along step KeepsLimits (init sizes queuePolicies) ops := by
  have hinit : Orderly (init sizes queuePolicies) :=
    ⟨fun i => by simp [queueOf_init], fun e he => by simp [queueOf_init] at he⟩
  rw [Machine.along_iff_forall_prefix step (fun s => WF s ∧ Orderly s)
    (fun _ op => keepsLimits_iff op) ops ⟨wf_init sizes queuePolicies, hinit⟩]
  exact forall₂_congr fun pre _ => (and_iff_right (wf_after sizes queuePolicies pre)).symm

/-- A response is queued by an input of size zero, and an input is queued under the reserved key. -/
theorem responseAtZero_not_orderly :
    ¬ Orderly (after (AList.singleton audio 0) ∅ [.addEvent (sampleResponse "req-1")]) ∧
      ¬ Orderly (after (AList.singleton nonInputEvent 1000) ∅
        [.addEvent (sampleInput nonInputEvent ∅)]) :=
  ⟨fun h => absurd (h.within audio) (by decide),
    fun h => absurd (h.control (sampleInput nonInputEvent ∅) (mem_singleton_self _))
      (by decide)⟩

end Scheduler
end DoraSpec.Node
