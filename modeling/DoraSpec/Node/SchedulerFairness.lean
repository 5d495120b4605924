import DoraSpec.Base.Recency
import DoraSpec.Node.SchedulerAccounting
import Mathlib.Data.List.Perm.Subperm

/-!
# Fair service of inputs

A waiting input is overtaken by at most one event of each other known input, whatever arrives
meanwhile: the inputs ahead of it in the order of service are its potential, and each event of
another input lowers it. Events under the reserved key are not inputs; an input that uses the
reserved key as its identifier is served with their priority and breaks the bound.
-/

namespace DoraSpec.Node
open Base Message List Machine

namespace Scheduler

/-- Number of inputs known to the scheduler. -/
def knownInputs (s : Scheduler) : Nat :=
  s.eventQueues.keys.countP (fun i => decide (i ≠ nonInputEvent))

/-- Input events of other inputs that a call yielded. -/
def otherInputs (b : DataId) : Out → List EventItem
  | .yielded (some event) => if event.isInput = true ∧ event.queueId ≠ b then [event] else []
  | _ => []

/-- The call adds no input event under the reserved key of the other events. -/
def KeepsReserved : Op → Prop
  | .addEvent event => event.isInput = true → event.queueId ≠ nonInputEvent
  | _ => True

instance : (op : Op) → Decidable (KeepsReserved op)
  | .addEvent event =>
    inferInstanceAs (Decidable (event.isInput = true → event.queueId ≠ nonInputEvent))
  | .next => .isTrue True.intro
  | .drainDropCounts => .isTrue True.intro

/-! ### Emptiness -/

variable {s : Scheduler} {b : DataId}

private theorem mem_of_queueOf {i : DataId} (h : s.queueOf i ≠ []) :
    i ∈ s.eventQueues := by
  rw [← AList.lookup_isSome]
  unfold queueOf at h
  cases hl : s.eventQueues.lookup i with
  | none => simp [hl] at h
  | some p => rfl

private theorem next_eq_none_iff (h : WF s) :
    s.next.1 = none ↔ ∀ i, s.queueOf i = [] := by
  obtain ⟨hn, he, ha⟩ | ⟨event, s', hn, hp, -⟩ | ⟨front, id, back, event, s', hn, hp, -⟩ :=
    next_cases s
  · rw [hn]
    refine ⟨fun _ i => ?_, fun _ => rfl⟩
    by_contra hq
    by_cases hi : i = nonInputEvent
    · exact hq (hi ▸ he)
    · exact hq (ha i (h.listed i (mem_of_queueOf hq) hi))
  · rw [hn]
    refine ⟨fun hx => (by cases hx), fun hx => ?_⟩
    have := hx nonInputEvent
    rw [hp.queue] at this
    cases this
  · rw [hn]
    refine ⟨fun hx => (by cases hx), fun hx => ?_⟩
    have := hx id
    rw [hp.queue] at this
    cases this

/-! ### The potential of a waiting input -/

private def potential (s : Scheduler) (b : DataId) : Nat :=
  (Recency.ahead b s.lastUsed).countP (fun i => decide (i ≠ nonInputEvent))

private def Reserved (s : Scheduler) : Prop :=
  ∀ event ∈ s.queueOf nonInputEvent, event.isInput = false

private theorem potential_lt (h : WF s) (hb : b ∈ s.lastUsed) (hn : b ≠ nonInputEvent) :
    s.potential b < s.knownInputs := by
  apply Nat.lt_of_lt_of_le (Recency.countP_ahead_lt _ b s.lastUsed hb (by simpa using hn))
  unfold knownInputs
  rw [countP_eq_length_filter, countP_eq_length_filter]
  apply List.Subperm.length_le
  apply subperm_of_subset (h.nodup.filter _)
  intro i hi
  have := mem_filter.mp hi
  exact mem_filter.mpr ⟨h.known i this.1, this.2⟩

private theorem queueOf_addEvent_ne_nil (h : WF s) (event : EventItem) (hb : s.queueOf b ≠ []) :
    (s.addEvent event).queueOf b ≠ [] := by
  rw [queueOf_addEvent]
  split
  · next hi =>
    intro hn
    obtain ⟨hq, hc, -⟩ := ProtectedQueue.offer_eq_nil isCorrelated hn
    rw [flushedQueue_of_cap_zero h event hc, ← hi] at hq
    exact hb hq
  · exact hb

private theorem next_potential (h : WF s) (hr : Reserved s) (hl : b ∈ s.lastUsed)
    (hb : s.queueOf b ≠ []) (hy : yieldedFor b (.yielded s.next.1) = []) :
    b ∈ s.next.2.lastUsed ∧
      (otherInputs b (.yielded s.next.1)).length + s.next.2.potential b ≤ s.potential b := by
  obtain ⟨-, -, ha⟩ | ⟨event, s', hs, hp, hu⟩ |
    ⟨front, id, back, event, s', hs, hp, he, hu, hf, hu'⟩ := next_cases s
  · exact absurd (ha b hl) hb
  · have hi : event.isInput = false := hr event (by rw [hp.queue]; exact mem_cons_self)
    rw [hs]
    refine ⟨hu.symm ▸ hl, ?_⟩
    simp [otherInputs, hi, potential, hu]
  · have hid := queueId_popped h hp
    rw [hs] at hy ⊢
    have hne : id ≠ b := by
      intro hx
      simp [yieldedFor, hid, hx] at hy
    have hnon : id ≠ nonInputEvent := by
      intro hx
      rw [← hx, hp.queue] at he
      cases he
    have hbf : b ∉ front := fun hm => hb (hf b hm)
    have hbb : b ∈ back := by
      rw [hu] at hl
      rcases mem_append.mp hl with hm | hm
      · exact absurd hm hbf
      · exact (mem_cons.mp hm).resolve_left (Ne.symm hne)
    have hpot := Recency.countP_ahead_serve (fun i => decide (i ≠ nonInputEvent)) b id front back
      hbf hbb hne (by simpa using hnon)
    refine ⟨by rw [hu']; simp [hbb], ?_⟩
    have hone : (otherInputs b (.yielded (some event))).length ≤ 1 := by
      simp only [otherInputs]
      split <;> simp
    simp only [potential, hu, hu'] at hpot ⊢
    omega

/-- Progress of a waiting input: while it is not served, its potential pays for every input
event that overtakes it. -/
private structure Waiting (b : DataId) (bound : Nat) (outs : List Out) (s : Scheduler) :
    Prop where
  wf : WF s
  reserved : Reserved s
  unserved : (∀ out ∈ outs, yieldedFor b out = []) → b ∈ s.lastUsed ∧ s.queueOf b ≠ [] ∧
    (outs.flatMap (otherInputs b)).length + s.potential b ≤ bound

private theorem Reserved.step (hw : WF s) (h : Reserved s) (op : Op) (hk : KeepsReserved op) :
    Reserved (s.step op).1 := by
  intro event he
  cases op with
  | addEvent arriving =>
    simp only [Scheduler.step, queueOf_addEvent] at he
    split at he
    · next hi =>
      have hm := (ProtectedQueue.offer_sublist _ _ _ _).subset he
      rcases mem_append.mp hm with hq | hx
      · exact h event (hi ▸ (s.flushedQueue_sublist arriving).subset hq)
      · rw [mem_singleton.mp hx]
        by_contra hn
        exact hk (by simpa using hn) hi.symm
    · exact h event he
  | next =>
    apply h event
    rw [(queueOf_next hw nonInputEvent).1]
    exact mem_append_right _ he
  | drainDropCounts => exact h event he

private theorem waiting_step (bound : Nat) (outs : List Out) (s : Scheduler) (op : Op)
    (h : Waiting b bound outs s) (hk : KeepsReserved op) :
    Waiting b bound (outs ++ [(s.step op).2]) (s.step op).1 where
  wf := h.wf.step op
  reserved := h.reserved.step h.wf op hk
  unserved hall := by
    have hold := h.unserved (fun out ho => hall out (mem_append_left _ ho))
    obtain ⟨hl, hb, hle⟩ := hold
    have hnew := hall (s.step op).2 (by simp)
    simp only [flatMap_append, flatMap_singleton, length_append]
    cases op with
    | addEvent event =>
      have hpot : (s.addEvent event).potential b = s.potential b := by
        unfold potential
        rw [lastUsed_addEvent]
        split
        · rfl
        · rw [Recency.ahead_append b _ _ hl]
      refine ⟨?_, queueOf_addEvent_ne_nil h.wf event hb, ?_⟩
      · change b ∈ (s.addEvent event).lastUsed
        rw [lastUsed_addEvent]
        split
        · exact hl
        · exact mem_append_left _ hl
      · change _ + 0 + (s.addEvent event).potential b ≤ bound
        omega
    | next =>
      obtain ⟨hl', hpot⟩ := next_potential h.wf h.reserved hl hb hnew
      have hq := (queueOf_next h.wf b).1
      change yieldedFor b (.yielded s.next.1) = [] at hnew
      rw [hnew, nil_append] at hq
      refine ⟨hl', fun hx => hb (hq.trans hx), ?_⟩
      change _ + (otherInputs b (.yielded s.next.1)).length + s.next.2.potential b ≤ bound
      omega
    | drainDropCounts => exact ⟨hl, hb, hle⟩

/-! ### Whole runs -/

/-- Nothing is queued for a key that is not served while an event that is not an input waits:
the reserved key itself never waits. -/
theorem no_receive_while_reserved_waits (s : Scheduler) (hw : WF s) (more : List Op)
    (hb : s.queueOf nonInputEvent ≠ [])
    (hns : ∀ out ∈ (Machine.run step s more).2, yieldedFor nonInputEvent out = []) :
    (Machine.run step s more).2.flatMap (otherInputs nonInputEvent) = [] := by
  induction more generalizing s with
  | nil => rfl
  | cons op more ih =>
    simp only [run_cons, mem_cons, forall_eq_or_imp] at hns
    simp only [run_cons, flatMap_cons]
    cases op with
    | addEvent event =>
      exact ih _ (hw.step _) (queueOf_addEvent_ne_nil hw event hb) hns.2
    | next =>
      obtain ⟨hs, he, -⟩ | ⟨event, s', hs, hp, -⟩ |
        ⟨front, id, back, event, s', hs, hp, he, -⟩ := next_cases s
      · exact absurd he hb
      · have hid := queueId_popped hw hp
        simp [step, hs, yieldedFor, hid] at hns
      · exact absurd he hb
    | drainDropCounts => exact ih _ (hw.step _) hb hns.2

/-- In every run that adds no input under the reserved key: a receive returns nothing exactly
when every queue is empty, and while an input with a queued event is not served, receives yield
at most one event of each other known input, whatever is added meanwhile. -/
theorem fair_service (sizes : AList fun _ : DataId => Nat)
    (queuePolicies : AList fun _ : DataId => QueuePolicy) (ops : List Op)
    (h : ∀ op ∈ ops, KeepsReserved op) :
    ((after sizes queuePolicies ops).next.1 = none ↔
      ∀ i, (after sizes queuePolicies ops).queueOf i = []) ∧
    ∀ b more, (after sizes queuePolicies ops).queueOf b ≠ [] →
      (∀ op ∈ more, KeepsReserved op) →
      (∀ out ∈ (Machine.run step (after sizes queuePolicies ops) more).2,
        yieldedFor b out = []) →
      ((Machine.run step (after sizes queuePolicies ops) more).2.flatMap
        (otherInputs b)).length ≤ (after sizes queuePolicies ops).knownInputs - 1 := by
  have hw := wf_after sizes queuePolicies ops
  have hr : Reserved (after sizes queuePolicies ops) :=
    (invariant step (fun s => WF s ∧ Reserved s)
      (fun _ op hi hk => ⟨hi.1.step op, hi.2.step hi.1 op hk⟩) _ ops
      ⟨wf_init sizes queuePolicies, fun _ he => by simp [queueOf_init] at he⟩
      (along_of_forall step ops (fun op ho _ => h op ho) _)).2
  generalize after sizes queuePolicies ops = s at hw hr ⊢
  refine ⟨next_eq_none_iff hw, ?_⟩
  intro b more hb hmore hns
  by_cases hn : b = nonInputEvent
  · subst hn
    rw [no_receive_while_reserved_waits s hw more hb hns]
    exact Nat.zero_le _
  · have hl := hw.listed b (mem_of_queueOf hb) hn
    have h0 : Waiting b (s.potential b) [] s := ⟨hw, hr, fun _ => ⟨hl, hb, by simp⟩⟩
    have hlt := potential_lt hw hl hn
    have hend := history_invariant step (P := fun _ op => KeepsReserved op)
      (Waiting b (s.potential b)) (waiting_step _) [] s more h0
      (along_of_forall step more (fun op ho _ => hmore op ho) s)
    have := (hend.unserved hns).2.2
    rw [nil_append] at this
    omega

/-- Identifier of a second sample input. -/
def video : DataId := ⟨"video", by decide⟩

/-- Two inputs of size two, one chunk of `audio` and two of `video` queued. -/
def sampleShared : List Op :=
  [.addEvent sampleChunk, .addEvent (sampleInput video ∅), .addEvent (sampleInput video ∅)]

/-- Two inputs share the service: one event of `video` is yielded before `audio` is served. -/
theorem fair_service_shared :
    ((Machine.run step (after (AList.insert video 2 (AList.singleton audio 2)) ∅ sampleShared)
      [.next, .addEvent (sampleInput video ∅)]).2.flatMap (otherInputs audio)).length ≤
    (after (AList.insert video 2 (AList.singleton audio 2)) ∅ sampleShared).knownInputs - 1 :=
  (fair_service _ _ _ (by decide)).2 audio _ (by decide) (by decide) (by decide)

/-- A configured input whose identifier is the reserved key: one chunk of `audio` and two
events of that input are queued. -/
def sampleReserved : Scheduler :=
  after (AList.insert nonInputEvent 1000 (AList.singleton audio 2)) ∅
    [.addEvent sampleChunk, .addEvent (sampleInput nonInputEvent ∅),
      .addEvent (sampleInput nonInputEvent ∅)]

/-- The input under the reserved key overtakes `audio` with both of its events, although only
two inputs are known. -/
theorem reserved_input_overtakes :
    sampleReserved.queueOf audio ≠ [] ∧
      (∀ out ∈ (Machine.run step sampleReserved [.next, .next]).2, yieldedFor audio out = []) ∧
      sampleReserved.eventQueues.keys.length - 1 <
        ((Machine.run step sampleReserved [.next, .next]).2.flatMap
          (otherInputs audio)).length := by
  decide

end Scheduler
end DoraSpec.Node
