import Mathlib.Data.UInt
import DoraSpec.Daemon.EventChannels

/-!
# Counting the events of a channel

What the counter of a node and the places reserved for control events say about the events that are
in its channel, over every interleaving of the event loop and the listeners.
-/

namespace DoraSpec.Daemon.EventChannels
open Base Message Function Subscription List State Machine
open Node (NodeEvent DataMessage)
open Daemon.DropTokens
  (nodeEventChannelCapacity controlEventHeadroom EventChannel TrySendError)

/-! ## One attempt to send -/

variable {sub : Subscription}

namespace Subscription

/-- The channel takes the event. -/
structure Fits (sub : Subscription) (event : NodeEvent) : Prop where
  listens : sub.closed = false
  place : 0 < sub.capacity
  headroom : isControl event = false → controlEventHeadroom ≤ sub.capacity

variable (sub : Subscription) (event : NodeEvent)

private theorem trySend_eq :
    sub.trySend event =
      if sub.closed then .error .closed
      else if sub.capacity = 0 then .error .full
      else .ok (sub.push event) := by
  change Except.map _ (if sub.closed then _ else if sub.capacity = 0 then _ else _) = _
  split
  · rfl
  · split <;> rfl

private theorem attempt_eq :
    sub.attempt event =
      if sub.closed then (sub, .closed)
      else if sub.capacity = 0 then (sub, .dropped)
      else (sub.push event, .delivered) := by
  unfold attempt
  rw [trySend_eq]
  by_cases hc : sub.closed
  · simp only [hc, if_true]
  · by_cases h : sub.capacity = 0 <;> simp only [hc, h, if_true, if_false, Bool.false_eq_true]

private theorem attempt_cases (h : isControl event = false → controlEventHeadroom ≤ sub.capacity) :
    (sub.attempt event = (sub.push event, .delivered) ∧ sub.Fits event) ∨
      ∃ r, r ≠ .delivered ∧ sub.attempt event = (sub, r) := by
  rw [attempt_eq]
  by_cases hc : sub.closed
  · exact .inr ⟨.closed, by decide, if_pos hc⟩
  · by_cases hcap : sub.capacity = 0
    · exact .inr ⟨.dropped, by decide, by rw [if_neg hc, if_pos hcap]⟩
    · refine .inl ⟨by rw [if_neg hc, if_neg hcap], ?_⟩
      exact ⟨by simpa using hc, Nat.pos_of_ne_zero hcap, h⟩

private theorem Fits.attempt {event : NodeEvent} (h : sub.Fits event) :
    sub.attempt event = (sub.push event, .delivered) := by
  rw [attempt_eq, if_neg (by simp [h.listens]), if_neg (Nat.ne_of_gt h.place)]

private theorem Fits.sendWithTimestamp {event : NodeEvent} (h : sub.Fits event) :
    sub.sendWithTimestamp event = (sub.push event, .delivered) := by
  unfold Subscription.sendWithTimestamp
  rw [if_neg, h.attempt]
  simpa using h.headroom

private theorem Fits.sendInput {id : DataId} {metadata : Metadata} {data : Option DataMessage}
    (h : sub.Fits (.input id metadata data)) :
    sub.sendInput id metadata data = (sub.push (.input id metadata data), .delivered) := by
  unfold Subscription.sendInput
  rw [if_neg (Nat.not_lt_of_le (h.headroom rfl)), h.attempt]

private theorem sendWithTimestamp_cases (sub : Subscription) (event : NodeEvent) :
    (sub.sendWithTimestamp event = (sub.push event, .delivered) ∧ sub.Fits event) ∨
      ∃ r, r ≠ .delivered ∧ sub.sendWithTimestamp event = (sub, r) := by
  unfold sendWithTimestamp
  split
  · exact .inr ⟨.dropped, by decide, rfl⟩
  · next h =>
    refine attempt_cases sub event fun hdata => ?_
    simpa [hdata] using h

private theorem sendInput_cases (sub : Subscription) (id : DataId) (metadata : Metadata)
    (data : Option DataMessage) :
    (sub.sendInput id metadata data = (sub.push (.input id metadata data), .delivered) ∧
        sub.Fits (.input id metadata data)) ∨
      ∃ r, r ≠ .delivered ∧ sub.sendInput id metadata data = (sub, r) := by
  unfold sendInput
  split
  · exact .inr ⟨.dropped, by decide, rfl⟩
  · next h => exact attempt_cases sub _ fun _ => Nat.le_of_not_lt h

end Subscription

/-! ## What a step keeps -/

/-- The counter of the node has still to be incremented for an event in its channel. -/
def State.owes (s : State) (node : NodeId) : Bool :=
  match s.task with
  | .incPending n => n = node
  | _ => false

/-- Every subscription meets `P`, which sees whether an increment is owed. -/
def Each (P : Bool → Subscription → Prop) (s : State) : Prop :=
  ∀ node sub, s.subscriptions node = some sub → P (s.owes node) sub

/-- The step sends the event to the node. -/
inductive Sends : Event → NodeId → NodeEvent → Prop
  | send (node : NodeId) (event : NodeEvent) : Sends (.send node event) node event
  | sendInput (node : NodeId) (id : DataId) (metadata : Metadata) (data : Option DataMessage) :
      Sends (.sendInput node id metadata data) node (.input id metadata data)

/-- `P` survives everything that the step can do to a subscription. -/
structure Keeps (P : Bool → Subscription → Prop) (s : State) (e : Event) : Prop where
  subscribe : P false {}
  push : ∀ node sub event, Sends e node event → s.task = .idle →
    s.subscriptions node = some sub → sub.connected = true → sub.Fits event →
    P false sub → P (counted event) (sub.push event)
  awaited : ∀ sub restarted, sub.Fits (.nodeRestarted restarted) → P false sub →
    P true (sub.push (.nodeRestarted restarted))
  inc : ∀ node sub, s.subscriptions node = some sub → P true sub →
    P false { sub with pendingCounter := sub.pendingCounter + 1 }
  disconnect : ∀ sub, P false sub → P false { sub with connected := false }
  receive : ∀ node sub, e = .receive node → s.subscriptions node = some sub → sub.closed = false →
    P (s.owes node) sub → P (s.owes node) sub.receive
  dec : ∀ node sub, e = .decPending node → s.subscriptions node = some sub → sub.closed = false →
    P (s.owes node) sub → P (s.owes node) sub.decPending
  hangUp : ∀ b sub, P b sub → P b sub.hangUp

variable {P : Bool → Subscription → Prop} {node : NodeId} {s : State} {event : NodeEvent}
  {e : Event}

private theorem each_set {task : Task} (h : Each P s) (hsub : P ({ s with task }.owes node) sub)
    (hother : ∀ n, n ≠ node → { s with task }.owes n = s.owes n) :
    Each P { s.set node sub with task } := by
  intro n sub' hn
  change update s.subscriptions node (some sub) n = some sub' at hn
  by_cases hnode : n = node
  · subst hnode
    rw [update_self] at hn
    cases hn
    exact hsub
  · rw [update_of_ne hnode] at hn
    have := h n sub' hn
    rwa [← hother n hnode] at this

private theorem each_initial (P : Bool → Subscription → Prop) : Each P {} := by
  intro node sub hs
  cases hs

private theorem each_idle (h : Each P s) (howes : ∀ node, s.owes node = false) :
    Each P { s with task := .idle } := by
  intro node sub hs
  have := h node sub hs
  rwa [howes] at this

private theorem each_removeNode (h : Each P s) (node : NodeId) : Each P (s.removeNode node) := by
  intro n sub hn
  change update s.subscriptions node none n = some sub at hn
  by_cases hnode : n = node
  · subst hnode
    simp at hn
  · rw [update_of_ne hnode] at hn
    exact h n sub hn

private theorem owes_of_idle (h : s.task = .idle) (node : NodeId) :
    s.owes node = false := by
  simp [owes, h]

private theorem each_sendBy {f : Subscription → Subscription × SendResult} (h : Each P s)
    (hidle : s.task = .idle)
    (hf : ∀ sub, (f sub = (sub.push event, .delivered) ∧ sub.Fits event) ∨
      ∃ r, r ≠ .delivered ∧ f sub = (sub, r))
    (hpush : ∀ sub, s.subscriptions node = some sub → sub.connected = true → sub.Fits event →
      P false sub → P (counted event) (sub.push event)) :
    Each P (s.sendBy node event f) := by
  unfold sendBy
  cases hs : s.subscriptions node with
  | none => exact h
  | some sub =>
    have hsub : P false sub := by simpa [owes_of_idle hidle] using h node sub hs
    dsimp only
    split
    · next hconn =>
      obtain ⟨hd, hfits⟩ | ⟨r, hr, hd⟩ := hf sub
      · rw [hd]
        refine each_set h ?_ fun n hn => ?_
        · have := hpush sub hs hconn hfits hsub
          cases hc : counted event <;> simpa [owes, afterSend, hc] using this
        · rw [owes_of_idle hidle]
          cases hc : counted event <;> simp [owes, afterSend, hc, hn.symm]
      · rw [hd]
        have howes : ∀ n, { s with task := afterSend node event r }.owes n = false := by
          intro n
          unfold owes afterSend
          cases r with
          | delivered => exact absurd rfl hr
          | dropped => cases event <;> rfl
          | closed => rfl
        refine each_set h ?_ fun n _ => ?_
        · rwa [howes]
        · rw [howes, owes_of_idle hidle]
    · exact h

private theorem each_proceed (h : Each P s) (k : Keeps P s e) : Each P s.proceed := by
  unfold proceed
  cases ht : s.task with
  | idle => exact h
  | incPending node =>
    dsimp only
    unfold incPending
    cases hs : s.subscriptions node with
    | none =>
      intro n sub hn
      have := h n sub hn
      have hne : node ≠ n := by
        rintro rfl
        exact absurd (hs.symm.trans hn) (by simp)
      simpa [owes, ht, hne] using this
    | some sub =>
      refine each_set h ?_ fun n hn => by simp [owes, ht, hn.symm]
      exact k.inc node sub hs (by simpa [owes, ht] using h node sub hs)
  | awaitSend node restarted =>
    dsimp only
    have howes : ∀ n, s.owes n = false := fun n => by simp [owes, ht]
    cases hs : s.subscriptions node with
    | none => exact each_idle h howes
    | some sub =>
      dsimp only
      rw [trySend_eq]
      by_cases hc : sub.closed
      · rw [if_pos hc]
        exact each_idle h howes
      · by_cases hcap : sub.capacity = 0
        · rw [if_neg hc, if_pos hcap]
          exact h
        · rw [if_neg hc, if_neg hcap]
          have hfits : sub.Fits (.nodeRestarted restarted) :=
            ⟨by simpa using hc, Nat.pos_of_ne_zero hcap, nofun⟩
          have hsub : P false sub := by simpa [howes] using h node sub hs
          refine each_set h ?_ fun n hn => by simp [owes, ht, hn.symm]
          simpa [owes] using k.awaited sub restarted hfits hsub

private theorem each_listen {f : Subscription → Subscription} (h : Each P s)
    (hf : ∀ sub, s.subscriptions node = some sub → sub.closed = false → P (s.owes node) sub →
      P (s.owes node) (f sub)) : Each P (s.listen node f) := by
  unfold State.listen
  cases hs : s.subscriptions node with
  | none => exact h
  | some sub =>
    dsimp only
    split
    · exact h
    · next hc => exact each_set h (hf sub hs (by simpa using hc) (h node sub hs)) fun _ _ => rfl

private theorem each_disconnect (h : Each P s) (k : Keeps P s e) (hidle : s.task = .idle)
    (node : NodeId) :
    Each P (s.disconnect node) := by
  unfold disconnect
  cases hs : s.subscriptions node with
  | none => exact h
  | some sub =>
    refine each_set h ?_ fun _ _ => rfl
    have hsub := h node sub hs
    rw [owes_of_idle hidle] at hsub
    simpa [owes_of_idle hidle] using k.disconnect sub hsub

private theorem Keeps.each (k : Keeps P s e) (h : Each P s) : Each P (step s e).1 := by
  unfold step
  split
  · next node hidle =>
    exact each_set h (by simpa [owes_of_idle hidle] using k.subscribe) fun _ _ => rfl
  · next node event hidle =>
    exact each_sendBy h hidle (sendWithTimestamp_cases · event)
      fun sub => k.push node sub event (.send node event) hidle
  · next node id metadata data hidle =>
    exact each_sendBy h hidle (sendInput_cases · id metadata data)
      fun sub => k.push node sub _ (.sendInput node id metadata data) hidle
  · next node hidle => exact each_disconnect h k hidle node
  · next node _ => exact each_removeNode h node
  · exact each_proceed h k
  · next node => exact each_listen h fun sub => k.receive node sub rfl
  · next node => exact each_listen h fun sub => k.dec node sub rfl
  · next node => exact each_listen h fun sub _ _ => k.hangUp _ sub
  · exact h

/-- No channel holds more events than it has places. -/
def Bounded (s : State) : Prop :=
  Each (fun _ sub => sub.queue.length ≤ nodeEventChannelCapacity) s

private theorem bounded_step (s : State) (e : Event) (h : Bounded s) : Bounded (step s e).1 := by
  have hpush : ∀ (sub : Subscription) (event : NodeEvent), sub.Fits event →
      (sub.push event).queue.length ≤ nodeEventChannelCapacity := by
    intro sub event hfits
    have : 0 < nodeEventChannelCapacity - sub.queue.length := hfits.place
    simp only [push, length_append, length_singleton]
    omega
  refine Keeps.each (e := e) ⟨Nat.zero_le _,
    fun _ sub event _ _ _ _ hfits _ => hpush sub event hfits,
    fun sub _ hfits _ => hpush sub _ hfits, fun _ _ _ h => h, fun _ h => h, ?_, ?_, ?_⟩ h
  · intro _ sub _ _ _ hsub
    unfold receive
    split
    · exact hsub
    · next hq =>
      rw [hq] at hsub
      split
      · rwa [hq]
      · exact Nat.le_of_succ_le hsub
  · intro _ sub _ _ _ hsub
    unfold decPending
    split <;> exact hsub
  · intro _ sub hsub
    unfold hangUp
    split
    · exact hsub
    · exact Nat.zero_le _

section

variable {sub : Subscription} (he : Sends e node event) (hidle : s.task = .idle)
  (hs : s.subscriptions node = some sub) (hconn : sub.connected = true) (hfits : sub.Fits event)
include he hidle hs hconn hfits

private theorem step_of_fits : (step s e).1 =
    { s.set node (sub.push event) with task := afterSend node event .delivered } := by
  cases he with
  | send =>
    simp only [step, hidle, sendBy, hs, hconn, if_true, hfits.sendWithTimestamp]
  | sendInput => simp only [step, hidle, sendBy, hs, hconn, if_true, hfits.sendInput]

private theorem subscriptions_step_of_fits :
    (step s e).1.subscriptions node = some (sub.push event) := by
  rw [step_of_fits he hidle hs hconn hfits]
  exact update_self ..

end

/-! ## The counter -/

/-- The counter is the number of events in the channel, up to the change that the event loop or the
listener is about to make. -/
def Subscription.Accurate (owes : Bool) (sub : Subscription) : Prop :=
  sub.closed = false → sub.pendingCounter.toNat + owes.toNat = sub.queue.length + sub.taken.toNat

/-- The step puts no event into a channel that is not counted, and decrements no counter for an
event whose increment is still to come. -/
structure Counts (s : State) (e : Event) : Prop where
  sends : ∀ node sub event, Sends e node event → s.task = .idle →
    s.subscriptions node = some sub → sub.connected = true → sub.Fits event → counted event = true
  decrements : ∀ node sub, e = .decPending node → s.subscriptions node = some sub →
    sub.closed = false → sub.taken = true → s.owes node = true → sub.queue ≠ []

private theorem keeps_accurate (hb : Bounded s) (h : Counts s e) :
    Keeps Subscription.Accurate s e where
  subscribe := fun _ => rfl
  push := by
    intro node sub event he hidle hs hconn hfits hsub hopen
    have := hsub hopen
    simp only [h.sends node sub event he hidle hs hconn hfits, push,
      length_append, length_singleton, Bool.toNat_true, Bool.toNat_false] at this ⊢
    omega
  awaited := by
    intro sub restarted _ hsub hopen
    have := hsub hopen
    simp only [push, length_append, length_singleton, Bool.toNat_true,
      Bool.toNat_false] at this ⊢
    omega
  inc := by
    intro node sub hs hsub hopen
    have hcount := hsub hopen
    have hlen : sub.queue.length ≤ 1000 := hb node sub hs
    have htaken := sub.taken.toNat_le
    simp only [Bool.toNat_true, Bool.toNat_false] at hcount ⊢
    have : (sub.pendingCounter + 1).toNat = sub.pendingCounter.toNat + 1 := by
      rw [UInt64.toNat_add, UInt64.toNat_one]
      omega
    omega
  disconnect := fun _ hsub => hsub
  receive := by
    intro node sub _ _ _ hsub
    unfold receive
    split
    · exact hsub
    · next hq =>
      split
      · exact hsub
      · next htaken =>
        intro hopen
        have := hsub hopen
        simp only [hq, length_cons, htaken, Bool.toNat_true, Bool.toNat_false] at this ⊢
        omega
  dec := by
    intro node sub he hs hopen hsub
    unfold decPending
    split
    · next htaken =>
      intro _
      have hcount := hsub hopen
      have hqueue := h.decrements node sub he hs hopen htaken
      simp only [htaken, Bool.toNat_true] at hcount
      have hpos : 1 ≤ sub.pendingCounter.toNat := by
        cases howes : s.owes node
        · simp only [howes, Bool.toNat_false] at hcount
          omega
        · have := length_pos_iff.mpr (hqueue howes)
          simp only [howes, Bool.toNat_true] at hcount
          omega
      have : (sub.pendingCounter - 1).toNat = sub.pendingCounter.toNat - 1 :=
        UInt64.toNat_sub_of_le _ _ (by simpa [UInt64.le_iff_toNat_le] using hpos)
      simp only [Bool.toNat_false]
      omega
    · exact hsub
  hangUp := by
    intro b sub hsub
    unfold hangUp
    split
    · exact hsub
    · nofun

private theorem counts_of_accurate (h : Each Subscription.Accurate s)
    (h' : Each Subscription.Accurate (step s e).1) : Counts s e where
  sends := by
    intro node sub event he hidle hs hconn hfits
    by_contra hc
    have hcount := h node sub hs hfits.listens
    have hcount' := h' node _ (subscriptions_step_of_fits he hidle hs hconn hfits) hfits.listens
    rw [owes_of_idle hidle] at hcount
    simp only [step_of_fits he hidle hs hconn hfits, owes, afterSend, hc, push,
      length_append, length_singleton, Bool.toNat_false, if_false] at hcount hcount'
    omega
  decrements := by
    rintro node sub rfl hs hopen htaken howes hqueue
    have hcount := h node sub hs hopen
    simp only [howes, htaken, hqueue, length_nil, Bool.toNat_true] at hcount
    have hzero : sub.pendingCounter = 0 := UInt64.toNat_inj.mp (by simpa using hcount)
    have hs' : (step s (.decPending node)).1.subscriptions node = some sub.decPending := by
      simp [step, State.listen, hs, hopen, State.set]
    have hcount' := h' node _ hs' (by simp [decPending, htaken, hopen])
    -- The counter has wrapped around.
    simp only [decPending, htaken, if_true, hzero, hqueue, length_nil,
      Bool.toNat_false] at hcount'
    revert hcount'
    simp

private theorem counts_iff (h : Bounded s ∧ Each Subscription.Accurate s) :
    Counts s e ↔ Bounded (step s e).1 ∧ Each Subscription.Accurate (step s e).1 :=
  ⟨fun hc => ⟨bounded_step s e h.1, (keeps_accurate h.1 hc).each h.2⟩,
    fun h' => counts_of_accurate h.2 h'.2⟩

private theorem bounded_run (events : List Event) : Bounded (Machine.run step {} events).1 :=
  always step Bounded bounded_step (each_initial _) events

/-- The counters are right at every moment of a run if and only if every step counts: no
`NodeFailed` is put into a channel, and no listener overtakes the increment for the event that it
has taken out. -/
theorem accurate_iff_counts (events : List Event) :
    (∀ pre, pre <+: events → Each Subscription.Accurate (Machine.run step {} pre).1) ↔
      Machine.Along step Counts {} events := by
  rw [Machine.along_iff_forall_prefix step (fun s => Bounded s ∧ Each Subscription.Accurate s)
    (fun _ _ h => counts_iff h) events ⟨each_initial _, each_initial _⟩]
  exact ⟨fun h pre hpre => ⟨bounded_run pre, h pre hpre⟩, fun h pre hpre => (h pre hpre).2⟩

/-- Sample nodes. -/
def camera : NodeId := ⟨"camera"⟩

@[inherit_doc camera]
def lidar : NodeId := ⟨"lidar"⟩

/-- An event about a failed node is not counted, and a listener that is faster than the event loop
takes the counter below zero. -/
theorem not_accurate :
    ¬ Each Subscription.Accurate (Machine.run step {}
      [.subscribe camera, .send camera (.nodeFailed [] "exit code 1" lidar)]).1 ∧
    ¬ Each Subscription.Accurate (Machine.run step {}
      [.subscribe camera, .send camera .stop, .receive camera, .decPending camera]).1 := by
  constructor
  · intro h
    have hcount := h camera { queue := [.nodeFailed [] "exit code 1" lidar] } rfl rfl
    exact absurd hcount (by decide)
  · intro h
    have hcount := h camera { pendingCounter := 0 - 1 } rfl rfl
    exact absurd hcount (by decide)

/-! ## The headroom -/

/-- Data events leave the reserved places to control events, and a control event is dropped only if
those are taken by others of its kind. -/
structure Subscription.Reserved (sub : Subscription) : Prop where
  data : sub.dataEvents ≤ nodeEventChannelCapacity - controlEventHeadroom
  control : ∀ event, isControl event = true → (sub.sendWithTimestamp event).2 = .dropped →
    controlEventHeadroom ≤ sub.controlEvents

/-- The step puts no data event into a channel that has just the reserved places left and holds no
control event. -/
def LeavesHeadroom (s : State) (e : Event) : Prop :=
  ∀ node sub event, Sends e node event → s.task = .idle → s.subscriptions node = some sub →
    sub.connected = true → sub.Fits event → isControl event = false →
    sub.capacity = controlEventHeadroom → sub.controlEvents ≠ 0

namespace Subscription

private theorem length_queue (sub : Subscription) :
    sub.queue.length = sub.dataEvents + sub.controlEvents := by
  rw [dataEvents, controlEvents, Nat.add_comm]
  simpa using length_eq_countP_add_countP isControl (l := sub.queue)

private theorem dataEvents_push (sub : Subscription) (event : NodeEvent) :
    (sub.push event).dataEvents = sub.dataEvents + (!isControl event).toNat := by
  cases h : isControl event <;> simp [dataEvents, push, countP_append, h]

private theorem reserved_iff (h : sub.queue.length ≤ nodeEventChannelCapacity) :
    sub.Reserved ↔ sub.dataEvents ≤ nodeEventChannelCapacity - controlEventHeadroom := by
  refine ⟨Reserved.data, fun hdata => ⟨hdata, fun event hcontrol hdropped => ?_⟩⟩
  rw [sendWithTimestamp, if_neg (by simp [hcontrol]), attempt_eq] at hdropped
  have hcap : sub.capacity = 0 := by
    by_contra hne
    rw [if_neg hne] at hdropped
    split at hdropped <;> cases hdropped
  have hfull : nodeEventChannelCapacity - sub.queue.length = 0 := hcap
  have hlen := sub.length_queue
  simp only [nodeEventChannelCapacity, controlEventHeadroom] at h hdata hfull ⊢
  omega

end Subscription

private theorem keeps_data (h : LeavesHeadroom s e) :
    Keeps (fun _ sub => sub.dataEvents ≤ nodeEventChannelCapacity - controlEventHeadroom) s e where
  subscribe := Nat.zero_le _
  push := by
    intro node sub event he hidle hs hconn hfits hsub
    have hlen := sub.length_queue
    rw [dataEvents_push]
    cases hcontrol : isControl event
    · have hroom : controlEventHeadroom ≤ nodeEventChannelCapacity - sub.queue.length :=
        hfits.headroom hcontrol
      have hfree : nodeEventChannelCapacity - sub.queue.length = controlEventHeadroom →
          sub.controlEvents ≠ 0 := h node sub event he hidle hs hconn hfits hcontrol
      simp only [nodeEventChannelCapacity, controlEventHeadroom, Bool.not_false,
        Bool.toNat_true] at hsub hroom hfree ⊢
      omega
    · simpa using hsub
  awaited := by
    intro sub restarted _ hsub
    simpa [dataEvents_push, isControl] using hsub
  inc := fun _ _ _ hsub => hsub
  disconnect := fun _ hsub => hsub
  receive := by
    intro node sub _ _ _ hsub
    unfold receive
    split
    · exact hsub
    · next hq =>
      split
      · exact hsub
      · refine Nat.le_trans ?_ hsub
        simp only [dataEvents, hq, countP_cons]
        omega
  dec := by
    intro _ sub _ _ _ hsub
    unfold decPending
    split <;> exact hsub
  hangUp := by
    intro _ sub hsub
    unfold hangUp
    split
    · exact hsub
    · exact Nat.zero_le _

/-- Every channel keeps its headroom. -/
def Reserved (s : State) : Prop := Each (fun _ sub => sub.Reserved) s

private theorem reserved_iff_data (hb : Bounded s) :
    Reserved s ↔
      Each (fun _ sub => sub.dataEvents ≤ nodeEventChannelCapacity - controlEventHeadroom) s :=
  forall₃_congr fun node sub hs => reserved_iff (hb node sub hs)

private theorem leavesHeadroom_of_reserved (h' : Reserved (step s e).1) :
    LeavesHeadroom s e := by
  intro node sub event he hidle hs hconn hfits hdata hcap hnone
  have hnext := (h' node _ (subscriptions_step_of_fits he hidle hs hconn hfits)).data
  have hlen := sub.length_queue
  have hroom : nodeEventChannelCapacity - sub.queue.length = controlEventHeadroom := hcap
  rw [dataEvents_push, hdata] at hnext
  simp only [nodeEventChannelCapacity, controlEventHeadroom, Bool.not_false,
    Bool.toNat_true] at hnext hroom
  omega

private theorem leavesHeadroom_iff (h : Bounded s ∧ Reserved s) :
    LeavesHeadroom s e ↔ Bounded (step s e).1 ∧ Reserved (step s e).1 := by
  have hb := bounded_step s e h.1
  refine ⟨fun hc => ⟨hb, ?_⟩, fun h' => leavesHeadroom_of_reserved h'.2⟩
  exact (reserved_iff_data hb).mpr ((keeps_data hc).each ((reserved_iff_data h.1).mp h.2))

/-- The reserved places are kept for control events at every moment of a run if and only if no step
puts a data event into the first of them. -/
theorem reserved_iff_leavesHeadroom (events : List Event) :
    (∀ pre, pre <+: events → Reserved (Machine.run step {} pre).1) ↔
      Machine.Along step LeavesHeadroom {} events := by
  rw [Machine.along_iff_forall_prefix step (fun s => Bounded s ∧ Reserved s)
    (fun _ _ h => leavesHeadroom_iff h) events ⟨each_initial _, each_initial _⟩]
  exact ⟨fun h pre hpre => ⟨bounded_run pre, h pre hpre⟩, fun h pre hpre => (h pre hpre).2⟩

private def sendAll (e : Event) (count : Nat) : List Event :=
  (List.replicate count [e, .proceed]).flatten

private structure Fed (s : State) (node : NodeId) (queue : List NodeEvent) : Prop where
  idle : s.task = .idle
  subscribed : ∃ sub, s.subscriptions node = some sub ∧ sub.queue = queue ∧
    sub.connected = true ∧ sub.closed = false

private theorem fed_step {queue : List NodeEvent} (he : Sends e node event)
    (hcounted : counted event = true) (h : Fed s node queue)
    (hplace : queue.length < nodeEventChannelCapacity)
    (hroom : isControl event = false →
      queue.length ≤ nodeEventChannelCapacity - controlEventHeadroom) :
    Fed (Machine.run step s [e, .proceed]).1 node (queue ++ [event]) := by
  obtain ⟨sub, hs, rfl, hconn, hopen⟩ := h.subscribed
  have hfits : sub.Fits event := by
    refine ⟨hopen, Nat.sub_pos_of_lt hplace, fun hdata => ?_⟩
    have := hroom hdata
    change controlEventHeadroom ≤ nodeEventChannelCapacity - sub.queue.length
    simp only [nodeEventChannelCapacity, controlEventHeadroom] at this ⊢
    omega
  have hstep := step_of_fits he h.idle hs hconn hfits
  simp only [afterSend, hcounted, if_true] at hstep
  have hproceed : (run step s [e, .proceed]).1 =
      { (s.set node (sub.push event)).set node
          { sub.push event with pendingCounter := sub.pendingCounter + 1 } with task := .idle } := by
    simp only [run_cons, run_nil, hstep]
    simp [step, State.proceed, State.incPending, State.set, push]
  rw [hproceed]
  exact ⟨rfl, _, update_self .., rfl, hconn, hopen⟩

private theorem fed_sendAll (he : Sends e node event) (hcounted : counted event = true)
    (count : Nat) {queue : List NodeEvent} (h : Fed s node queue)
    (hplace : queue.length + count ≤ nodeEventChannelCapacity)
    (hroom : isControl event = false →
      queue.length + count ≤ nodeEventChannelCapacity - controlEventHeadroom + 1) :
    Fed (Machine.run step s (sendAll e count)).1 node (queue ++ List.replicate count event) := by
  induction count generalizing s queue with
  | zero => simpa [sendAll] using h
  | succ count ih =>
    have hnext := fed_step he hcounted h (by omega) fun hdata => by have := hroom hdata; omega
    have hall := ih hnext (by simp; omega) fun hdata => by have := hroom hdata; simp; omega
    rw [append_assoc] at hall
    simpa [sendAll, replicate_succ, run_append_fst] using hall

private def scanMetadata : Metadata where
  metadataVersion := 0
  timestamp := ⟨0, 0⟩
  typeInfo := ⟨.null, 0, 0, none, 0, [], [], none, none⟩
  parameters := ∅

private theorem fed_camera (data control : Nat)
    (hdata : data ≤ nodeEventChannelCapacity - controlEventHeadroom + 1)
    (hplace : data + control ≤ nodeEventChannelCapacity) :
    ∃ events : List Event, ∃ sub,
      (Machine.run step {} events).1.subscriptions camera = some sub ∧ sub.closed = false ∧
        sub.dataEvents = data ∧ sub.controlEvents = control := by
  have hstart : Fed (run step {} [.subscribe camera]).1 camera [] :=
    ⟨rfl, {}, rfl, rfl, rfl, rfl⟩
  have hinputs := fed_sendAll (.sendInput camera ⟨"scan", by decide⟩ scanMetadata none) rfl data
    hstart (by simp; omega) fun _ => by simpa using hdata
  have hall := fed_sendAll (.send camera .stop) rfl control hinputs (by simpa using hplace) nofun
  rw [← run_append_fst, ← run_append_fst] at hall
  obtain ⟨sub, hs, hqueue, hconn, hopen⟩ := hall.subscribed
  refine ⟨_, sub, hs, hopen, ?_, ?_⟩
  · simp [dataEvents, hqueue, countP_append, countP_replicate, isControl]
  · simp [controlEvents, hqueue, countP_append, countP_replicate, isControl]

/-- With 951 inputs and 49 other events in the channel the next event is dropped. -/
theorem not_reserved :
    ∃ events : List Event, ∃ sub,
      (Machine.run step {} events).1.subscriptions camera = some sub ∧
        sub.dataEvents = 951 ∧ sub.controlEvents = 49 ∧
        (sub.sendWithTimestamp .stop).2 = .dropped := by
  obtain ⟨events, sub, hs, hopen, hdata, hcontrol⟩ := fed_camera 951 49 (by decide) (by decide)
  refine ⟨events, sub, hs, hdata, hcontrol, ?_⟩
  have hcap : sub.capacity = 0 := by
    change nodeEventChannelCapacity - sub.queue.length = 0
    rw [sub.length_queue, hdata, hcontrol, nodeEventChannelCapacity]
  rw [sendWithTimestamp, if_neg (by simp [isControl]), attempt_eq,
    if_neg (by simp [hopen]), if_pos hcap]

end DoraSpec.Daemon.EventChannels
