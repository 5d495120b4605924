import DoraSpec.Node.EventStream
import DoraSpec.Node.EventThread

/-!
# The end of the event stream

Source `apis/rust/node/src/event_stream/mod.rs:299-437, 496-568` and `thread.rs:101-226`. The stream ends
when every sender of its channel is gone. The event thread has one, and so has the thread of each
zenoh subscription, which keeps it until the subscription ends.
-/

namespace DoraSpec.Node.StreamEnd
open Base Message Arrow

variable {Data : Type}

structure State (Data : Type) where
  thread : EventThread.State := {}
  /-- Inputs whose subscriber threads are running. -/
  subscribers : List DataId
  stream : EventStream Data

inductive Event where
  | thread (input : EventThread.Input)
  | sample (id : DataId) (metadata : Metadata) (payload : List UInt8)
  /-- A subscription ends. -/
  | unsubscribe (id : DataId)
  | recv

/-- What the event thread puts into the channel; `thread.rs:174-211`. -/
def handed (thread : EventThread.State) : EventThread.Input → List EventItem
  | .advance reply =>
    if thread.tx && thread.receiver then
      match thread.phase, reply with
      | .forwarding ((event, _) :: _), _ => [.nodeEvent event]
      | .requesting, .broken => [.fatalError "daemon channel broken"]
      | _, _ => []
    else []
  | _ => []

def isEnded : EventThread.Phase → Bool
  | .ended => true
  | _ => false

/-- Items reach the channel, which is closed if no sender is left. -/
def State.receive (s : State Data) (items : List EventItem) : State Data :=
  let closed := (!s.thread.tx || isEnded s.thread.phase) && s.subscribers.isEmpty
  { s with stream := { s.stream with receiver := ⟨s.stream.receiver.items ++ items, closed⟩ } }

variable (env : StreamEnv Data)

def step (s : State Data) : Event → State Data × Unit
  | .thread input =>
    ({ s with thread := (EventThread.step s.thread input).1 }.receive (handed s.thread input), ())
  | .sample id metadata payload =>
    (if id ∈ s.subscribers then s.receive [.zenohInput id metadata payload] else s, ())
  | .unsubscribe id => ({ s with subscribers := s.subscribers.erase id }.receive [], ())
  | .recv => ({ s with stream := (s.stream.recvAsync env).2 }, ())

/-- The event thread has forwarded `AllInputsClosed` or has ended, and no event is left. -/
structure Over (s : State Data) : Prop where
  receiver : s.thread.receiver = true
  thread : s.thread.closeTx = true ∨ isEnded s.thread.phase = true
  items : s.stream.receiver.items = []
  scheduler : s.stream.scheduler.isEmpty = true
  passthrough : s.stream.pendingPassthrough = []

/-- The next receive does not wait. -/
def EndsWhenOver (s : State Data) : Prop := Over s → (s.stream.recvAsync env).1 = .ready none

/-- The channel is closed when it should be, and `AllInputsClosed` is the last event. -/
structure Inv (s : State Data) : Prop where
  closed : s.stream.receiver.closed =
    ((!s.thread.tx || isEnded s.thread.phase) && s.subscribers.isEmpty)
  last : s.thread.receiver = true → s.thread.closeTx = true → s.thread.tx = false

open EventThread.State in
private theorem last_step {t : EventThread.State} (input : EventThread.Input)
    (h : t.receiver = true → t.closeTx = true → t.tx = false) :
    (EventThread.step t input).1.receiver = true → (EventThread.step t input).1.closeTx = true →
      (EventThread.step t input).1.tx = false := by
  cases input with
  | advance reply =>
    simp only [EventThread.step, advance, checkOne, request, forward, check, reportRemaining, waitOne,
      report, leave, EventThread.State.discard]
    repeat' split
    all_goals simp_all
  | pass time => exact h
  | dropEvent event =>
    simp only [EventThread.step]
    split <;> exact h
  | dropReceiver => nofun

private theorem closed_recvAsync (s : EventStream Data) :
    (s.recvAsync env).2.receiver.closed = s.receiver.closed := by
  fun_cases EventStream.recvAsync env s <;> first | rfl | rw [EventStream.checkInputType_eq]

private theorem inv_step {s : State Data} (h : Inv s) (e : Event) : Inv (step env s e).1 := by
  cases e with
  | thread input => exact ⟨rfl, last_step input h.last⟩
  | sample id metadata payload =>
    simp only [step]
    split
    · exact ⟨rfl, h.last⟩
    · exact h
  | unsubscribe id => exact ⟨rfl, h.last⟩
  | recv => exact ⟨(closed_recvAsync env s.stream).trans h.closed, h.last⟩

private theorem recvAsync_of_over {s : State Data} (h : Over s) :
    (s.stream.recvAsync env).1 = .ready none ↔ s.stream.receiver.closed = true := by
  cases hclosed : s.stream.receiver.closed <;> cases hs : s.stream.useScheduler <;>
    simp [EventStream.recvAsync, EventStream.addEvents, h.passthrough, h.items, h.scheduler, hclosed,
      hs, Scheduler.next_of_isEmpty h.scheduler]

variable (subscribers : List DataId) (sizes : AList fun _ : DataId => Nat)
  (queuePolicies : AList fun _ : DataId => QueuePolicy) (useScheduler : Bool)
  (inputTypeChecks : AList fun _ : DataId => DataType)

/-- A node whose inputs have the subscriptions. -/
def start : State Data where
  subscribers
  stream := ⟨⟨[], false⟩, Scheduler.init sizes queuePolicies, useScheduler, inputTypeChecks, []⟩

/-- In every run, the stream ends when it is over exactly if no subscription is left then. -/
theorem endsWhenOver_iff (events : List Event) :
    let s := (Machine.run (step env)
      (start subscribers sizes queuePolicies useScheduler inputTypeChecks) events).1
    EndsWhenOver env s ↔ (Over s → s.subscribers = []) := by
  intro s
  have hinv : Inv s := by
    refine Machine.always (step env) Inv (fun _ e h => inv_step env h e) ?_ events
    exact ⟨rfl, nofun⟩
  refine forall_congr' fun hover => ?_
  rw [recvAsync_of_over env hover, hinv.closed, Bool.and_eq_true, List.isEmpty_iff]
  refine and_iff_right ?_
  rcases hover.thread with hclose | hended
  · simp [hinv.last hover.receiver hclose]
  · simp [hended]

/-- All inputs are closed, and the node has received that. -/
def allClosed : List Event :=
  [.thread (.advance .empty), .thread (.advance (.nextEvents [.allInputsClosed])),
    .thread (.advance .empty), .recv]

/-- The next receive of a node with one subscription waits. -/
theorem oneSubscription_not_endsWhenOver :
    let env : StreamEnv Unit := ⟨fun _ _ => .ok (), fun _ _ => .ok (), fun _ => .ok ()⟩
    ¬ EndsWhenOver env
      (Machine.run (step env) (start [⟨"camera", by decide⟩] ∅ ∅ true ∅) allClosed).1 := by
  intro env h
  cases h ⟨rfl, .inl rfl, rfl, rfl, rfl⟩

end DoraSpec.Node.StreamEnd
