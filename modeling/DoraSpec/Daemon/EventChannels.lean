import DoraSpec.Daemon.DropTokens

/-!
# Event channels of the nodes

Source `binaries/daemon/src/event_types.rs:177-219`, `running_dataflow.rs:520-525`,
`lib.rs:3617-3739, 4037-4135` and `node_communication/mod.rs:321-331, 400-455, 561-580`. The event
loop of the daemon puts events into the channel of a node and then increments the node's counter;
the listener of the node, another task, takes them out and then decrements it. Each of these is a
step of its own here. Which events a handler sends is an input.
-/

namespace DoraSpec.Daemon.EventChannels
open Message
open Node (NodeEvent DataMessage)
open Daemon.DropTokens
  (nodeEventChannelCapacity controlEventHeadroom EventChannel TrySendError)

/-- Everything that is no input; `event_types.rs:191`. -/
def isControl : NodeEvent → Bool
  | .input .. => false
  | _ => true

/-- `Ok(true)`, `Ok(false)` and `Err` of `send_with_timestamp`. -/
inductive SendResult where
  | delivered
  | dropped
  | closed
  deriving DecidableEq

/-- Channel to a node and its counter, both made by the node's request to subscribe. -/
structure Subscription where
  queue : List NodeEvent := []
  pendingCounter : UInt64 := 0
  /-- The listener is gone. -/
  closed : Bool := false
  /-- The daemon has the sending side in its table. -/
  connected : Bool := true
  /-- The listener has taken an event out and decrements the counter next. -/
  taken : Bool := false

namespace Subscription

/-- What the bounded channel knows of its events. -/
def channel (sub : Subscription) : EventChannel :=
  { queued := sub.queue.length, closed := sub.closed }

/-- Free places. -/
def capacity (sub : Subscription) : Nat := sub.channel.capacity

def push (sub : Subscription) (event : NodeEvent) : Subscription :=
  { sub with queue := sub.queue ++ [event] }

/-- Put an event into the channel. -/
def trySend (sub : Subscription) (event : NodeEvent) : Except TrySendError Subscription :=
  sub.channel.trySend.map fun _ => sub.push event

/-- What the daemon makes of an attempt to send; `event_types.rs:204-218`, `lib.rs:4054-4134`. -/
def attempt (sub : Subscription) (event : NodeEvent) : Subscription × SendResult :=
  match sub.trySend event with
  | .ok sub => (sub, .delivered)
  | .error .closed => (sub, .closed)
  | .error .full => (sub, .dropped)

/-- `send_with_timestamp`, `event_types.rs:186-219`. -/
def sendWithTimestamp (sub : Subscription) (event : NodeEvent) : Subscription × SendResult :=
  if !isControl event && sub.capacity < controlEventHeadroom then (sub, .dropped)
  else sub.attempt event

/-- Copy of a message for a local receiver, which does not go through `send_with_timestamp`;
`lib.rs:4037-4135`. -/
def sendInput (sub : Subscription) (id : DataId) (metadata : Metadata) (data : Option DataMessage) :
    Subscription × SendResult :=
  if sub.capacity < controlEventHeadroom then (sub, .dropped)
  else sub.attempt (.input id metadata data)

/-- Queued inputs. -/
def dataEvents (sub : Subscription) : Nat := sub.queue.countP (!isControl ·)

/-- Queued events that are no inputs. -/
def controlEvents (sub : Subscription) : Nat := sub.queue.countP (isControl ·)

end Subscription

/-! ## The event loop and the listeners -/

/-- What the event loop is in the middle of. -/
inductive Task where
  | idle
  /-- It has sent an event to the node and increments the counter next. -/
  | incPending (node : NodeId)
  /-- It waits for a free place in the channel of the node, to tell it of a restart;
  `lib.rs:3655-3680`. -/
  | awaitSend (node restarted : NodeId)

/-- Newest subscription of each node. -/
structure State where
  subscriptions : NodeId → Option Subscription := fun _ => none
  task : Task := .idle

inductive Event where
  | subscribe (node : NodeId)
  | send (node : NodeId) (event : NodeEvent)
  | sendInput (node : NodeId) (id : DataId) (metadata : Metadata) (data : Option DataMessage)
  /-- The event loop goes on with what it is in the middle of. -/
  | proceed
  /-- The sending side is dropped: the node has dropped its event stream, the channel was found to
  be closed or the dataflow was stopped. -/
  | disconnect (node : NodeId)
  | removeNode (node : NodeId)
  /-- The listener takes an event out of the channel. -/
  | receive (node : NodeId)
  /-- The listener decrements the counter. -/
  | decPending (node : NodeId)
  /-- The listener ends, and with it the receiving side. -/
  | hangUp (node : NodeId)

/-- Sends of this event are followed by an increment of the counter if they succeed; the one of
`NodeFailed`, `lib.rs:3727-3736`, is not. -/
def counted : NodeEvent → Bool
  | .nodeFailed .. => false
  | _ => true

/-- What the event loop does after an attempt to send. An event about a restart that does not fit
is sent again with waiting; `lib.rs:3636-3699`. -/
def afterSend (node : NodeId) (event : NodeEvent) : SendResult → Task
  | .delivered => if counted event then .incPending node else .idle
  | .dropped =>
    match event with
    | .nodeRestarted restarted => .awaitSend node restarted
    | _ => .idle
  | .closed => .idle

namespace State

def set (s : State) (node : NodeId) (sub : Subscription) : State :=
  { s with subscriptions := Function.update s.subscriptions node (some sub) }

/-- Send to the channel in the table, if there is one. -/
def sendBy (s : State) (node : NodeId) (event : NodeEvent)
    (f : Subscription → Subscription × SendResult) : State :=
  match s.subscriptions node with
  | none => s
  | some sub =>
    if sub.connected then
      { s.set node (f sub).1 with task := afterSend node event (f sub).2 }
    else s

/-- `inc_pending`, `running_dataflow.rs:520-525`. -/
def incPending (s : State) (node : NodeId) : State :=
  match s.subscriptions node with
  | none => s
  | some sub => s.set node { sub with pendingCounter := sub.pendingCounter + 1 }

/-- Go on with the task. -/
def proceed (s : State) : State :=
  match s.task with
  | .idle => s
  | .incPending node => { s.incPending node with task := .idle }
  | .awaitSend node restarted =>
    match s.subscriptions node with
    | none => { s with task := .idle }
    | some sub =>
      match sub.trySend (.nodeRestarted restarted) with
      | .ok sub => { s.set node sub with task := .incPending node }
      | .error .closed => { s with task := .idle }
      | .error .full => s

/-- Drop the sending side. -/
def disconnect (s : State) (node : NodeId) : State :=
  match s.subscriptions node with
  | none => s
  | some sub => s.set node { sub with connected := false }

/-- Forget channel and counter; `lib.rs:1771-1773`. -/
def removeNode (s : State) (node : NodeId) : State :=
  { s with subscriptions := Function.update s.subscriptions node none }

/-- Steps of the listener, `node_communication/mod.rs:321-331, 422-455, 561-580`. -/
def listen (s : State) (node : NodeId) (f : Subscription → Subscription) : State :=
  match s.subscriptions node with
  | none => s
  | some sub => if sub.closed then s else s.set node (f sub)

end State

/-- Take an event out. -/
def Subscription.receive (sub : Subscription) : Subscription :=
  match sub.queue with
  | [] => sub
  | _ :: rest => if sub.taken then sub else { sub with queue := rest, taken := true }

/-- `fetch_sub` wraps around. -/
def Subscription.decPending (sub : Subscription) : Subscription :=
  if sub.taken then { sub with pendingCounter := sub.pendingCounter - 1, taken := false } else sub

/-- Dropping the receiving side drops the events. -/
def Subscription.hangUp (sub : Subscription) : Subscription :=
  if sub.taken then sub else { sub with queue := [], closed := true }

/-- The event loop handles one event after the other, so it takes up none while it is in the middle
of one. -/
def step (s : State) (e : Event) : State × Unit :=
  (match e, s.task with
    | .subscribe node, .idle => s.set node {}
    | .send node event, .idle => s.sendBy node event (·.sendWithTimestamp event)
    | .sendInput node id metadata data, .idle =>
      s.sendBy node (.input id metadata data) (·.sendInput id metadata data)
    | .disconnect node, .idle => s.disconnect node
    | .removeNode node, .idle => s.removeNode node
    | .proceed, _ => s.proceed
    | .receive node, _ => s.listen node Subscription.receive
    | .decPending node, _ => s.listen node Subscription.decPending
    | .hangUp node, _ => s.listen node Subscription.hangUp
    | _, _ => s, ())

end DoraSpec.Daemon.EventChannels
