import DoraSpec.Daemon.DropTokens
import DoraSpec.Daemon.RestartLoop

/-!
# Open, broken and closed inputs

Source `binaries/daemon/src/lib.rs:1546-1824, 1946-1983, 2678-2849, 3056-3206, 4018-4285` and
`running_dataflow.rs:42-71, 177-222, 345-505`. An input is open from the start. It breaks when its
messages stay out and recovers with the next one, and it is closed when its source is gone. Nodes
learn of this through their channels, and those whose inputs are all closed are not restarted.
Tables are in the order of their iteration, which is arbitrary. Times are in nanoseconds.
-/

namespace DoraSpec.Daemon.Inputs
open Base Message Function
open Daemon.DropTokens (EventChannel TrySendError controlEventHeadroom)
open Daemon.RestartLoop (RestartPolicy asNanos)

/-! ## State -/

/-- Time limit of an input, which is armed by its first message; `running_dataflow.rs:42-58`. -/
structure InputDeadline where
  timeout : Duration
  lastReceived : Option Nat := none

/-- `is_timed_out`, `running_dataflow.rs:68-72`. -/
def InputDeadline.isTimedOut (deadline : InputDeadline) (now : Nat) : Bool :=
  deadline.lastReceived.any fun t => asNanos deadline.timeout < now - t

/-- `running_dataflow.rs:75-84`. -/
structure RunningNode where
  restartPolicy : RestartPolicy := .never
  disableRestart : Bool := false

/-- Input of a node, with the time limit as a duration; `lib.rs:1621-1642`. -/
structure NodeInput where
  id : DataId
  mapping : InputMapping
  inputTimeout : Option Duration := none

/-- Tables of a running dataflow; `running_dataflow.rs:177-222`. The last two are kept for the
statements only: the inputs that nodes have had so far, and those of them whose source is gone. -/
structure State where
  descriptor : List Node := []
  subscribeChannels : NodeId → Option EventChannel := fun _ => none
  mappings : List (OutputId × InputKey) := []
  openInputs : NodeId → Option (Finset DataId) := fun _ => none
  inputDeadlines : AList fun _ : InputKey => InputDeadline := ∅
  brokenInputs : AList fun _ : InputKey => Duration := ∅
  runningNodes : NodeId → Option RunningNode := fun _ => none
  stopSent : Bool := false
  inputs : List InputKey := []
  closed : List InputKey := []

/-- What nodes are told about their inputs, and nodes that will not be restarted as their inputs are
all closed. -/
inductive Effect where
  | inputClosed (key : InputKey)
  | inputRecovered (key : InputKey)
  | allInputsClosed (node : NodeId)
  | restartDisabled (node : NodeId)
  deriving DecidableEq

/-- Send an event that is no input; `send_with_timestamp`, `event_types.rs:186-221`. -/
def offer (channel : EventChannel) (effect : Effect) : EventChannel × List Effect :=
  match channel.trySend with
  | .ok channel => (channel, [effect])
  | .error _ => (channel, [])

/-- One operation after the other. -/
def andThen (r : State × List Effect) (f : State → State × List Effect) : State × List Effect :=
  ((f r.1).1, r.2 ++ (f r.1).2)

/-- An operation on each of the keys in turn. -/
def forEach {ι : Type} (f : State → ι → State × List Effect) (s : State) (l : List ι) :
    State × List Effect :=
  ((Machine.run f s l).1, (Machine.run f s l).2.flatten)

namespace State

/-- `open_inputs`, `running_dataflow.rs:517-519`. -/
def openOf (s : State) (node : NodeId) : Finset DataId := (s.openInputs node).getD ∅

/-- The node has a broken input; `lib.rs:4230-4233`. -/
def hasBroken (s : State) (node : NodeId) : Bool := s.brokenInputs.keys.any fun key => key.1 = node

/-- Change the channel of a node, if it has one. -/
def modifyChannel (s : State) (node : NodeId) (f : EventChannel → EventChannel) : State :=
  { s with subscribeChannels :=
      update s.subscribeChannels node ((s.subscribeChannels node).map f) }

/-- Send an event to a node that has subscribed. -/
def tell (s : State) (node : NodeId) (effect : Effect) : State × List Effect :=
  match s.subscribeChannels node with
  | none => (s, [])
  | some channel =>
    ({ s with subscribeChannels :=
        update s.subscribeChannels node (some (offer channel effect).1) },
      (offer channel effect).2)

/-- Set the flag of a running node. -/
def setDisableRestart (s : State) (node : NodeId) (value : Bool) : State :=
  let running := (s.runningNodes node).map fun n => { n with disableRestart := value }
  { s with runningNodes := update s.runningNodes node running }

/-- Disable the restarts of a node whose inputs are all closed; `lib.rs:3137-3139`. -/
def disableRestart (s : State) (node : NodeId) : State × List Effect :=
  (s.setDisableRestart node true,
    if (s.runningNodes node).isSome then [.restartDisabled node] else [])

/-- No longer count an input as open. -/
def eraseOpen (s : State) (key : InputKey) : State :=
  { s with openInputs :=
      update s.openInputs key.1 ((s.openInputs key.1).map (·.erase key.2)) }

/-- No longer count an input as open or broken. -/
def eraseInput (s : State) (key : InputKey) : State :=
  { s.eraseOpen key with brokenInputs := s.brokenInputs.erase key }

/-! ## Closing and breaking -/

/-- Tell a node if it has no input left; `lib.rs:4230-4241`. -/
def reportAllClosed (s : State) (node : NodeId) : State × List Effect :=
  if s.openOf node = ∅ ∧ s.hasBroken node = false then
    andThen (s.disableRestart node) (·.tell node (.allInputsClosed node))
  else (s, [])

/-- `close_input`, `lib.rs:4193-4243`. -/
def closeInput (s : State) (key : InputKey) : State × List Effect :=
  let wasBroken := key ∈ s.brokenInputs
  let wasOpen := key.2 ∈ s.openOf key.1
  let s := s.eraseInput key
  if ¬ wasOpen ∧ ¬ wasBroken then (s, [])
  else if (s.subscribeChannels key.1).isSome then
    andThen (if wasOpen then s.tell key.1 (.inputClosed key) else (s, [])) (·.reportAllClosed key.1)
  else (s, [])

/-- `break_input`, `lib.rs:4247-4285`. -/
def breakInput (s : State) (key : InputKey) : State × List Effect :=
  if (s.openInputs key.1).any (key.2 ∉ ·) then (s, [])
  else
    let s := s.eraseOpen key
    if (s.subscribeChannels key.1).isSome then
      andThen (s.tell key.1 (.inputClosed key)) (·.reportAllClosed key.1)
    else (s, [])

/-- An input has timed out; `lib.rs:1973-1976`. -/
def timeOut (s : State) (entry : InputKey × Duration) : State × List Effect :=
  breakInput { s with brokenInputs := s.brokenInputs.insert entry.1 entry.2 } entry.1

/-- Inputs that have had no message for too long; `lib.rs:1949-1964`. -/
def timedOut (s : State) (now : Nat) : List (InputKey × Duration) :=
  (s.inputDeadlines.entries.filter fun entry =>
    entry.1 ∉ s.brokenInputs ∧ entry.2.isTimedOut now).map fun entry => (entry.1, entry.2.timeout)

/-- `check_input_timeouts`, `lib.rs:1946-1983`, for one dataflow. -/
def checkInputTimeouts (s : State) (now : Nat) : State × List Effect :=
  let r := forEach timeOut s (s.timedOut now)
  ({ r.1 with inputDeadlines :=
      (s.timedOut now).foldl (fun table entry => table.erase entry.1) r.1.inputDeadlines }, r.2)

/-! ## Messages -/

/-- Start the clock of an input again; `lib.rs:4058-4063`. -/
def arm (s : State) (now : Nat) (key : InputKey) : State :=
  match s.inputDeadlines.lookup key with
  | none => s
  | some deadline =>
    { s with inputDeadlines :=
        s.inputDeadlines.replace key { deadline with lastReceived := some now } }

/-- A message has been put into the channel; a broken input recovers. `lib.rs:4056-4110`. -/
def received (s : State) (now : Nat) (key : InputKey) : State × List Effect :=
  let s := s.arm now key
  match s.brokenInputs.lookup key with
  | none => (s, [])
  | some timeout =>
    { s with
      brokenInputs := s.brokenInputs.erase key
      openInputs := update s.openInputs key.1 (some (insert key.2 (s.openOf key.1)))
      inputDeadlines := s.inputDeadlines.insert key { timeout, lastReceived := some now }
      }.tell key.1 (.inputRecovered key)

/-- Send a message to one input; the second component are the closed channels. `lib.rs:4037-4135`. -/
def deliver (now : Nat) (acc : State × List NodeId) (key : InputKey) :
    (State × List NodeId) × List Effect :=
  match acc.1.subscribeChannels key.1 with
  | none => (acc, [])
  | some channel =>
    if channel.capacity < controlEventHeadroom then (acc, [])
    else match channel.trySend with
      | .ok channel =>
        let r := (acc.1.modifyChannel key.1 fun _ => channel).received now key
        ((r.1, acc.2), r.2)
      | .error .closed => ((acc.1, acc.2 ++ [key.1]), [])
      | .error .full => (acc, [])

/-- Inputs that are connected to one of the outputs. -/
def receivers (s : State) (outputs : OutputId → Bool) : List InputKey :=
  (s.mappings.filter fun m => outputs m.1).map Prod.snd

/-- `send_output_to_local_receivers`, `lib.rs:4018-4138`. -/
def sendOutputToLocalReceivers (s : State) (now : Nat) (output : OutputId) : State × List Effect :=
  let r := Machine.run (deliver now) (s, []) (s.receivers (· = output))
  ({ r.1.1 with subscribeChannels := fun node =>
      if node ∈ r.1.2 then none else r.1.1.subscribeChannels node }, r.2.flatten)

/-! ## Nodes -/

/-- Connected inputs of the node that are not open; `lib.rs:3109-3122`. -/
def closedInputs (s : State) (node : NodeId) : List InputKey :=
  (s.mappings.map Prod.snd).filter fun key => key.1 = node ∧ key.2 ∉ s.openOf node

/-- The node has inputs in the descriptor; `lib.rs:3140-3142`. -/
def describesInputs (s : State) (node : NodeId) : Bool :=
  (s.descriptor.find? fun n => n.id = node).any fun n => !n.inputs.isEmpty

/-- Set the flag and tell the new channel if the node has no open input; `lib.rs:3136-3148`. -/
def reportAtSubscribe (s : State) (node : NodeId) (channel : EventChannel) :
    (State × EventChannel) × List Effect :=
  if s.openOf node = ∅ then
    let disabled := s.disableRestart node
    let told := if s.describesInputs node then offer channel (.allInputsClosed node)
      else (channel, [])
    ((disabled.1, told.1), disabled.2 ++ told.2)
  else ((s, channel), [])

/-- `subscribe`, `lib.rs:3102-3163`. -/
def subscribe (s : State) (node : NodeId) (channel : EventChannel) : State × List Effect :=
  let told := Machine.run offer channel ((s.closedInputs node).map .inputClosed)
  let r := s.reportAtSubscribe node told.1
  let (s, channel) := if s.stopSent then (r.1.1.setDisableRestart node true, r.1.2.sendControl)
    else r.1
  ({ s with subscribeChannels := update s.subscribeChannels node (some channel) },
    told.2.flatten ++ r.2)

/-- `might_restart`, `lib.rs:2684-2692`. -/
def mightRestart (s : State) (node : NodeId) : Bool :=
  (s.runningNodes node).any fun n => n.restartPolicy ≠ .never && !n.disableRestart

/-- `stop_single_node`, `running_dataflow.rs:437-460`. -/
def stopNode (s : State) (node : NodeId) : State :=
  if (s.runningNodes node).isSome then
    (s.setDisableRestart node true).modifyChannel node EventChannel.sendControl
  else s

/-- `restart_single_node`, `running_dataflow.rs:463-492`. -/
def restartNode (s : State) (node : NodeId) : State :=
  if (s.runningNodes node).isSome then
    (s.setDisableRestart node false).modifyChannel node EventChannel.sendControl
  else s

/-- `stop_all`, `running_dataflow.rs:345-415`. -/
def stopAll (s : State) : State :=
  { s with
    runningNodes := fun node => (s.runningNodes node).map fun n => { n with disableRestart := true }
    subscribeChannels := fun _ => none
    stopSent := true }

/-! ## Topology -/

/-- Count an input as open. -/
def open_ (s : State) (key : InputKey) : State :=
  { s with openInputs :=
      update s.openInputs key.1 (some (insert key.2 (s.openOf key.1))) }

/-- Connect an output to an input. -/
def connect (s : State) (source : OutputId) (target : InputKey) : State :=
  { s with mappings :=
      if (source, target) ∈ s.mappings then s.mappings else s.mappings ++ [(source, target)] }

/-- Register an input of a node; `lib.rs:1621-1661` and `lib.rs:2282-2318`. -/
def registerInput (node : NodeId) (s : State) (input : NodeInput) : State :=
  let s := s.open_ (node, input.id)
  match input.mapping with
  | .user mapping =>
    { s.connect (mapping.source, mapping.output) (node, input.id) with
      inputDeadlines := match input.inputTimeout with
        | some timeout => s.inputDeadlines.insert (node, input.id) { timeout }
        | none => s.inputDeadlines }
  | .timer _ | .logs _ => s

/-- Tables after a new node was spawned; `lib.rs:1614-1721`. -/
def addNode (s : State) (node : NodeId) (descriptor : Node) (policy : RestartPolicy)
    (inputs : List NodeInput) : State :=
  let s := inputs.foldl (registerInput node) s
  { s with
    runningNodes := update s.runningNodes node (some { restartPolicy := policy })
    descriptor := s.descriptor ++ [descriptor] }

/-- `lib.rs:1738-1786`. -/
def removeNode (s : State) (node : NodeId) : State × List Effect :=
  let keys := s.receivers (·.1 = node)
  let s := s.stopNode node
  let r := forEach closeInput { s with mappings := s.mappings.filter (·.1.1 ≠ node) } keys
  ({ r.1 with
      mappings := r.1.mappings.filter (·.2.1 ≠ node)
      runningNodes := update r.1.runningNodes node none
      openInputs := update r.1.openInputs node none
      subscribeChannels := update r.1.subscribeChannels node none
      descriptor := r.1.descriptor.filter (·.id ≠ node) }, r.2)

/-- `lib.rs:1793-1804`. -/
def addMapping (s : State) (source : OutputId) (target : InputKey) : State :=
  (s.connect source target).open_ target

end State

/-! ## Runs -/

/-- What happens to a dataflow on the daemon. -/
inductive Event where
  | spawned (node : NodeId) (policy : RestartPolicy)
  | subscribe (node : NodeId) (channel : EventChannel)
  | closeOutputs (node : NodeId) (outputs : List DataId)
  | outputsDone (node : NodeId)
  /-- The node has ended and will not be restarted. -/
  | nodeStopped (node : NodeId)
  /-- Another daemon reports the end of an output. -/
  | outputClosed (output : OutputId)
  /-- A message of a node or of another daemon. -/
  | output (output : OutputId) (now : Nat)
  | checkInputTimeouts (now : Nat)
  | addNode (node : NodeId) (descriptor : Node) (policy : RestartPolicy) (inputs : List NodeInput)
  | removeNode (node : NodeId)
  | addMapping (source : OutputId) (target : InputKey)
  | removeMapping (source : OutputId) (target : InputKey)
  | stopNode (node : NodeId)
  | restartNode (node : NodeId)
  | stopDataflow
  | eventStreamDropped (node : NodeId)
  /-- The node takes events or listens no longer, or gets events about something else. -/
  | channel (node : NodeId) (channel : EventChannel)

/-- Inputs whose source ends or is disconnected by the event. -/
def State.closes (s : State) : Event → List InputKey
  | .closeOutputs node outputs =>
    if s.mightRestart node then [] else s.receivers fun o => o.1 = node ∧ o.2 ∈ outputs
  | .outputsDone node => if s.mightRestart node then [] else s.receivers (·.1 = node)
  | .nodeStopped node | .removeNode node => s.receivers (·.1 = node)
  | .outputClosed output => s.receivers (· = output)
  | .removeMapping source target => if (source, target) ∈ s.mappings then [target] else []
  | _ => []

/-- Inputs that are connected by the event. -/
def Event.connects : Event → List InputKey
  | .addNode node _ _ inputs => inputs.map fun input => (node, input.id)
  | .addMapping _ target => [target]
  | _ => []

/-- One event; `lib.rs:876-1130, 1546-1824, 2678-2849, 3056-3289`. -/
def handle (s : State) (e : Event) : State × List Effect :=
  match e with
  | .spawned node policy =>
    ({ s with runningNodes :=
        update s.runningNodes node (some { restartPolicy := policy }) }, [])
  | .subscribe node channel => s.subscribe node channel
  | .closeOutputs _ _ | .outputsDone _ | .outputClosed _ => forEach State.closeInput s (s.closes e)
  | .nodeStopped node =>
    let r := forEach State.closeInput s (s.closes e)
    ({ r.1 with runningNodes := update r.1.runningNodes node none }, r.2)
  | .output output now => s.sendOutputToLocalReceivers now output
  | .checkInputTimeouts now => s.checkInputTimeouts now
  | .addNode node descriptor policy inputs => (s.addNode node descriptor policy inputs, [])
  | .removeNode node => s.removeNode node
  | .addMapping source target => (s.addMapping source target, [])
  | .removeMapping source target =>
    forEach State.closeInput { s with mappings := s.mappings.filter (· ≠ (source, target)) }
      (s.closes e)
  | .stopNode node => (s.stopNode node, [])
  | .restartNode node => (s.restartNode node, [])
  | .stopDataflow => (s.stopAll, [])
  | .eventStreamDropped node =>
    ({ s with subscribeChannels := update s.subscribeChannels node none }, [])
  | .channel node channel => (s.modifyChannel node fun _ => channel, [])

/-- One event, with the inputs that nodes have and those whose source is gone. -/
def step (s : State) (e : Event) : State × List Effect :=
  ({ (handle s e).1 with
      inputs := match e with
        | .removeNode node => s.inputs.filter (·.1 ≠ node)
        | _ => s.inputs ++ e.connects
      closed := (s.closed ++ s.closes e).filter (· ∉ e.connects) }, (handle s e).2)

/-- Register the inputs of a local node; `lib.rs:2277-2322`. -/
def registerNode (s : State) (node : NodeId × List NodeInput) : State :=
  { node.2.foldl (State.registerInput node.1) s with
    inputs := s.inputs ++ node.2.map fun input => (node.1, input.id) }

/-- A dataflow with its local nodes; `lib.rs:2224-2330`. -/
def start (descriptor : List Node) (nodes : List (NodeId × List NodeInput)) : State :=
  nodes.foldl registerNode { descriptor }

end DoraSpec.Daemon.Inputs
