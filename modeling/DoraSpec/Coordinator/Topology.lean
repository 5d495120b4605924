import DoraSpec.Base.Machine
import DoraSpec.Core.Resolve
import DoraSpec.Daemon.Topology
import DoraSpec.Store.CoordinatorStore

/-!
# Topology changes of a running dataflow

Source `binaries/coordinator/src/lib.rs:1295-1548`: the requests that add and remove nodes and
connections. The coordinator checks a request against its own tables, sends it to one daemon,
waits for the reply and updates its tables if there was one. Messages are neither lost nor
reordered, and one request is handled after the other.
-/

namespace DoraSpec.Coordinator.Topology
open Message Daemon
open Recording (Uuid)
open Store (DaemonId uuidText)

/-- Tables of a running dataflow; `state.rs:166-219`. -/
structure RunningDataflow where
  daemons : List DaemonId := []
  descriptor : List Node := []
  nodes : NodeId → Option ResolvedNode := fun _ => none
  nodeToDaemon : NodeId → Option DaemonId := fun _ => none

/-- Tables of the main loop that the requests use. -/
structure State where
  runningDataflows : Uuid → Option RunningDataflow
  daemonConnections : Finset DaemonId

/-- Change that a request asks for; `cli_to_coordinator.rs:167-192`. -/
inductive Change where
  | addNode (node : Node)
  | removeNode (nodeId : NodeId)
  | addMapping (source : OutputId) (target : InputKey)
  | removeMapping (source : OutputId) (target : InputKey)

/-- Request of a client; `cli_to_coordinator.rs:167-192`. -/
structure ControlRequest where
  dataflowId : Uuid
  change : Change

/-- Reply to a client; `coordinator_to_cli.rs:78-99`. -/
inductive ControlRequestReply where
  | nodeAdded (dataflowId : Uuid) (nodeId : NodeId)
  | nodeRemoved (dataflowId : Uuid) (nodeId : NodeId)
  | mappingAdded (dataflowId : Uuid) (source : OutputId) (target : InputKey)
  | mappingRemoved (dataflowId : Uuid) (source : OutputId) (target : InputKey)

/-- Text of a daemon identifier; `common.rs:360-367`. -/
def daemonText (id : DaemonId) : String :=
  match id.machineId with
  | some machine => s!"{machine}-{uuidText id.uuid}"
  | none => uuidText id.uuid

/-- The node resolved in a dataflow of its own; `lib.rs:1314-1332`. -/
def resolveSingle (node : Node) : Except String ResolvedNode :=
  match Core.resolveAliasesAndSetDefaults { nodes := [node] } with
  | .ok nodes =>
    match (Core.nodeValues nodes).head? with
    | some resolved => .ok resolved
    | none => .error "node descriptor resolved to empty map"
  | .err e => .error s!"failed to resolve node: {e}"
  -- the main loop ends here, and the client gets no reply
  | .panic message => .error message

/-- Change that passed the checks of the coordinator. -/
inductive Command where
  | addNode (node : Node) (resolved : ResolvedNode)
  | removeNode (nodeId : NodeId)
  | addMapping (source : OutputId) (target : InputKey)
  | removeMapping (source : OutputId) (target : InputKey)

/-- The command as the daemon gets it. -/
def Command.event : Command → TopologyEvent
  | .addNode _ resolved => .addNode resolved
  | .removeNode nodeId => .removeNode nodeId
  | .addMapping source target => .addMapping source target
  | .removeMapping source target => .removeMapping source target

/-- Daemon of a node, with the message for an unknown one. -/
def daemonOf (df : RunningDataflow) (nodeId : NodeId) (missing : String) : Except String DaemonId :=
  match df.nodeToDaemon nodeId with
  | some daemon => .ok daemon
  | none => .error missing

/-- Daemon that has to make a change, and the command for it; `lib.rs:1297-1345`,
`lib.rs:1406-1420`, `lib.rs:1469-1485` and `lib.rs:1513-1529`. -/
def target (df : RunningDataflow) (dataflowId : Uuid) : Change → Except String (DaemonId × Command)
  | .addNode node =>
    if (df.nodeToDaemon node.id).isSome then
      .error s!"node '{node.id.val}' already exists in dataflow {uuidText dataflowId}"
    else do
      let resolved ← resolveSingle node
      match df.daemons.head? with
      | some daemon => pure (daemon, .addNode node resolved)
      | none => .error s!"no daemons registered for dataflow {uuidText dataflowId}"
  | .removeNode nodeId => do
    let daemon ← daemonOf df nodeId
      s!"node '{nodeId.val}' not found in dataflow {uuidText dataflowId}"
    pure (daemon, .removeNode nodeId)
  | .addMapping source target => do
    let daemon ← daemonOf df target.1
      s!"target node '{target.1.val}' not found in dataflow {uuidText dataflowId}"
    pure (daemon, .addMapping source target)
  | .removeMapping source target => do
    let daemon ← daemonOf df target.1
      s!"target node '{target.1.val}' not found in dataflow {uuidText dataflowId}"
    pure (daemon, .removeMapping source target)

/-- Running dataflow, daemon and command of a request that passes the checks. -/
def forward (c : State) (r : ControlRequest) :
    Except String (RunningDataflow × DaemonId × Command) :=
  match c.runningDataflows r.dataflowId with
  | none => .error s!"no running dataflow with ID {uuidText r.dataflowId}"
  | some df => do
    let (daemon, command) ← target df r.dataflowId r.change
    if daemon ∈ c.daemonConnections then pure (df, daemon, command)
    else .error s!"no connection for daemon {daemonText daemon}"

/-- What the coordinator receives for the content of the daemon's reply channel. The daemon's
connection task sends a response only for `Some` (`coordinator.rs:257-276`), and the coordinator
gives up after thirty seconds (`state.rs:110-143`). -/
def sendAndReceive : Option DaemonCoordinatorReply → Except String DaemonCoordinatorReply
  | some reply => .ok reply
  | none => .error "timeout waiting for daemon WS reply"

/-- Tables and reply after a daemon replied; `lib.rs:1353-1379`, `lib.rs:1422-1444`,
`lib.rs:1487-1493` and `lib.rs:1531-1537`. -/
def complete (df : RunningDataflow) (dataflowId : Uuid) (daemon : DaemonId) :
    Command → RunningDataflow × ControlRequestReply
  | .addNode node resolved =>
    ({ df with
        nodeToDaemon := Function.update df.nodeToDaemon resolved.id (some daemon)
        descriptor := df.descriptor ++ [node]
        nodes := Function.update df.nodes resolved.id (some resolved) },
      .nodeAdded dataflowId resolved.id)
  | .removeNode nodeId =>
    ({ df with
        nodeToDaemon := Function.update df.nodeToDaemon nodeId none
        descriptor := df.descriptor.filter (·.id ≠ nodeId)
        nodes := Function.update df.nodes nodeId none },
      .nodeRemoved dataflowId nodeId)
  | .addMapping source target => (df, .mappingAdded dataflowId source target)
  | .removeMapping source target => (df, .mappingRemoved dataflowId source target)

/-- Tables and answer once the wait for the daemon is over. -/
def finish (c : State) (dataflowId : Uuid) (df : RunningDataflow) (daemon : DaemonId)
    (command : Command) :
    Except String DaemonCoordinatorReply → State × Except String ControlRequestReply
  | .ok _ =>
    let (df, reply) := complete df dataflowId daemon command
    ({ c with runningDataflows := Function.update c.runningDataflows dataflowId (some df) },
      .ok reply)
  | .error e => (c, .error s!"daemon dispatch failed: {e}")

/-- The coordinator and the daemons. -/
structure System where
  coordinator : State
  daemons : DaemonId → Daemon.Running

/-- A request, and whether the process that it needs can be spawned. -/
structure Turn where
  request : ControlRequest
  spawned : Bool

/-- The dataflow has the asked change after the step and, for a node or a removal, had it not
before. -/
def CarriedOut (before after : Option Daemon.RunningDataflow) : TopologyEvent → Prop
  | .addNode node => (∀ df ∈ before, node.id ∉ df.runningNodes) ∧
      ∃ df ∈ after, node.id ∈ df.runningNodes
  | .removeNode nodeId => (∃ df ∈ before, nodeId ∈ df.runningNodes) ∧
      ∀ df ∈ after, nodeId ∉ df.runningNodes
  | .addMapping source target => ∃ df ∈ after, (source, target) ∈ df.mappings
  | .removeMapping source target => (∃ df ∈ before, (source, target) ∈ df.mappings) ∧
      ∀ df ∈ after, (source, target) ∉ df.mappings

instance (before after : Option Daemon.RunningDataflow) (event : TopologyEvent) :
    Decidable (CarriedOut before after event) :=
  match event with
  | .addNode _ => inferInstanceAs (Decidable (_ ∧ _))
  | .removeNode _ => inferInstanceAs (Decidable (_ ∧ _))
  | .addMapping _ _ => inferInstanceAs (Decidable (∃ _ ∈ after, _))
  | .removeMapping _ _ => inferInstanceAs (Decidable (_ ∧ _))

/-- How a request ended: the answer of the coordinator, and whether the daemon made the change. -/
structure Handled where
  answer : Except String ControlRequestReply
  carriedOut : Bool

/-- Handle one request on both sides. -/
def handle (s : System) (t : Turn) : System × Handled :=
  let id := t.request.dataflowId
  match forward s.coordinator t.request with
  | .error e => (s, ⟨.error e, false⟩)
  | .ok (df, daemon, command) =>
    let (running, reply) := handleTopologyEvent (s.daemons daemon) id command.event t.spawned
    let (coordinator, answer) := finish s.coordinator id df daemon command (sendAndReceive reply)
    (⟨coordinator, Function.update s.daemons daemon running⟩,
      ⟨answer, decide (CarriedOut (s.daemons daemon id) (running id) command.event)⟩)

end DoraSpec.Coordinator.Topology
