import DoraSpec.Coordinator.Readiness
import DoraSpec.Daemon.PendingNodes

/-!
# The start of a dataflow on several daemons

The coordinator of `DoraSpec.Coordinator.Readiness` with the daemons of one dataflow, each with its
pending nodes as in `DoraSpec.Daemon.PendingNodes`, and the messages between them, in order for each
daemon. A node is told to start when the nodes of all daemons have subscribed. Nodes that are added
while the others wait are not waited for if their daemon has reported before.
-/

namespace DoraSpec.Coordinator.StartBarrier
open Message Store Function
open Recording (Uuid)
open Daemon (PendingNodes Answer PendingOutput)
open Coordinator.Readiness (RunningDataflow)

/-! ## State -/

/-- Nodes of the dataflow and the daemons on which they are. -/
structure Assignment where
  nodes : Finset NodeId
  daemonOf : NodeId → DaemonId
  dynamic : NodeId → Bool := fun _ => false

/-- Daemons that have nodes of the dataflow. -/
def Assignment.daemons (a : Assignment) : Finset DaemonId := a.nodes.image a.daemonOf

/-- The part of the dataflow that a daemon runs. -/
structure Part where
  pendingNodes : PendingNodes
  dynamicNodes : Finset NodeId

/-- Message of a daemon to the coordinator; `daemon_to_coordinator.rs:96-130`. -/
inductive Report where
  | allNodesReady (exitedBeforeSubscribe : List NodeId)
  | allNodesFinished

/-- The coordinator, the daemons and the messages under way, and what has happened to the nodes of each
daemon since they were spawned. -/
structure State where
  dataflowId : Uuid
  dataflow : Option RunningDataflow
  daemonConnections : Finset DaemonId
  parts : DaemonId → Option Part
  toCoordinator : DaemonId → List Report := fun _ => []
  toDaemon : DaemonId → List (List NodeId) := fun _ => []
  /-- Daemons on which the dataflow was started. -/
  members : Finset DaemonId
  /-- Nodes that the daemon starts itself, and those that the user starts. -/
  nodes : DaemonId → Finset NodeId
  dynamicNodes : DaemonId → Finset NodeId
  subscribed : DaemonId → Finset NodeId := fun _ => ∅
  /-- Nodes that have ended and had not subscribed. -/
  exited : DaemonId → Finset NodeId := fun _ => ∅
  /-- Daemons that have handled the word of the coordinator. -/
  released : DaemonId → Bool := fun _ => false

/-- Pending nodes of a daemon when its part is spawned; `lib.rs:2344-2350, 2414-2416`. -/
def spawnPart (members : Finset DaemonId) (daemon : DaemonId) (nodes dynamicNodes : Finset NodeId) :
    Part where
  pendingNodes := { localNodes := nodes, externalNodes := (members.erase daemon).Nonempty }
  dynamicNodes

/-- Nodes of a daemon. -/
def Assignment.nodesOf (a : Assignment) (daemon : DaemonId) (dynamic : Bool) : Finset NodeId :=
  a.nodes.filter fun n => a.daemonOf n = daemon ∧ a.dynamic n = dynamic

/-- The dataflow has been spawned on all its daemons. -/
def start (dataflowId : Uuid) (a : Assignment) : State where
  dataflowId
  dataflow := some (.start a.daemons)
  daemonConnections := a.daemons
  parts daemon :=
    if daemon ∈ a.daemons then
      some (spawnPart a.daemons daemon (a.nodesOf daemon false) (a.nodesOf daemon true))
    else none
  members := a.daemons
  nodes daemon := a.nodesOf daemon false
  dynamicNodes daemon := a.nodesOf daemon true

/-! ## Steps -/

/-- What happens on the daemons and on the coordinator. -/
inductive Event where
  | subscribe (daemon : DaemonId) (node : NodeId)
  /-- The node has ended and is not restarted, or could not be spawned. -/
  | nodeStop (daemon : DaemonId) (node : NodeId)
  | stopDataflow (daemon : DaemonId)
  | addNode (daemon : DaemonId) (node : NodeId) (dynamic : Bool)
  /-- All nodes on the daemon have ended. -/
  | finish (daemon : DaemonId)
  /-- The daemon loses its coordinator and drops its part. -/
  | dropDataflow (daemon : DaemonId)
  /-- The coordinator spawns the part of a daemon again that has come back without it. -/
  | recover (daemon : DaemonId)
  /-- The coordinator takes the next message of the daemon. -/
  | coordinatorReceives (daemon : DaemonId)
  /-- The daemon takes the next message of the coordinator. -/
  | daemonReceives (daemon : DaemonId)
  /-- Messages under way are lost. -/
  | connectionLost (daemon : DaemonId)
  | register (daemon : DaemonId)
  | daemonExit (daemon : DaemonId)
  | heartbeatInterval (disconnected : Finset DaemonId)

/-- Answers of a daemon. -/
abbrev Output := List (DaemonId × Answer)

namespace State

/-- Store the pending nodes of a daemon and send its report. -/
def commit (s : State) (daemon : DaemonId) (part : Part) (r : PendingNodes × PendingOutput) :
    State × Output :=
  let reports := match r.2.report with
    | some exited => s.toCoordinator daemon ++ [.allNodesReady exited]
    | none => s.toCoordinator daemon
  ({ s with
      parts := update s.parts daemon (some { part with pendingNodes := r.1 })
      toCoordinator := update s.toCoordinator daemon reports },
    r.2.answer.toList.map (daemon, ·))

/-- Subscribed nodes with another one. -/
def subscribedWith (s : State) (daemon : DaemonId) (node : NodeId) : DaemonId → Finset NodeId :=
  update s.subscribed daemon (insert node (s.subscribed daemon))

/-- A node subscribes; `lib.rs:2694-2751` of the daemon. -/
def subscribe (s : State) (daemon : DaemonId) (node : NodeId) : State × Output :=
  match s.parts daemon with
  | none =>
    let err := s!"subscribe failed: no running dataflow with ID `{uuidText s.dataflowId}`"
    (s, [(daemon, { nodes := {node}, result := .error err })])
  | some part =>
    { s with subscribed := s.subscribedWith daemon node }.commit daemon part
      (part.pendingNodes.handleNodeSubscription s.dataflowId node)

/-- Nodes that have ended too early, after another one has ended. -/
def exitedWith (s : State) (daemon : DaemonId) (node : NodeId) : DaemonId → Finset NodeId :=
  if node ∈ s.nodes daemon ∧ node ∉ s.subscribed daemon then
    update s.exited daemon (insert node (s.exited daemon))
  else s.exited

/-- A node has ended; `lib.rs:3230-3262` of the daemon. -/
def nodeStop (s : State) (daemon : DaemonId) (node : NodeId) : State × Output :=
  match s.parts daemon with
  | none => (s, [])
  | some part =>
    { s with exited := s.exitedWith daemon node }.commit daemon part
      (part.pendingNodes.handleNodeStop s.dataflowId node)

/-- The dataflow is stopped; `running_dataflow.rs:345-361`. -/
def stopDataflow (s : State) (daemon : DaemonId) : State × Output :=
  match s.parts daemon with
  | none => (s, [])
  | some part =>
    s.commit daemon part (part.pendingNodes.handleDataflowStop s.dataflowId part.dynamicNodes)

/-- A node is added and started; `lib.rs:1663-1668` of the daemon. -/
def addNode (s : State) (daemon : DaemonId) (node : NodeId) (dynamic : Bool) : State :=
  match s.parts daemon with
  | none => s
  | some part =>
    if dynamic then
      let part := { part with dynamicNodes := insert node part.dynamicNodes }
      { s with
        parts := update s.parts daemon (some part)
        dynamicNodes := update s.dynamicNodes daemon (insert node (s.dynamicNodes daemon)) }
    else
      let localNodes := insert node part.pendingNodes.localNodes
      let part := { part with pendingNodes := { part.pendingNodes with localNodes } }
      { s with
        parts := update s.parts daemon (some part)
        nodes := update s.nodes daemon (insert node (s.nodes daemon))
        subscribed := update s.subscribed daemon ((s.subscribed daemon).erase node)
        exited := update s.exited daemon ((s.exited daemon).erase node) }

/-- The part is finished; `lib.rs:3273-3289` of the daemon. -/
def finish (s : State) (daemon : DaemonId) : State :=
  match s.parts daemon with
  | none => s
  | some part =>
    if part.pendingNodes.localNodes = ∅ then
      { s with
        parts := update s.parts daemon none
        toCoordinator := update s.toCoordinator daemon
          (s.toCoordinator daemon ++ [.allNodesFinished]) }
    else s

/-- The part is spawned anew; `lib.rs:2024-2081`. -/
def recover (s : State) (daemon : DaemonId) : State :=
  if s.parts daemon = none ∧ (s.dataflow.any fun df => daemon ∈ df.daemons) then
    { s with
      parts := update s.parts daemon
        (some (spawnPart s.members daemon (s.nodes daemon) (s.dynamicNodes daemon)))
      subscribed := update s.subscribed daemon ∅
      exited := update s.exited daemon ∅
      released := update s.released daemon false }
  else s

/-- The coordinator handles a message; `lib.rs:402-490`. -/
def coordinatorReceives (s : State) (daemon : DaemonId) : State :=
  match s.toCoordinator daemon with
  | [] => s
  | report :: reports =>
    let s := { s with toCoordinator := update s.toCoordinator daemon reports }
    match s.dataflow, report with
    | none, _ => s
    | some df, .allNodesReady exited =>
      let df := df.ready daemon exited
      { s with
        dataflow := some df
        toDaemon := fun d =>
          if d ∈ df.released s.daemonConnections then s.toDaemon d ++ [df.exitedBeforeSubscribe]
          else s.toDaemon d }
    | some df, .allNodesFinished =>
      let df := { df with daemons := df.daemons.erase daemon }
      { s with dataflow := if df.daemons = ∅ then none else some df }

/-- A daemon handles `AllNodesReady`; `lib.rs:1294-1331` of the daemon. -/
def daemonReceives (s : State) (daemon : DaemonId) : State × Output :=
  match s.toDaemon daemon with
  | [] => (s, [])
  | exited :: messages =>
    let s := { s with toDaemon := update s.toDaemon daemon messages }
    match s.parts daemon with
    | none => (s, [])
    | some part =>
      let r := part.pendingNodes.handleExternalAllNodesReady s.dataflowId exited
      ({ s with
          parts := update s.parts daemon (some { part with pendingNodes := r.1 })
          released := update s.released daemon true },
        [(daemon, r.2)])

end State

/-- One event. -/
def step (s : State) : Event → State × Output
  | .subscribe daemon node => s.subscribe daemon node
  | .nodeStop daemon node => s.nodeStop daemon node
  | .stopDataflow daemon => s.stopDataflow daemon
  | .addNode daemon node dynamic => (s.addNode daemon node dynamic, [])
  | .finish daemon => (s.finish daemon, [])
  | .dropDataflow daemon => ({ s with parts := update s.parts daemon none }, [])
  | .recover daemon => (s.recover daemon, [])
  | .coordinatorReceives daemon => (s.coordinatorReceives daemon, [])
  | .daemonReceives daemon => s.daemonReceives daemon
  | .connectionLost daemon =>
    ({ s with
      toCoordinator := update s.toCoordinator daemon []
      toDaemon := update s.toDaemon daemon [] }, [])
  | .register daemon => ({ s with daemonConnections := insert daemon s.daemonConnections }, [])
  | .daemonExit daemon => ({ s with daemonConnections := s.daemonConnections.erase daemon }, [])
  | .heartbeatInterval disconnected =>
    ({ s with
      daemonConnections := s.daemonConnections \ disconnected
      dataflow := s.dataflow.map (·.disconnect disconnected) }, [])

end DoraSpec.Coordinator.StartBarrier
