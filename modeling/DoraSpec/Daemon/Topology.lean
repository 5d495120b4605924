import Mathlib.Data.Finset.Image
import DoraSpec.Message.Descriptor
import DoraSpec.Recording.Format

/-!
# Topology changes on a daemon

Source `binaries/daemon/src/lib.rs:1546-1824`: how a daemon adds and removes the nodes and
connections of a running dataflow when its coordinator asks for it. Tables of sets are relations.
Whether a process could be spawned is an input. Processes, channels and what the nodes are told
are left out.
-/

namespace DoraSpec.Daemon
open Base Message
open Recording (Uuid)

/-- Output of a node; `event_types.rs:29`. -/
abbrev OutputId := NodeId × DataId

/-- Input of a node. -/
abbrev InputKey := NodeId × DataId

instance : LawfulBEq InputKey := inferInstance

/-- Tables of a running dataflow; `running_dataflow.rs:177-222`. -/
structure RunningDataflow where
  descriptor : List Node := []
  pendingNodes : Finset NodeId := ∅
  mappings : Finset (OutputId × InputKey) := ∅
  timers : Finset (Duration × InputKey) := ∅
  logSubscribers : List (InputKey × LogSubscriptionFilter) := []
  openInputs : Finset InputKey := ∅
  inputDeadlines : InputKey → Option Float := fun _ => none
  brokenInputs : Finset InputKey := ∅
  runningNodes : Finset NodeId := ∅
  dynamicNodes : Finset NodeId := ∅

/-- Change of the topology that a coordinator asks for; `coordinator_to_daemon.rs:112-138`. -/
inductive TopologyEvent where
  | addNode (node : ResolvedNode)
  | removeNode (nodeId : NodeId)
  | addMapping (source : OutputId) (target : InputKey)
  | removeMapping (source : OutputId) (target : InputKey)

/-- Inputs of the operators, named after them; `runtime_node_inputs`, `lib.rs:4345-4357`. -/
def runtimeNodeInputs (operators : List OperatorDefinition) : Outcome String Inputs := do
  let inputs ← operators.mapM fun op => op.config.inputs.mapM fun (inputId, input) => do
    let id ← DataId.from s!"{op.id.val}/{inputId.val}"
    pure (id, input)
  pure inputs.flatten

/-- `node_inputs`, `lib.rs:4186-4191`. -/
def nodeInputs (node : ResolvedNode) : Outcome String Inputs :=
  match node.kind with
  | .custom n => .ok n.runConfig.inputs
  | .runtime operators => runtimeNodeInputs operators

/-- Path of a node that the user starts; `descriptor.rs:31`. -/
def dynamicSource : String := "dynamic"

/-- `CoreNodeKind::dynamic`, `lib.rs:5092-5099`. -/
def dynamic : CoreNodeKind → Bool
  | .runtime _ => false
  | .custom n => n.source = .local ∧ n.path = dynamicSource

namespace RunningDataflow

/-- Register one input of a new node; `lib.rs:1621-1661`. -/
def registerInput (nodeId : NodeId) (df : RunningDataflow) (entry : DataId × Input) :
    RunningDataflow :=
  let key : InputKey := (nodeId, entry.1)
  let df := { df with openInputs := insert key df.openInputs }
  match entry.2.mapping with
  | .user mapping => { df with
      inputDeadlines := match entry.2.inputTimeout with
        | some timeout => Function.update df.inputDeadlines key (some timeout)
        | none => df.inputDeadlines
      mappings := insert ((mapping.source, mapping.output), key) df.mappings }
  | .timer interval => { df with timers := insert (interval, key) df.timers }
  | .logs filter => { df with logSubscribers := df.logSubscribers ++ [(key, filter)] }

/-- Tables after a new node was spawned; `lib.rs:1614-1721`. -/
def addNode (df : RunningDataflow) (node : ResolvedNode) (inputs : Inputs) : RunningDataflow :=
  let df := inputs.foldl (registerInput node.id) df
  let df := if dynamic node.kind then { df with dynamicNodes := insert node.id df.dynamicNodes }
    else { df with pendingNodes := insert node.id df.pendingNodes }
  { df with
    runningNodes := insert node.id df.runningNodes
    descriptor := df.descriptor ++ [{ id := node.id, inputs }] }

/-- Close inputs for good; `close_input`, `lib.rs:4193-4243`, for each of them. -/
def closeInputs (df : RunningDataflow) (inputs : Finset InputKey) : RunningDataflow :=
  { df with
    brokenInputs := df.brokenInputs \ inputs
    openInputs := df.openInputs \ inputs }

/-- Tables after a node was removed; `lib.rs:1744-1783`. -/
def removeNode (df : RunningDataflow) (nodeId : NodeId) : RunningDataflow :=
  let df := df.closeInputs ((df.mappings.filter (·.1.1 = nodeId)).image Prod.snd)
  { df with
    mappings := df.mappings.filter fun m => m.1.1 ≠ nodeId ∧ m.2.1 ≠ nodeId
    runningNodes := df.runningNodes.erase nodeId
    openInputs := df.openInputs.filter (·.1 ≠ nodeId)
    descriptor := df.descriptor.filter (·.id ≠ nodeId) }

/-- Connect an output to an input; `lib.rs:1793-1804`. -/
def addMapping (df : RunningDataflow) (source : OutputId) (target : InputKey) : RunningDataflow :=
  { df with
    mappings := insert (source, target) df.mappings
    openInputs := insert target df.openInputs }

/-- Disconnect an input that is connected; `lib.rs:1817-1824`. -/
def removeMapping (df : RunningDataflow) (source : OutputId) (target : InputKey) :
    RunningDataflow :=
  if (source, target) ∈ df.mappings then
    ({ df with mappings := df.mappings.erase (source, target) } : RunningDataflow).closeInputs
      {target}
  else df

/-- Carry out a change; a node is added only if its process was spawned. -/
def apply (df : RunningDataflow) (spawned : Bool) : TopologyEvent → RunningDataflow
  | .addNode node =>
    match nodeInputs node, spawned with
    | .ok inputs, true => df.addNode node inputs
    | _, _ => df
  | .removeNode nodeId => df.removeNode nodeId
  | .addMapping source target => df.addMapping source target
  | .removeMapping source target => df.removeMapping source target

end RunningDataflow

/-- Dataflows that a daemon runs; `lib.rs:241`. -/
abbrev Running := Uuid → Option RunningDataflow

/-- Replies of a daemon to its coordinator; `daemon_to_coordinator.rs:194-211`. -/
inductive DaemonCoordinatorReply where
  | stopResult (result : Except String Unit)
  | setParamResult (result : Except String Unit)
  | deleteParamResult (result : Except String Unit)

/-- Handle a change of the topology; `lib.rs:1546-1824`. The reply channel gets `None` in all four
cases, whether or not the change was made. -/
def handleTopologyEvent (running : Running) (dataflowId : Uuid) (event : TopologyEvent)
    (spawned : Bool) : Running × Option DaemonCoordinatorReply :=
  (Function.update running dataflowId ((running dataflowId).map (·.apply spawned event)), none)

end DoraSpec.Daemon
