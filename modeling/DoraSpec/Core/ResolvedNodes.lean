import Mathlib.Data.List.Nodup
import Mathlib.Data.List.Perm.Basic
import DoraSpec.Core.ModuleTree
import DoraSpec.Core.WiringCheck

/-!
# Entries of a dataflow and its resolved nodes

Resolution puts the nodes of an expanded dataflow into a map by their identifiers. Identifiers are
checked to be distinct only where modules are expanded, so without modules a later entry replaces
an earlier one of its identifier. What an entry says at its own level is lost where its kind has no
place for it.
-/

namespace DoraSpec.Core
open Base Base.Text Message Core.Expand List Outcome

/-! ## The map of nodes -/

variable {nodes : Std.ExtTreeMap NodeId ResolvedNode} {ops : NodeId → Option OperatorId}

/-- Where an input comes from, with the output of a node as a text. -/
inductive Reference where
  | output (source : NodeId) (name : String)
  | other (mapping : InputMapping)

/-- The reference of an input. -/
def reference : InputMapping → Reference
  | .user m => .output m.source m.output.val
  | mapping => .other mapping

/-- Port of a node or operator, with what the entry says about it. -/
inductive Port where
  | input (id : DataId) (reference : Reference) (queueSize : Option Nat)
      (inputTimeout : Option Float) (queuePolicy : Option QueuePolicy)
  | output (id : DataId)
  | outputType (id : DataId) (type : String)
  | inputType (id : DataId) (type : String)
  | outputFraming (id : DataId) (framing : String)

/-- Port of an input. -/
def inputPort (entry : DataId × Input) : Port :=
  .input entry.1 (reference entry.2.mapping) entry.2.queueSize entry.2.inputTimeout
    entry.2.queuePolicy

/-- Ports of the node itself or of one of its operators. -/
def ports (place : Option OperatorId) (config : NodeRunConfig) : List (Option OperatorId × Port) :=
  (config.inputs.map inputPort ++ config.outputs.map Port.output ++
    config.outputTypes.map (fun e => Port.outputType e.1 e.2) ++
    config.inputTypes.map (fun e => Port.inputType e.1 e.2) ++
    config.outputFraming.map (fun e => Port.outputFraming e.1 e.2)).map (place, ·)

/-- Ports of an operator. -/
def operatorPorts (op : OperatorDefinition) : List (Option OperatorId × Port) :=
  ports (some op.id) ⟨op.config.inputs, op.config.outputs, op.config.outputTypes,
    op.config.inputTypes, op.config.outputFraming⟩

/-- Ports that an entry declares inside of `custom`, `operators` or `operator`. -/
def innerPorts (node : Node) : List (Option OperatorId × Port) :=
  (node.custom.elim [] fun c => ports none c.runConfig) ++
    (node.operators.getD []).flatMap operatorPorts ++
    (node.operator.elim [] fun op =>
      operatorPorts ⟨op.id.getD singleOperatorDefaultId, op.config⟩)

/-- Ports of a resolved node. -/
def resolvedPorts : CoreNodeKind → List (Option OperatorId × Port)
  | .custom c => ports none c.runConfig
  | .runtime operators => operators.flatMap operatorPorts

/-- An operator without its inputs. -/
def withoutInputs (op : OperatorDefinition) : OperatorDefinition :=
  { op with config := { op.config with inputs := [] } }

/-- The git fields of an entry name the source. -/
def HasSource (node : Node) (source : NodeSource) : Prop :=
  (node.git, node.branch, node.tag, node.rev) =
    match source with
    | .local => (none, none, none, none)
    | .gitBranch repo none => (some repo, none, none, none)
    | .gitBranch repo (some (.branch name)) => (some repo, some name, none, none)
    | .gitBranch repo (some (.tag name)) => (some repo, none, some name, none)
    | .gitBranch repo (some (.rev name)) => (some repo, none, none, some name)

/-- What the entry says at its own level about the start of a program is what the program has. -/
def KeepsSettings (node : Node) (args build : Option String) (source : NodeSource)
    (settings : Settings) : Prop :=
  (∀ a ∈ node.args, args = some a) ∧ (∀ b ∈ node.build, build = some b) ∧
    (HasSource node .local ∨ HasSource node source) ∧ node.settings ⊆ settings

/-- A resolved node keeps the settings of the entry; operators have none. -/
def KindKeepsSettings (node : Node) : CoreNodeKind → Prop
  | .custom c => KeepsSettings node c.args c.build c.source c.settings
  | .runtime _ => KeepsSettings node none none .local []

/-- A resolved node runs the program or the operators that its entry names. -/
inductive Runs (node : Node) : CoreNodeKind → Prop
  | path (c : CustomNode) : node.path = some c.path → HasSource node c.source →
      c = { c with args := node.args, build := node.build, settings := node.settings,
                   envs := none } → Runs node (.custom c)
  | custom (written c : CustomNode) : node.custom = some written →
      { c with runConfig := written.runConfig } = written → Runs node (.custom c)
  | ros2 (config : Ros2BridgeConfig) (c : CustomNode) : node.ros2 = some config →
      c = { path := "dora-ros2-bridge-node", args := node.args, settings := node.settings,
            envs := some ((∅ : EnvVars).insert "DORA_ROS2_BRIDGE_CONFIG" (.string config.json)),
            runConfig := c.runConfig } → Runs node (.custom c)
  | operators (written operators : List OperatorDefinition) : node.operators = some written →
      operators.map withoutInputs = written.map withoutInputs → Runs node (.runtime operators)
  | operator (written : SingleOperatorDefinition) (op : OperatorDefinition) :
      node.operator = some written →
      withoutInputs op = withoutInputs ⟨written.id.getD singleOperatorDefaultId, written.config⟩ →
      Runs node (.runtime [op])

section Entries

variable (ops : NodeId → Option OperatorId) (global : Option EnvVars)

/-- An output of a node with a single operator is one of the operator. -/
def Reference.long : Reference → Reference
  | .output source name =>
    .output source ((ops source).elim name fun op => joinOnce '/' op.val name)
  | r => r

/-- Long form of the reference of a port. -/
def longPort : Option OperatorId × Port → Option OperatorId × Port
  | (place, .input id r queueSize inputTimeout queuePolicy) =>
    (place, .input id (r.long ops) queueSize inputTimeout queuePolicy)
  | port => port

/-- A resolved node carries the definition of an entry: it runs what the entry names, in its
environment and on its machine, and has all ports and settings that the entry declares. -/
structure Carries (node : Node) (n : ResolvedNode) : Prop where
  id : n.id = node.id
  deploy : n.deploy = node.deploy
  env : ∀ key : String, n.env.bind (·.get? key) = (node.env.bind (·.get? key)).or (global.bind (·.get? key))
  runs : Runs node n.kind
  settings : KindKeepsSettings node n.kind
  ports : ∀ p, p ∈ resolvedPorts n.kind ↔
    p ∈ (ports none (nodeRunConfig node) ++ innerPorts node).map (longPort ops)

end Entries

/-- What an entry without `path` says at its own level has a place in its resolved form: the ports
are those of the bridge, or repeated inside of `custom` (operators have ports of their own), and
only a custom node can repeat the settings. -/
structure Fits (node : Node) : Prop where
  ports : node.path = none → node.ros2 = none → ports none (nodeRunConfig node) ⊆ innerPorts node
  custom : ∀ c ∈ node.custom, KeepsSettings node c.args c.build c.source c.settings
  other : node.path = none → node.custom = none →
    KeepsSettings node (if node.ros2.isSome then node.args else none) none .local
      (if node.ros2.isSome then node.settings else [])

/-! ## Resolution of one entry -/

section Resolution

variable {ops : NodeId → Option OperatorId} {global : Option EnvVars}

end Resolution

/-! ## Entries -/

/-- An entry without what the modules around it may change: its name, where its inputs come from,
its path, and the arguments, variables, build command and machine that it takes over. -/
def unscoped (node : Node) : Node :=
  { node with
    id := ⟨""⟩
    inputs := []
    path := node.path.map fun _ => ""
    args := none
    env := none
    build := none
    deploy := none
    operators := node.operators.map (·.map withoutInputs)
    operator := node.operator.map fun op => { op with config := { op.config with inputs := [] } }
    custom := node.custom.map fun c => { c with runConfig := { c.runConfig with inputs := [] } } }

/-- The operator of the node of an identifier, if that has a single one. -/
def singleOperator (nodes : List Node) (id : NodeId) : Option OperatorId :=
  (nodes.find? (·.id = id)).bind fun n => n.operator.map (·.id.getD singleOperatorDefaultId)

/-- The resolved node is the one of a plain node of the dataflow or its modules: it carries the
definition of the node as the modules around it adapt it. -/
def IsEntry (project : Project) (global : Option EnvVars) (l : Leaf)
    (n : ResolvedNode) : Prop :=
  Carries (singleOperator (project.leaves.map project.final)) global (project.final l) n ∧
    n.id.val = qualifyIn (l.frames.head?.map Frame.id) l.node.id.val ∧
    unscoped (project.final l) = unscoped l.node

end DoraSpec.Core
