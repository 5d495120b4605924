import DoraSpec.Message.Descriptor

/-!
# Resolved dataflows and the wiring check

Source `libraries/core/src/descriptor/mod.rs` and `libraries/core/src/descriptor/validate.rs`.
Resolution gives every node its kind and writes references to the output of a single operator in
their long form; the check then compares each input with the outputs of its source. Both build
data identifiers from parts of other texts by the conversion that panics.
-/

namespace DoraSpec.Core
open Base Base.Text Message

/-- Name of a single operator without one; `mod.rs:58`. -/
def singleOperatorDefaultId : OperatorId := ⟨"op"⟩

/-- Kind of a node; `mod.rs:420-430`. -/
inductive NodeKind where
  | standard (path : String)
  | runtime (operators : List OperatorDefinition)
  | custom (node : CustomNode)
  | operator (definition : SingleOperatorDefinition)
  | ros2Bridge (config : Ros2BridgeConfig)
  | module (path : String)

/-- The kind is the one exclusive field that is set; `NodeExt::kind`, `mod.rs:387-417`. -/
def kind (node : Node) : Except String NodeKind :=
  match node.path, node.operators, node.custom, node.operator, node.ros2, node.module with
  | none, none, none, none, none, none => .error (s!"node `{node.id.val}` requires a `path`, " ++
      "`custom`, `operators`, `ros2`, or `module` field")
  | none, none, none, some operator, none, none => .ok (.operator operator)
  | none, none, some custom, none, none, none => .ok (.custom custom)
  | none, some runtime, none, none, none, none => .ok (.runtime runtime)
  | some path, none, none, none, none, none => .ok (.standard path)
  | none, none, none, none, some ros2, none => .ok (.ros2Bridge ros2)
  | none, none, none, none, none, some path => .ok (.module path)
  | _, _, _, _, _, _ => .error (s!"node `{node.id.val}` has multiple exclusive fields set, only " ++
      "one of `path`, `custom`, `operators`, `operator`, `ros2`, and `module` is allowed")

/-- Debug text of an optional string. -/
def debugOption : Option String → String
  | none => "None"
  | some s => s!"Some({s.quote})"

/-- Source of a node that has a path; `mod.rs:295-317`. -/
def nodeSource (node : Node) : Except String NodeSource :=
  match node.git, node.branch, node.tag, node.rev with
  | none, none, none, none => .ok .local
  | some repo, none, none, none => .ok (.gitBranch repo none)
  | some repo, some branch, none, none => .ok (.gitBranch repo (some (.branch branch)))
  | some repo, none, some tag, none => .ok (.gitBranch repo (some (.tag tag)))
  | some repo, none, none, some rev => .ok (.gitBranch repo (some (.rev rev)))
  | some _, branch, tag, rev => .error ("only one of `branch`, `tag`, and `rev` are allowed (got " ++
      s!"({debugOption branch}, {debugOption tag}, {debugOption rev}))")
  | none, _, _, _ => .error "`git` source required when using branch, tag, or rev"

/-- Kind of a node of an expanded dataflow; `mod.rs:433-445`. -/
inductive NodeKindMut where
  | standard (path : String) (source : NodeSource) (inputs : Inputs)
  | runtime (operators : List OperatorDefinition)
  | custom (node : CustomNode)
  | operator (definition : SingleOperatorDefinition)
  | ros2Bridge (config : Ros2BridgeConfig)

/-- `node_kind_mut`, `mod.rs:286-347`. -/
def nodeKindMut (node : Node) : Except String NodeKindMut := do
  match ← kind node with
  | .module _ => .error (s!"module node `{node.id.val}` must be expanded before resolution — " ++
      "call expand_modules() first")
  | .standard path => do
    let source ← nodeSource node
    pure (.standard path source node.inputs)
  | .runtime operators => pure (.runtime operators)
  | .custom custom => pure (.custom custom)
  | .operator operator => pure (.operator operator)
  | .ros2Bridge config => pure (.ros2Bridge config)

/-- Operators of the nodes that have a single one, the last entry of an id; `mod.rs:64-72`. -/
def singleOperatorNodes (nodes : List Node) (id : NodeId) : Option OperatorId :=
  nodes.reverse.findSome? fun n =>
    if n.id = id then n.operator.map (·.id.getD singleOperatorDefaultId) else none

section Aliases

variable (ops : NodeId → Option OperatorId)

/-- Long form of a reference to a single operator; `mod.rs:79-83` and `mod.rs:108-110`. -/
def resolveMapping : InputMapping → Outcome String InputMapping
  | .timer interval => .ok (.timer interval)
  | .logs filter => .ok (.logs filter)
  | .user m =>
    match ops m.source with
    | none => .ok (.user m)
    | some opName => do
      let output ← DataId.from (joinOnce '/' opName.val m.output.val)
      pure (.user { m with output })

/-- Long form of the reference of an input. -/
def resolveInput (entry : DataId × Input) : Outcome String (DataId × Input) := do
  let mapping ← resolveMapping ops entry.2.mapping
  pure (entry.1, { entry.2 with mapping })

/-- Long form of all references of a group of inputs. -/
def resolveInputs (inputs : Inputs) : Outcome String Inputs := inputs.mapM (resolveInput ops)

/-- Long form of the references of one operator. -/
def resolveOperator (op : OperatorDefinition) : Outcome String OperatorDefinition := do
  let inputs ← resolveInputs ops op.config.inputs
  pure { op with config := { op.config with inputs } }

/-- Inputs and outputs at the level of the node; `mod.rs:128-134` and `mod.rs:171-177`. -/
def nodeRunConfig (node : Node) : NodeRunConfig where
  inputs := node.inputs
  outputs := node.outputs
  outputTypes := node.outputTypes
  inputTypes := node.inputTypes
  outputFraming := node.outputFraming

/-- Resolved form of a node whose kind is known; `mod.rs:87-187`. -/
def resolveKind (node : Node) : NodeKindMut → Outcome String CoreNodeKind
  | .standard path source inputs => do
    let inputs ← resolveInputs ops inputs
    pure (.custom { path, source, args := node.args, build := node.build,
                    settings := node.settings,
                    runConfig := { nodeRunConfig node with inputs } })
  | .custom custom => do
    let inputs ← resolveInputs ops custom.runConfig.inputs
    pure (.custom { custom with runConfig := { custom.runConfig with inputs } })
  | .runtime operators => do
    let operators ← operators.mapM (resolveOperator ops)
    pure (.runtime operators)
  | .operator op => do
    let op ← resolveOperator ops ⟨op.id.getD singleOperatorDefaultId, op.config⟩
    pure (.runtime [op])
  | .ros2Bridge config => do
    let envs := (∅ : EnvVars).insert "DORA_ROS2_BRIDGE_CONFIG"
      (.string config.json)
    pure (.custom { path := "dora-ros2-bridge-node", args := node.args, envs := some envs,
                    settings := node.settings, runConfig := nodeRunConfig node })

/-- The inputs of a ROS2 bridge are rewritten before its kind is looked at; `mod.rs:75-86`. -/
def resolveBridgeInputs (node : Node) : Outcome String Node :=
  if node.ros2.isSome then do
    let inputs ← resolveInputs ops node.inputs
    pure { node with inputs }
  else pure node

/-- Variables of a node over those of the dataflow; `merge_env`, `mod.rs:262-277`. -/
def mergeEnv : (global node : Option EnvVars) →
    Option EnvVars
  | none, node => node
  | some global, none => if global.isEmpty then none else some global
  | some global, some node => some (global ∪ node)

variable (global : Option EnvVars)

/-- Find the kind of the node and resolve it; `mod.rs:87-205`. -/
def resolveByKind (node : Node) : Outcome String ResolvedNode := do
  let nodeKind ← Outcome.ofExcept (nodeKindMut node)
  let kind ← resolveKind ops node nodeKind
  pure { id := node.id, kind, env := mergeEnv global node.env, deploy := node.deploy }

/-- One turn of the loop of `mod.rs:75-205`. -/
def resolveNode (node : Node) : Outcome String ResolvedNode := do
  let node ← resolveBridgeInputs ops node
  resolveByKind ops global node

end Aliases

/-- Resolved nodes by their ids; a later node replaces an earlier one of its id. -/
def collectNodes (nodes : List ResolvedNode) : Std.ExtTreeMap NodeId ResolvedNode :=
  nodes.foldl (fun m n => m.insert n.id n) ∅

/-- `resolve_aliases_and_set_defaults`, `mod.rs:61-208`. -/
def resolveAliasesAndSetDefaults (dataflow : Descriptor) :
    Outcome String (Std.ExtTreeMap NodeId ResolvedNode) := do
  let nodes ← dataflow.nodes.mapM (resolveNode (singleOperatorNodes dataflow.nodes) dataflow.env)
  pure (collectNodes nodes)

/-- Nodes in the order of their ids. -/
def nodeValues (nodes : Std.ExtTreeMap NodeId ResolvedNode) : List ResolvedNode :=
  nodes.toList.map Prod.snd

/-- Check a reference against the outputs of its source node; `validate.rs:368-402`. -/
def checkOutput (m : UserInputMapping) (inputIdStr : String) : CoreNodeKind → Outcome String Unit
  | .custom custom =>
    if m.output ∈ custom.runConfig.outputs then .ok ()
    else .err (s!"output `{m.source.val}/{m.output.val}` mapped to " ++
      s!"input `{inputIdStr}` does not exist")
  | .runtime operators => do
    -- `unwrap_or_default`: without a slash both parts are empty
    let parts := (splitOnce '/' m.output.val).getD ("", "")
    let output ← DataId.from parts.2
    let operator ← Outcome.okOr (s!"source operator `{m.source.val}/{parts.1}` used " ++
      s!"for input `{inputIdStr}` does not exist") (operators.find? (·.id = ⟨parts.1⟩))
    if output ∈ operator.config.outputs then .ok ()
    else .err (s!"output `{m.source.val}/{parts.1}/{output.val}` mapped to " ++
      s!"input `{inputIdStr}` does not exist")

/-- Check one input against the outputs of its source; `check_input`, `validate.rs:358-405`. -/
def checkInput (input : Input) (nodes : Std.ExtTreeMap NodeId ResolvedNode) (inputIdStr : String) :
    Outcome String Unit :=
  match input.mapping with
  | .timer _ => .ok ()
  | .logs _ => .ok ()
  | .user m => do
    let sourceNode ← Outcome.okOr
      s!"source node `{m.source.val}` mapped to input `{inputIdStr}` does not exist"
      ((nodeValues nodes).find? (·.id = m.source))
    checkOutput m inputIdStr sourceNode.kind

/-- Inputs of a node with the names its messages use for them; `validate.rs:31-48`. -/
def namedInputs (node : ResolvedNode) : List (Input × String) :=
  match node.kind with
  | .custom custom => custom.runConfig.inputs.map fun (inputId, input) =>
      (input, s!"{node.id.val}/{inputId.val}")
  | .runtime operators => operators.flatMap fun op => op.config.inputs.map fun (inputId, input) =>
      (input, s!"{op.id.val}/{node.id.val}/{inputId.val}")

/-- All inputs in the order in which they are checked. -/
def allInputs (nodes : Std.ExtTreeMap NodeId ResolvedNode) : List (Input × String) :=
  (nodeValues nodes).flatMap namedInputs

/-- Validate the wiring; `check_wiring`, `validate.rs:27-52`. -/
def checkWiring (dataflow : Descriptor) : Outcome String Unit := do
  let nodes ← resolveAliasesAndSetDefaults dataflow
  (allInputs nodes).forM fun i => checkInput i.1 nodes i.2

end DoraSpec.Core
