import DoraSpec.Message.InputMapping
import DoraSpec.Message.QueuePolicy

/-!
# Dataflow descriptors

Source `libraries/message/src/descriptor.rs` and `libraries/message/src/config.rs`: what a parsed
dataflow file holds. Maps and sets of identifiers are the lists of their entries in key order.
Fields that neither the expansion of modules nor the resolution of a dataflow nor the checks of its
wiring and types read are left out.
-/

namespace DoraSpec.Message

/-- Input of a node or operator; `config.rs:89-94`. -/
structure Input where
  mapping : InputMapping
  queueSize : Option Nat := none
  inputTimeout : Option Float := none
  queuePolicy : Option QueuePolicy := none

/-- Inputs by their identifiers. -/
abbrev Inputs := List (DataId × Input)

/-- Type annotations of ports. -/
abbrev PortTypes := List (DataId × String)

/-- Part of an operator that both operator definitions share; `descriptor.rs:882`. -/
structure OperatorConfig where
  inputs : Inputs := []
  outputs : List DataId := []
  outputTypes : PortTypes := []
  outputFraming : List (DataId × String) := []
  inputTypes : PortTypes := []
  outputMetadata : List (DataId × List String) := []
  pattern : Option String := none

/-- Operator of a runtime node; `descriptor.rs:864`. -/
structure OperatorDefinition where
  id : OperatorId
  config : OperatorConfig

/-- The operator of a node that has only one; `descriptor.rs:873`. -/
structure SingleOperatorDefinition where
  id : Option OperatorId := none
  config : OperatorConfig

/-- Revision of a git source; `descriptor.rs:1101`. -/
inductive GitRepoRev where
  | branch (name : String)
  | tag (name : String)
  | rev (name : String)
  deriving DecidableEq

/-- Where the executable of a node comes from; `descriptor.rs:1077`. -/
inductive NodeSource where
  | local
  | gitBranch (repo : String) (rev : Option GitRepoRev)
  deriving DecidableEq

/-- Inputs and outputs of a custom node; `config.rs:54`. -/
structure NodeRunConfig where
  inputs : Inputs := []
  outputs : List DataId := []
  outputTypes : PortTypes := []
  inputTypes : PortTypes := []
  outputFraming : List (DataId × String) := []

/-- Value of an environment variable; `descriptor.rs:1110`. -/
inductive EnvValue where
  | bool (value : Bool)
  | integer (value : Int)
  | float (value : Float)
  | string (value : String)

/-- Environment variables. -/
abbrev EnvVars := Std.ExtTreeMap String EnvValue

/-- Settings of logs, restarts and health checks that are set, by name; `descriptor.rs:1027`. -/
abbrev Settings := List (String × String)

/-- Custom node; `descriptor.rs:1006`. -/
structure CustomNode where
  path : String
  source : NodeSource := .local
  args : Option String := none
  build : Option String := none
  runConfig : NodeRunConfig
  envs : Option EnvVars := none
  settings : Settings := []

/-- Configuration of a ROS2 bridge, of which only its JSON text is read; `descriptor.rs:1141`. -/
structure Ros2BridgeConfig where
  json : String := ""
  deriving DecidableEq

/-- How the executable gets to its machine; `descriptor.rs:202`. -/
inductive DistributeStrategy where
  | local
  | scp
  | http
  deriving DecidableEq

/-- Where a node runs; `descriptor.rs:185`. -/
structure Deploy where
  machine : Option String := none
  workingDir : Option String := none
  labels : List (String × String) := []
  distribute : DistributeStrategy := .local
  deriving DecidableEq

/-- Node of a dataflow file; `descriptor.rs:233`. -/
structure Node where
  id : NodeId
  path : Option String := none
  args : Option String := none
  env : Option EnvVars := none
  operators : Option (List OperatorDefinition) := none
  operator : Option SingleOperatorDefinition := none
  ros2 : Option Ros2BridgeConfig := none
  custom : Option CustomNode := none
  outputs : List DataId := []
  outputTypes : PortTypes := []
  outputFraming : List (DataId × String) := []
  inputs : Inputs := []
  inputTypes : PortTypes := []
  outputMetadata : List (DataId × List String) := []
  pattern : Option String := none
  settings : Settings := []
  build : Option String := none
  git : Option String := none
  branch : Option String := none
  tag : Option String := none
  rev : Option String := none
  module : Option String := none
  params : List (String × String) := []
  deploy : Option Deploy := none

/-- Type that may be used where another one is expected; `descriptor.rs:157`. -/
structure TypeRule where
  source : String
  target : String
  deriving DecidableEq

/-- Dataflow file; `descriptor.rs:67`. -/
structure Descriptor where
  nodes : List Node
  env : Option EnvVars := none
  typeRules : List TypeRule := []

/-- What a resolved node runs; `descriptor.rs:837`. -/
inductive CoreNodeKind where
  | runtime (operators : List OperatorDefinition)
  | custom (node : CustomNode)

/-- Node after aliases are resolved; `descriptor.rs:807`. -/
structure ResolvedNode where
  id : NodeId
  kind : CoreNodeKind
  env : Option EnvVars := none
  deploy : Option Deploy := none

end DoraSpec.Message
