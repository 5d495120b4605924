import DoraSpec.Base.OrderedTable
import DoraSpec.Base.Text

/-!
# The record command

Source `binaries/cli/src/command/record.rs:74-223`. The command reads a dataflow file as plain YAML,
collects the outputs of its nodes and adds a node that subscribes to the selected ones. The inputs of
this node are named after node and output. The text of its topic map is that of a JSON library.
-/

namespace DoraSpec.Cli
open Base.Text Base.OrderedTable
open Std (ExtTreeMap)

/-! ## YAML -/

/-- `serde_yaml::Value`; numbers keep their text. -/
inductive Value where
  | null
  | bool (value : Bool)
  | number (text : String)
  | string (value : String)
  | sequence (items : List Value)
  | mapping (entries : List (Value × Value))
  | tagged (tag : String) (value : Value)

namespace Value

/-- The value without tags. -/
def untag : Value → Value
  | tagged _ value => value.untag
  | value => value

/-- Value of a key of a mapping. -/
def get (key : String) (value : Value) : Option Value :=
  match value.untag with
  | mapping entries => entries.findSome? fun
    | (string name, value) => if name = key then some value else none
    | _ => none
  | _ => none

def asSequence (value : Value) : Option (List Value) :=
  match value.untag with
  | sequence items => some items
  | _ => none

def asStr (value : Value) : Option String :=
  match value.untag with
  | string value => some value
  | _ => none

/-- The value with another one for a key that it has. -/
def set (key : String) (new : Value) : Value → Value
  | mapping entries => mapping (entries.map fun
    | (string name, value) => (string name, if name = key then new else value)
    | entry => entry)
  | tagged tag value => tagged tag (set key new value)
  | value => value

end Value

/-! ## Topics -/

/-- Node and output. -/
abbrev Topic := String × String

/-- `record.rs:115`. -/
def topicText (topic : Topic) : String := joinOnce '/' topic.1 topic.2

/-- Input of the record node for a topic; `record.rs:117`. -/
def inputId (topic : Topic) : String := topic.1 ++ "___" ++ topic.2

/-- Outputs of a node; `record.rs:84-92`. -/
def nodeOutputs (node : Value) : List Topic :=
  let nodeId := ((node.get "id").bind Value.asStr).getD ""
  match (node.get "outputs").bind Value.asSequence with
  | some outputs => outputs.filterMap fun output => output.asStr.map (nodeId, ·)
  | none => []

/-- `discover_descriptor_outputs`, `record.rs:74-101`. -/
def discoverDescriptorOutputs (descriptor : Value) : Except String (List Topic) :=
  match (descriptor.get "nodes").bind Value.asSequence with
  | none => .error "descriptor has no nodes array"
  | some nodes =>
    let outputs := nodes.flatMap nodeOutputs
    if outputs = [] then
      .error ("no outputs found in descriptor\n\n  " ++
        "hint: ensure nodes in the dataflow declare `outputs` in their YAML definition")
    else .ok outputs

/-- Inputs of the record node by topic; `record.rs:112-119`. -/
def allTopics (outputs : List Topic) : ExtTreeMap String String :=
  ofEntries (outputs.map fun topic => (topicText topic, inputId topic))

/-- Add a requested topic; `record.rs:127-136`. -/
def requestTopic (all filtered : ExtTreeMap String String) (requested : String) :
    Except String (ExtTreeMap String String) :=
  match all[requested]? with
  | some inputId => .ok (filtered.insert requested inputId)
  | none => .error (s!"topic `{requested}` not found in descriptor. Available: " ++
      ", ".intercalate all.keys)

/-- The requested topics, or all; `record.rs:122-139`. -/
def filterTopics (all : ExtTreeMap String String) (requested : List String) :
    Except String (ExtTreeMap String String) :=
  if requested = [] then .ok all else requested.foldlM (requestTopic all) ∅

/-! ## The record node -/

/-- Node that is added to the dataflow. Its topic map and its inputs both lead from an input to a
topic. -/
structure RecordNode where
  path : String
  file : String
  descriptor : String
  topicMap : ExtTreeMap String String
  inputs : ExtTreeMap String String

/-- The topic map of the inputs; `record.rs:156-160`. -/
def byInput (topics : ExtTreeMap String String) : ExtTreeMap String String :=
  ofEntries (topics.toList.map Prod.swap)

/-- YAML of the node; `record.rs:163-206`. -/
def RecordNode.toYaml (toJson : ExtTreeMap String String → String) (node : RecordNode) : Value :=
  .mapping [
    (.string "id", .string "__dora_record__"),
    (.string "path", .string node.path),
    (.string "inputs", .mapping (node.inputs.toList.map fun entry =>
      (.string entry.1, .string entry.2))),
    (.string "env", .mapping [
      (.string "DORA_RECORD_FILE", .string node.file),
      (.string "DORA_RECORD_TOPICS", .string (toJson node.topicMap)),
      (.string "DORA_RECORD_DESCRIPTOR", .string node.descriptor)])]

/-- What the command reads besides the descriptor. -/
structure RecordArgs where
  topics : List String
  path : String
  file : String
  descriptor : String

/-- `run_record` up to the start of the dataflow, `record.rs:103-215`. -/
def runRecord (toJson : ExtTreeMap String String → String) (args : RecordArgs) (descriptor : Value) :
    Except String (RecordNode × Value) := do
  let outputs ← discoverDescriptorOutputs descriptor
  let topics ← filterTopics (allTopics outputs) args.topics
  let node : RecordNode :=
    { path := args.path, file := args.file, descriptor := args.descriptor
      topicMap := byInput topics, inputs := byInput topics }
  match (descriptor.get "nodes").bind Value.asSequence with
  | none => .error "descriptor has no nodes array"
  | some nodes => .ok (node, descriptor.set "nodes" (.sequence (nodes ++ [node.toYaml toJson])))

end DoraSpec.Cli
