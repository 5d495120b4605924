import DoraSpec.Core.Resolve
import DoraSpec.Core.Types

/-!
# The type check of a dataflow

Source `libraries/core/src/descriptor/validate.rs`: type annotations of ports are checked against
the ports, the known types and each other along connections. The annotations of outputs are kept
under the names that inputs have to use for them in a resolved dataflow, while the inputs are those
of the dataflow as written.
-/

namespace DoraSpec.Core.TypeCheck
open Base Base.Text Message Core.Types List

/-! ## The check -/

/-- Type of timers; `validate.rs:713`. -/
def timerType : String := "std/core/v1/UInt64"

/-- Side of a node. -/
inductive PortKind where
  | output
  | input
  deriving DecidableEq

/-- Word that messages use for a port. -/
def PortKind.word : PortKind → String
  | .output => "output"
  | .input => "input"

/-- What the check finds. -/
inductive Finding where
  | missingPort (kind : PortKind) (port : DataId)
  | unknownType (urn : String) (kind : PortKind) (port : DataId) (hint : Option String)
  | missingMetadata (output : DataId)
  | unknownPattern (pattern : String)
  | mismatch (input : DataId) (source : UserInputMapping) (outUrn inUrn : String)
      (detail : Option String)
  | unannotated (input : DataId) (source : UserInputMapping) (inUrn : String)
  | timerMismatch (input : DataId) (timerUrn inUrn : String)

/-- Text of a finding. -/
def Finding.message : Finding → String
  | .missingPort kind port => s!"{kind.word}_types key \"{port.val}\" not found in {kind.word}s list"
  | .unknownType urn kind port hint =>
    s!"unknown type \"{urn}\" on {kind.word} \"{port.val}\"" ++
      (hint.map fun s => s!" (did you mean \"{s}\"?)").getD ""
  | .missingMetadata output =>
    s!"output_metadata key \"{output.val}\" not found in outputs list"
  | .unknownPattern pattern => s!"unknown pattern \"{pattern}\", expected one of: " ++
      "service-server, service-client, action-server, action-client"
  | .mismatch input source outUrn inUrn detail =>
    s!"type mismatch on input \"{input.val}\": " ++
      s!"upstream {source.source.val}/{source.output.val} declares \"{outUrn}\", " ++
      s!"but expected \"{inUrn}\"" ++ (detail.map fun d => s!" ({d})").getD ""
  | .unannotated input source inUrn => s!"input \"{input.val}\" expects type \"{inUrn}\" but " ++
      s!"upstream {source.source.val}/{source.output.val} has no type annotation"
  | .timerMismatch input timerUrn inUrn => s!"type mismatch on input \"{input.val}\": " ++
      s!"timer provides \"{timerUrn}\", but expected \"{inUrn}\""

/-- Warning about a node or operator; `validate.rs:667-673`, with the text as a finding. -/
structure TypeWarning where
  nodeId : String
  finding : Finding

/-- Type of an input that its source gives it; `validate.rs:682-692`. -/
structure TypeInference where
  nodeId : String
  portId : DataId
  inferredUrn : String
  source : UserInputMapping

/-- `validate.rs:705-710`. -/
structure TypeCheckResult where
  warnings : List TypeWarning
  inferences : List TypeInference

/-- `pattern_metadata_keys`, `types.rs:442-449`. -/
def patternMetadataKeys (pattern : String) : Option (List String) :=
  if pattern ∈ ["service-server", "service-client"] then some ["request_id"]
  else if pattern = "action-server" then some ["goal_id", "goal_status"]
  else if pattern = "action-client" then some ["goal_id"]
  else none

/-- `timer_input_types`, `validate.rs:929-945`. -/
def timerInputTypes (inputs : Inputs) : PortTypes :=
  inputs.filterMap fun (inputId, input) =>
    match input.mapping with
    | .timer _ => some (inputId, timerType)
    | .logs _ | .user _ => none

section

variable (registry : TypeRegistry)

/-- `check_port_types`, `validate.rs:948-977`. -/
def checkPortTypes (nodeId : String) (typeMap : PortTypes) (ports : List DataId)
    (kind : PortKind) : List TypeWarning :=
  typeMap.flatMap fun (port, urn) =>
    (if port ∈ ports then [] else [⟨nodeId, .missingPort kind port⟩]) ++
      if registry.resolves urn then []
      else [⟨nodeId, .unknownType urn kind port (registry.suggest urn)⟩]

/-- `check_metadata_annotations`, `validate.rs:980-1007`. -/
def checkMetadataAnnotations (nodeId : String) (outputMetadata : List (DataId × List String))
    (pattern : Option String) (outputs : List DataId) : List TypeWarning :=
  (outputMetadata.filterMap fun (output, _) =>
    if output ∈ outputs then none else some ⟨nodeId, .missingMetadata output⟩) ++
  pattern.toList.filterMap fun pattern =>
    if (patternMetadataKeys pattern).isNone then some ⟨nodeId, .unknownPattern pattern⟩ else none

/-- Annotations of the ports of a node or an operator. -/
def checkPorts (nodeId : String) (config : OperatorConfig) : List TypeWarning :=
  checkPortTypes registry nodeId config.outputTypes config.outputs .output ++
    checkPortTypes registry nodeId config.inputTypes (config.inputs.map (·.1)) .input ++
    checkMetadataAnnotations nodeId config.outputMetadata config.pattern config.outputs

/-- Ports at the level of the node, as those of an operator. -/
def nodeConfig (node : Node) : OperatorConfig where
  inputs := node.inputs
  outputs := node.outputs
  outputTypes := node.outputTypes
  inputTypes := node.inputTypes
  outputMetadata := node.outputMetadata
  pattern := node.pattern

/-- Name of a single operator; `validate.rs:798-802`. -/
def operatorName (op : SingleOperatorDefinition) : OperatorId := op.id.getD singleOperatorDefaultId

/-- Name of an operator in warnings; `validate.rs:836` and `validate.rs:900`. -/
def operatorLabel (nodeId : NodeId) (op : OperatorId) : String := s!"{nodeId.val}/{op.val}"

/-- Configurations that the check looks at, with the names that warnings use for them. -/
def checkedConfigs (node : Node) : List (String × OperatorConfig) :=
  (node.id.val, nodeConfig node) ::
    (node.operator.toList.map fun op => (node.id.val, op.config)) ++
    (node.operators.getD []).map fun op => (operatorLabel node.id op.id, op.config)

/-- Types of outputs by node and name, the newest first. -/
abbrev OutputTypeMap := List ((String × String) × String)

/-- Keep the known types; `validate.rs:772-776`, `validate.rs:811-816` and `validate.rs:845-850`. -/
def registerOutputs (nodeId : String) (name : DataId → String) (types : PortTypes)
    (map : OutputTypeMap) : OutputTypeMap :=
  types.foldl (fun map (output, urn) =>
    if registry.resolves urn then ((nodeId, name output), urn) :: map else map) map

/-- Types of the outputs of a node: its own, and those of operators behind their names. -/
def registerNode (map : OutputTypeMap) (node : Node) : OutputTypeMap :=
  let map := registerOutputs registry node.id.val (·.val) node.outputTypes map
  let map := node.operator.toList.foldl (fun map op =>
    registerOutputs registry node.id.val (joinOnce '/' (operatorName op).val ·.val)
      op.config.outputTypes map) map
  (node.operators.getD []).foldl (fun map op =>
    registerOutputs registry node.id.val (joinOnce '/' op.id.val ·.val) op.config.outputTypes map) map

/-- One input of `check_edge_mismatches_with_compat`, `validate.rs:1026-1092`. -/
def checkEdge (compat : CompatibilityGraph) (strict : Bool) (map : OutputTypeMap) (nodeId : String)
    (config : OperatorConfig) (inputId : DataId) (input : Input) :
    Option TypeWarning × Option TypeInference :=
  match input.mapping with
  | .user mapping =>
    match map.lookup (mapping.source.val, mapping.output.val), config.inputTypes.lookup inputId with
    | some outUrn, some inUrn =>
      if compat.isCompatible outUrn inUrn then (none, none)
      else (some ⟨nodeId, .mismatch inputId mapping outUrn inUrn
        (registry.schemaDetail outUrn inUrn)⟩, none)
    | some outUrn, none => (none, some ⟨nodeId, inputId, outUrn, mapping⟩)
    | none, some inUrn =>
      if strict then (some ⟨nodeId, .unannotated inputId mapping inUrn⟩, none) else (none, none)
    | none, none => (none, none)
  | .timer _ =>
    match config.inputTypes.lookup inputId with
    | some inUrn =>
      let timerUrn := ((timerInputTypes config.inputs).lookup inputId).getD timerType
      if compat.isCompatible timerUrn inUrn then (none, none)
      else (some ⟨nodeId, .timerMismatch inputId timerUrn inUrn⟩, none)
    | none => (none, none)
  -- log lines are texts, whatever the annotation says
  | .logs _ => (none, none)

/-- `check_type_annotations_full`, `validate.rs:734-926`. -/
def checkTypeAnnotationsFull (strict : Bool) (dataflow : Descriptor) : TypeCheckResult :=
  let compat := CompatibilityGraph.new dataflow.typeRules
  let outputTypeMap := dataflow.nodes.foldl (registerNode registry) []
  let portWarnings := (dataflow.nodes.flatMap checkedConfigs).flatMap fun (label, config) =>
    checkPorts registry label config
  let edges := (dataflow.nodes.flatMap checkedConfigs).flatMap fun (label, config) =>
    config.inputs.map fun (inputId, input) =>
      checkEdge registry compat strict outputTypeMap label config inputId input
  { warnings := portWarnings ++ edges.filterMap (·.1), inferences := edges.filterMap (·.2) }

end

/-! ## Connections -/

/-- Inputs of a node by its kind, with their annotations. -/
def inputConfigs (node : Node) : List (String × Inputs × PortTypes) :=
  match kind node with
  | .error _ => []
  | .ok (.custom custom) =>
    [(node.id.val, custom.runConfig.inputs, custom.runConfig.inputTypes)]
  | .ok (.operator op) => [(node.id.val, op.config.inputs, op.config.inputTypes)]
  | .ok (.runtime operators) => operators.map fun op =>
      (operatorLabel node.id op.id, op.config.inputs, op.config.inputTypes)
  | .ok (.standard _) | .ok (.ros2Bridge _) | .ok (.module _) =>
    [(node.id.val, node.inputs, node.inputTypes)]

/-- Annotations of the outputs of a node by its kind, under the names that inputs use for them: the
operator of a node that has only one is left out. -/
def outputAnnotations (node : Node) : List (String × String) :=
  match kind node with
  | .error _ => []
  | .ok (.custom custom) => custom.runConfig.outputTypes.map fun e => (e.1.val, e.2)
  | .ok (.operator op) => op.config.outputTypes.map fun e => (e.1.val, e.2)
  | .ok (.runtime operators) => operators.flatMap fun op =>
      op.config.outputTypes.map fun e => (joinOnce '/' op.id.val e.1.val, e.2)
  | .ok (.standard _) | .ok (.ros2Bridge _) | .ok (.module _) =>
    node.outputTypes.map fun e => (e.1.val, e.2)

/-- Input of a node or operator and the output it reads, with the annotations of both. -/
structure Connection where
  label : String
  input : DataId
  source : UserInputMapping
  outUrn : String
  inUrn : String

namespace Connection

/-- The input and its annotation are among some inputs. -/
def OfInputs (c : Connection) (label : String) (inputs : Inputs) (types : PortTypes) : Prop :=
  label = c.label ∧ (∃ input, (c.input, input) ∈ inputs ∧ input.mapping = .user c.source) ∧
    types.lookup c.input = some c.inUrn

/-- The connection is one of the dataflow. Of several nodes with the identifier of the source, the
last one is the one that resolution keeps, and so is the last of several annotations. -/
def In (c : Connection) (dataflow : Descriptor) : Prop :=
  (∃ node ∈ dataflow.nodes, ∃ e ∈ inputConfigs node, c.OfInputs e.1 e.2.1 e.2.2) ∧
    ∃ node, dataflow.nodes.reverse.find? (·.id = c.source.source) = some node ∧
      (outputAnnotations node).reverse.lookup c.source.output.val = some c.outUrn

/-- Both types are known, and the one of the output may not be used for the input. -/
def Wrong (c : Connection) (registry : TypeRegistry) (dataflow : Descriptor) : Prop :=
  registry.resolves c.outUrn ∧ registry.resolves c.inUrn ∧
    ¬ Compatible dataflow.typeRules c.outUrn c.inUrn

/-- The check warns of the connection. -/
def Reported (c : Connection) (registry : TypeRegistry) (result : TypeCheckResult) : Prop :=
  ⟨c.label, .mismatch c.input c.source c.outUrn c.inUrn (registry.schemaDetail c.outUrn c.inUrn)⟩ ∈
    result.warnings

end Connection

/-- Annotations at the level of the nodes and of all operators, these behind the names of the
operators. -/
def annotations (node : Node) : List ((String × String) × String) :=
  (node.outputTypes.map fun e => ((node.id.val, e.1.val), e.2)) ++
    (node.operator.toList.flatMap fun op => op.config.outputTypes.map fun e =>
      ((node.id.val, joinOnce '/' (operatorName op).val e.1.val), e.2)) ++
    (node.operators.getD []).flatMap fun op => op.config.outputTypes.map fun e =>
      ((node.id.val, joinOnce '/' op.id.val e.1.val), e.2)

/-- The input is at the level of a node or of an operator, and the last known type that is annotated
there for the name it uses is the one of the output. -/
def Connection.Seen (c : Connection) (registry : TypeRegistry) (dataflow : Descriptor) : Prop :=
  (∃ e ∈ dataflow.nodes.flatMap checkedConfigs, c.OfInputs e.1 e.2.inputs e.2.inputTypes) ∧
    ((dataflow.nodes.flatMap annotations).filter (registry.resolves ·.2)).reverse.lookup
      (c.source.source.val, c.source.output.val) = some c.outUrn

/-! ## The table of types -/

variable {c : Connection}

section

variable (registry : TypeRegistry)

private theorem registerOutputs_eq (nodeId : String) (name : DataId → String) (types : PortTypes)
    (map : OutputTypeMap) :
    registerOutputs registry nodeId name types map =
      ((types.map fun e => ((nodeId, name e.1), e.2)).filter (registry.resolves ·.2)).reverse ++
        map := by
  induction types generalizing map with
  | nil => rfl
  | cons e types ih =>
    change registerOutputs registry nodeId name types _ = _
    rw [ih]
    by_cases h : registry.resolves e.2 = true <;> simp [h]

private theorem foldl_registerOutputs {α : Type} (nodeId : String) (name : α → DataId → String)
    (types : α → PortTypes) (ops : List α) (map : OutputTypeMap) :
    ops.foldl (fun map op => registerOutputs registry nodeId (name op) (types op) map) map =
      ((ops.flatMap fun op => (types op).map fun e => ((nodeId, name op e.1), e.2)).filter
        (registry.resolves ·.2)).reverse ++ map := by
  induction ops generalizing map with
  | nil => rfl
  | cons op ops ih =>
    rw [foldl_cons, ih, registerOutputs_eq, flatMap_cons, filter_append,
      reverse_append, append_assoc]

private theorem foldl_registerNode (nodes : List Node) (map : OutputTypeMap) :
    nodes.foldl (registerNode registry) map =
      ((nodes.flatMap annotations).filter (registry.resolves ·.2)).reverse ++ map := by
  induction nodes generalizing map with
  | nil => rfl
  | cons node nodes ih =>
    rw [foldl_cons, ih, registerNode, foldl_registerOutputs, foldl_registerOutputs,
      registerOutputs_eq, flatMap_cons, annotations]
    simp only [filter_append, reverse_append, append_assoc]

/-! ## Warnings -/

private theorem mismatch_notMem_checkPorts {label label' : String} {config : OperatorConfig}
    {input : DataId} {source : UserInputMapping} {outUrn inUrn : String} {detail : Option String} :
    ⟨label', .mismatch input source outUrn inUrn detail⟩ ∉ checkPorts registry label config := by
  simp only [checkPorts, checkPortTypes, checkMetadataAnnotations, mem_append,
    mem_flatMap, mem_filterMap, not_or, not_exists, not_and]
  refine ⟨⟨?_, ?_⟩, ?_, ?_⟩ <;> intros <;> split <;> simp

private theorem checkEdge_mismatch_iff {compat : CompatibilityGraph} {strict : Bool}
    {map : OutputTypeMap}
    {label : String} {config : OperatorConfig} {inputId : DataId} {input : Input} :
    (checkEdge registry compat strict map label config inputId input).1 =
        some ⟨c.label, .mismatch c.input c.source c.outUrn c.inUrn
          (registry.schemaDetail c.outUrn c.inUrn)⟩ ↔
      label = c.label ∧ inputId = c.input ∧ input.mapping = .user c.source ∧
        map.lookup (c.source.source.val, c.source.output.val) = some c.outUrn ∧
        config.inputTypes.lookup inputId = some c.inUrn ∧
        compat.isCompatible c.outUrn c.inUrn = false := by
  unfold checkEdge
  cases hm : input.mapping with
  | timer interval =>
    dsimp only
    split
    · split <;> simp
    · simp
  | logs filter => simp
  | user m =>
    dsimp only
    cases hout : map.lookup (m.source.val, m.output.val) with
    | none | some =>
      cases hin : config.inputTypes.lookup inputId with
      | none => simp
      | some inUrn => split <;> simp <;> grind

private theorem reported_iff {strict : Bool} {dataflow : Descriptor} :
    c.Reported registry (checkTypeAnnotationsFull registry strict dataflow) ↔
      c.Seen registry dataflow ∧
        (CompatibilityGraph.new dataflow.typeRules).isCompatible c.outUrn c.inUrn = false := by
  constructor
  · intro h
    rcases mem_append.mp h with h | h
    · obtain ⟨e, -, h⟩ := mem_flatMap.mp h
      exact absurd h (mismatch_notMem_checkPorts registry)
    · obtain ⟨edge, hedge, h⟩ := mem_filterMap.mp h
      obtain ⟨e, he, hedge⟩ := mem_flatMap.mp hedge
      obtain ⟨⟨inputId, input⟩, hentry, rfl⟩ := mem_map.mp hedge
      obtain ⟨hlabel, rfl, hm, hout, hin, hc⟩ := (checkEdge_mismatch_iff registry).mp h
      rw [foldl_registerNode, append_nil] at hout
      exact ⟨⟨⟨e, he, hlabel, ⟨input, hentry, hm⟩, hin⟩, hout⟩, hc⟩
  · rintro ⟨⟨⟨e, he, hlabel, ⟨input, hentry, hm⟩, hin⟩, hout⟩, hc⟩
    refine mem_append_right _ (mem_filterMap.mpr ⟨_, mem_flatMap.mpr ⟨e, he,
      mem_map_of_mem hentry⟩, (checkEdge_mismatch_iff registry).mpr ?_⟩)
    refine ⟨hlabel, rfl, hm, ?_, hin, hc⟩
    rwa [foldl_registerNode, append_nil]

/-- All mismatches are reported exactly when both ends of each of them are where the check looks for
them. -/
theorem mismatches_reported_iff (strict : Bool) (dataflow : Descriptor) :
    (∀ c : Connection, c.In dataflow → c.Wrong registry dataflow →
        c.Reported registry (checkTypeAnnotationsFull registry strict dataflow)) ↔
      ∀ c : Connection, c.In dataflow → c.Wrong registry dataflow → c.Seen registry dataflow := by
  refine forall₃_congr fun c _ hwrong => ?_
  rw [reported_iff, and_iff_left]
  rw [← Bool.not_eq_true, CompatibilityGraph.isCompatible_iff]
  exact hwrong.2.2

end

/-! ## Kinds of nodes -/

variable {node : Node}

private theorem kind_operators {k : NodeKind} (h : kind node = .ok k) :
    (node.operators = match k with | .runtime operators => some operators | _ => none) ∧
      node.operator = match k with | .operator op => some op | _ => none := by
  unfold kind at h
  split at h <;> simp_all
  all_goals subst h; simp

private theorem exists_checkedConfig (h : ∀ custom, kind node ≠ .ok (.custom custom))
    {e : String × Inputs × PortTypes} (he : e ∈ inputConfigs node) :
    ∃ e' ∈ checkedConfigs node, e'.1 = e.1 ∧ e'.2.inputs = e.2.1 ∧ e'.2.inputTypes = e.2.2 := by
  unfold inputConfigs at he
  split at he
  · cases he
  · next custom hk => exact absurd hk (h custom)
  · next op hk =>
    obtain rfl := mem_singleton.mp he
    have hop := (kind_operators hk).2
    exact ⟨(node.id.val, op.config), by simp [checkedConfigs, hop], rfl, rfl, rfl⟩
  · next operators hk =>
    obtain ⟨op, hop, rfl⟩ := mem_map.mp he
    have hops := (kind_operators hk).1
    refine ⟨(operatorLabel node.id op.id, op.config), ?_, rfl, rfl, rfl⟩
    simp only [checkedConfigs, hops, Option.getD_some]
    exact mem_append_right _ (mem_map_of_mem hop)
  all_goals
    obtain rfl := mem_singleton.mp he
    exact ⟨_, mem_cons_self, rfl, rfl, rfl⟩

private theorem exists_annotations_eq (hcustom : ∀ custom, kind node ≠ .ok (.custom custom))
    (hsingle : ∀ op, kind node ≠ .ok (.operator op)) :
    ∃ front, annotations node =
      front ++ (outputAnnotations node).map fun e => ((node.id.val, e.1), e.2) := by
  unfold outputAnnotations
  split
  · exact ⟨annotations node, by simp⟩
  · next custom hk => exact absurd hk (hcustom custom)
  · next op hk => exact absurd hk (hsingle op)
  · next operators hk =>
    rw [annotations, (kind_operators hk).1, map_flatMap]
    refine ⟨_, congrArg _ (flatMap_congr fun op _ => ?_)⟩
    simp [Function.comp_def]
  all_goals
    next hk =>
    rw [annotations, (kind_operators hk).1, (kind_operators hk).2]
    exact ⟨[], by simp⟩

private theorem lookup_filter {α β : Type} [BEq α] {l : List (α × β)} {p : α × β → Bool} {k : α}
    {v : β} (h : l.lookup k = some v) (hp : ∀ k', p (k', v) = true) :
    (l.filter p).lookup k = some v := by
  induction l with
  | nil => cases h
  | cons e l ih =>
    obtain ⟨k', v'⟩ := e
    rw [lookup_cons] at h
    split at h
    · next hk =>
      obtain rfl := Option.some.inj h
      rw [filter_cons_of_pos (hp k'), lookup_cons, hk]
    · next hk =>
      by_cases he : p (k', v') = true
      · rw [filter_cons_of_pos he, lookup_cons, hk]
        exact ih h
      · rw [filter_cons_of_neg he]
        exact ih h

private theorem lookup_map_pair (id : String) (l : List (String × String)) (k : String) :
    (l.map fun e => ((id, e.1), e.2)).lookup (id, k) = l.lookup k := by
  induction l with
  | nil => rfl
  | cons e l ih =>
    obtain ⟨name, urn⟩ := e
    have hbeq : ((id, k) == (id, name)) = (k == name) := by
      by_cases h : k = name <;> simp [h]
    simp only [map_cons, lookup_cons, ih, hbeq]

private theorem node_of_mem_annotations {e : (String × String) × String}
    (h : e ∈ annotations node) :
    e.1.1 = node.id.val := by
  simp only [annotations, mem_append, mem_flatMap, mem_map] at h
  grind

/-- In a dataflow without custom nodes, mismatches are reported unless the source is a single
operator. -/
theorem mismatch_reported {registry : TypeRegistry} (strict : Bool) {dataflow : Descriptor}
    (hcustom : ∀ node ∈ dataflow.nodes, ∀ custom, kind node ≠ .ok (.custom custom))
    (hin : c.In dataflow) (hwrong : c.Wrong registry dataflow)
    (hsingle : ∀ node ∈ dataflow.nodes, node.id = c.source.source → ∀ op,
      kind node ≠ .ok (.operator op)) :
    c.Reported registry (checkTypeAnnotationsFull registry strict dataflow) := by
  obtain ⟨⟨consumer, hconsumer, e, he, hlabel, hinputs, htypes⟩, producer, hlast, hdeclared⟩ := hin
  rw [reported_iff, ← Bool.not_eq_true, CompatibilityGraph.isCompatible_iff]
  refine ⟨⟨?_, ?_⟩, hwrong.2.2⟩
  · obtain ⟨e', he', h₁, h₂, h₃⟩ := exists_checkedConfig (hcustom consumer hconsumer) he
    exact ⟨e', mem_flatMap.mpr ⟨consumer, hconsumer, he'⟩, h₁.trans hlabel, h₂ ▸ hinputs,
      h₃ ▸ htypes⟩
  · obtain ⟨hid, after, before, hsplit, hafter⟩ := List.find?_eq_some_iff_append.mp hlast
    have hid : producer.id = c.source.source := by simpa using hid
    have hnodes : dataflow.nodes = before.reverse ++ producer :: after.reverse := by
      rw [← reverse_reverse dataflow.nodes, hsplit]
      simp
    have hmem : producer ∈ dataflow.nodes := by simp [hnodes]
    obtain ⟨front, hfront⟩ := exists_annotations_eq (hcustom producer hmem)
      (hsingle producer hmem hid)
    -- nodes after the producer have other names
    have hnone : ((after.reverse.flatMap annotations).filter (registry.resolves ·.2)).reverse.lookup
        (c.source.source.val, c.source.output.val) = none := by
      rw [lookup_eq_none_iff]
      intro a ha
      obtain ⟨node, hnode, ha⟩ := mem_flatMap.mp (mem_filter.mp (mem_reverse.mp ha)).1
      have hne := hafter node (mem_reverse.mp hnode)
      simp only [bne_iff_ne, ne_eq]
      intro hkey
      have hval : c.source.source.val = node.id.val :=
        (congrArg Prod.fst hkey).trans (node_of_mem_annotations ha)
      have hne : ¬ node.id = c.source.source := by simpa using hne
      exact hne (congrArg NodeId.mk hval.symm)
    rw [hnodes, flatMap_append, flatMap_cons, hfront]
    have hown : (((outputAnnotations producer).map fun e => ((producer.id.val, e.1), e.2)).filter
        (registry.resolves ·.2)).reverse.lookup (c.source.source.val, c.source.output.val) =
          some c.outUrn := by
      rw [← filter_reverse, ← map_reverse, ← hid]
      refine lookup_filter ?_ fun _ => hwrong.1
      rw [lookup_map_pair, hdeclared]
    simp only [filter_append, reverse_append, lookup_append, hnone, hown,
      Option.none_or, Option.some_or]

/-- Output of a laser scanner. -/
def points : DataId := ⟨"points", by decide⟩

/-- A scanner that is a single operator, and a node that reads its output as another type. -/
def scannerDataflow : Descriptor where
  nodes := [
    { id := ⟨"lidar"⟩, operator := some { config :=
      { outputs := [points], outputTypes := [(points, "std/media/v1/PointCloud")] } } },
    { id := ⟨"plot"⟩, path := some "plot.py",
      inputs := [(points, { mapping := .user ⟨⟨"lidar"⟩, points⟩ })],
      inputTypes := [(points, "std/core/v1/Float32")] }]

def scannerTypes : TypeRegistry where
  types := ["std/core/v1/Float32", "std/media/v1/PointCloud"]

private theorem pointCloud_not_compatible :
    ¬ Compatible [] "std/media/v1/PointCloud" "std/core/v1/Float32" := by
  have hsrc : urnBase "std/media/v1/PointCloud" = "std/media/v1/PointCloud" := rfl
  have hdst : urnBase "std/core/v1/Float32" = "std/core/v1/Float32" := rfl
  rw [← CompatibilityGraph.isCompatible_iff, CompatibilityGraph.isCompatible, hsrc, hdst,
    if_neg (by decide), if_neg (by decide), BoundedSearch.reaches_iff]
  rintro ⟨n, -, hwalk⟩
  have hstart {k : Nat} {t : String} (h : BoundedSearch.Walk
      (CompatibilityGraph.new []).neighbors "std/media/v1/PointCloud" k t) :
      t = "std/media/v1/PointCloud" := by
    induction h with
    | refl => rfl
    | step _ hstep ih =>
      subst ih
      cases hstep
  exact absurd (hstart hwalk) (by decide)

/-- Nothing is reported for the output of the single operator. -/
theorem singleOperator_not_reported :
    ¬ ∀ c : Connection, c.In scannerDataflow → c.Wrong scannerTypes scannerDataflow →
      c.Reported scannerTypes (checkTypeAnnotationsFull scannerTypes false scannerDataflow) := by
  intro h
  have hnone : (checkTypeAnnotationsFull scannerTypes false scannerDataflow).warnings = [] := rfl
  have := h ⟨"plot", points, ⟨⟨"lidar"⟩, points⟩, "std/media/v1/PointCloud", "std/core/v1/Float32"⟩
    ⟨⟨_, mem_cons_of_mem _ mem_cons_self, _, mem_cons_self, rfl,
      ⟨_, mem_cons_self, rfl⟩, rfl⟩, _, rfl, rfl⟩
    ⟨by decide, by decide, pointCloud_not_compatible⟩
  cases this

/-- The scanner as a node of its own. -/
def scannerNode : Descriptor where
  nodes := { id := ⟨"lidar"⟩, path := some "lidar.py", outputs := [points]
             outputTypes := [(points, "std/media/v1/PointCloud")] } :: scannerDataflow.nodes.tail

/-- A scanner that is read as a number. -/
theorem mismatch_reported_scanner :
    Connection.Reported
      ⟨"plot", points, ⟨⟨"lidar"⟩, points⟩, "std/media/v1/PointCloud", "std/core/v1/Float32"⟩
      scannerTypes (checkTypeAnnotationsFull scannerTypes false scannerNode) := by
  refine mismatch_reported false ?_ ⟨⟨_, mem_cons_of_mem _ mem_cons_self, _, mem_cons_self, rfl,
    ⟨_, mem_cons_self, rfl⟩, rfl⟩, _, rfl, rfl⟩ ⟨by decide, by decide, pointCloud_not_compatible⟩ ?_
  · simp [scannerNode, scannerDataflow, kind]
  · simp [scannerNode, scannerDataflow, kind]

end DoraSpec.Core.TypeCheck
