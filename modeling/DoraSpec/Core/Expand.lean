import DoraSpec.Base.FileTree
import DoraSpec.Message.Descriptor

/-!
# Expansion of modules

Source `libraries/core/src/descriptor/expand.rs`: nodes that refer to a module file are replaced by
the nodes of the file. Their identifiers get the identifier of the module in front, and the
references between the nodes are rewritten by text. Files hold what parsing them gives. Paths are
absolute and have the segments of their texts. Maps are lists of their entries; in a map that the
expansion builds the latest entry is in front.
-/

namespace DoraSpec.Core.Expand
open Base Base.PathText Message

/-! ## Module files -/

/-- `expand.rs:24`. -/
def maxModuleDepth : Nat := 8

/-- `expand.rs:27`. -/
def maxModuleFileSize : Nat := 1048576

/-- Source of the references to module inputs; `expand.rs:31`. -/
def moduleInputSource : String := "_mod"

/-- Header of a module file; `expand.rs:35-43`. -/
structure ModuleHeader where
  name : String
  inputs : List DataId := []
  inputsOptional : List DataId := []
  outputs : List DataId := []

/-- `expand.rs:48-54`. -/
structure ModuleFile where
  module : ModuleHeader
  nodes : List Node
  build : Option String := none

/-- Content of a file: its size and what parsing it as a module file gives. The texts of its inputs are
parsed with it, which panics on some of them. -/
structure ModuleSource where
  size : Nat
  parsed : Outcome String ModuleFile

/-- Directory tree with module files. -/
abbrev FileSystem := FileTree ModuleSource

/-- Text of a path from the root. -/
def display (path : Path) : String := join ("" :: path)

/-- `load_module_file`, `expand.rs:625-641`. -/
def loadModuleFile (fs : FileSystem) (path : Path) : Outcome String ModuleFile :=
  match fs.entry path with
  | none => .err s!"failed to stat module file: {display path}"
  | some (.file source) =>
    if maxModuleFileSize < source.size then
      .err (s!"module file too large ({source.size} bytes, limit {maxModuleFileSize}): " ++
        display path)
    else
      source.parsed.mapErr fun _ => s!"failed to parse module file: {display path}"
  | some _ => .err s!"failed to read module file: {display path}"

/-- Canonical path of the file of a module node, if it is in the project and not being expanded
already; `expand.rs:262-305`. -/
def locateModule (fs : FileSystem) (canonicalBase : Path) (seen : List Path)
    (baseDir : List String) (node : Node) : Outcome String Path :=
  match node.module with
  | none => .panic "expand_module_node called on non-module node"
  | some modulePath =>
    if isAbsolute modulePath then
      .err s!"module path `{modulePath}` must be relative (node `{node.id.val}`)"
    else
      let path := baseDir ++ segments modulePath
      match fs.canonicalize path with
      | none => .err s!"module file not found: {join path}"
      | some canonical =>
        if ¬ canonicalBase <+: canonical then
          .err s!"module path `{modulePath}` escapes the project directory (node `{node.id.val}`)"
        else if canonical ∈ seen then
          .err (s!"circular module reference detected: {join path} (node `{node.id.val}`)\n" ++
            "hint: check that module files do not reference each other in a cycle")
        else .ok canonical

/-! ## Nodes of a module -/

/-- All required inputs are given; `expand.rs:313-325`. -/
def checkInputs (file : ModuleFile) (node : Node) : Outcome String PUnit :=
  file.module.inputs.forM fun declared =>
    if node.inputs.any (·.1 = declared) then .ok ⟨⟩
    else .err (s!"module `{file.module.name}` declares required input `{declared.val}` but node " ++
      s!"`{node.id.val}` does not provide it\nhint: add `{declared.val}: <source_node>/<output>` " ++
      "to the node's inputs")

/-- `expand.rs:338-347`. -/
def checkParams (node : Node) : Outcome String PUnit :=
  node.params.forM fun (key, _) =>
    if key.toList.all (fun c => c.isAlphanum || c == '_') && !key.toList.isEmpty then .ok ⟨⟩
    else .err (s!"invalid param key `{key}` in node `{node.id.val}`: must be non-empty and " ++
      "contain only [A-Za-z0-9_]")

/-- Identifier of a node inside a module. -/
def qualify (moduleId id : String) : String := s!"{moduleId}.{id}"

/-- Input of a node that reads a port with the given binding; `expand.rs:513-522`. -/
def bindInput (input bound : Input) : Input where
  mapping := bound.mapping
  queueSize := input.queueSize <|> bound.queueSize
  inputTimeout := input.inputTimeout <|> bound.inputTimeout
  queuePolicy := input.queuePolicy <|> bound.queuePolicy

/-- `rewrite_module_input`, `expand.rs:498-547`. -/
def rewriteModuleInput (moduleId : String) (moduleInputs : Inputs) (innerNodeIds : List String)
    (optionalInputs : List DataId) (input : Input) : Outcome String (Option Input) :=
  match input.mapping with
  | .timer _ | .logs _ => .ok (some input)
  | .user m =>
    if m.source.val = moduleInputSource then
      match moduleInputs.find? (·.1 = m.output) with
      | some (_, bound) => .ok (some (bindInput input bound))
      | none =>
        if m.output ∈ optionalInputs then .ok none
        else .err (s!"module input reference `_mod/{m.output.val}` not found in module node " ++
          "inputs")
    else if m.source.val ∈ innerNodeIds then do
      let source ← NodeId.from (qualify moduleId m.source.val)
      pure (some { input with mapping := .user { m with source } })
    else .ok (some input)

/-- `source_is_url`, `mod.rs:349-351`. -/
def sourceIsUrl (source : String) : Bool :=
  "https://".toList.isPrefixOf source.toList || "http://".toList.isPrefixOf source.toList

/-- Paths that are taken relative to the directory of the module file; `expand.rs:380-382`. -/
def isRelative (path : String) : Bool := !sourceIsUrl path && !isAbsolute path

/-- Path of a node of a module, relative to the base directory; `expand.rs:379-395`. -/
def resolvePath (canonicalBase moduleDir : Path) (nodeId : NodeId) :
    Option String → Outcome String (Option String)
  | none => .ok none
  | some path =>
    if isRelative path then
      let resolved := moduleDir ++ segments path
      match stripPrefix canonicalBase resolved with
      | none => .err (s!"module node `{nodeId.val}` path `{path}` resolves outside the project " ++
          s!"directory (resolved to `{display resolved}`)")
      | some relative => .ok (some (join relative))
    else .ok (some path)

/-- `substitute_params_in_str`, `expand.rs:482-489`. -/
def substituteParamsInStr (s : String) (params : List (String × String)) : String :=
  params.foldl (fun result (key, value) => result.replace ("$\x7b_param." ++ key ++ "\x7d") value) s

/-- `substitute_params_in_node`, `expand.rs:466-480`. -/
def substituteParamsInNode (node : Node) (params : List (String × String)) : Node :=
  { node with
    args := node.args.map (substituteParamsInStr · params)
    env := some (params.foldl (fun env (key, value) =>
      env.insert ("PARAM_" ++ key.toUpper) (.string value)) (node.env.getD {})) }

/-- What a node of a module takes over from the module; `expand.rs:397-417`. -/
def inherit (node : Node) (file : ModuleFile) (inner : Node) : Node :=
  let inner := { inner with deploy := inner.deploy <|> node.deploy }
  let inner := if node.params.isEmpty then inner else substituteParamsInNode inner node.params
  match file.build with
  | none => inner
  | some moduleBuild => { inner with build := some (match inner.build with
      | some existing => s!"{moduleBuild}\n{existing}"
      | none => moduleBuild) }

/-- First phase for one node of a module; `expand.rs:356-420`. -/
def prefixNode (canonicalBase moduleDir : Path) (node : Node) (file : ModuleFile) (inner : Node) :
    Outcome String Node := do
  let id ← NodeId.from (qualify node.id.val inner.id.val)
  let inputs ← inner.inputs.mapM fun (inputId, input) => do
    let new ← rewriteModuleInput node.id.val node.inputs (file.nodes.map (·.id.val))
      file.module.inputsOptional input
    pure (new.map (inputId, ·))
  let path ← resolvePath canonicalBase moduleDir id inner.path
  pure (inherit node file { inner with id, inputs := inputs.reduceOption, path })

/-! ## References to modules -/

/-- Producers of the outputs of a module. -/
abbrev OutputMap := List (String × String)

/-- Output maps of modules. -/
abbrev OutputMaps := List (String × OutputMap)

/-- One input of `rewrite_inputs_map`, `expand.rs:586-620`. -/
def rewriteInput (outputMaps : OutputMaps) (nodeId : NodeId) (input : Input) :
    Outcome String Input :=
  match input.mapping with
  | .timer _ | .logs _ => .ok input
  | .user m =>
    match outputMaps.lookup m.source.val with
    | none => .ok input
    | some omap =>
      match omap.lookup m.output.val with
      | some prefixedNode => do
        let source ← NodeId.from prefixedNode
        pure { input with mapping := .user { m with source } }
      | none => .err (s!"node `{nodeId.val}` references `{m.source.val}/{m.output.val}` but module " ++
          s!"`{m.source.val}` does not declare output `{m.output.val}`")

/-- `rewrite_inputs_map`, `expand.rs:580-623`. -/
def rewriteInputsMap (outputMaps : OutputMaps) (nodeId : NodeId) (inputs : Inputs) :
    Outcome String Inputs :=
  inputs.mapM fun (inputId, input) => do
    let new ← rewriteInput outputMaps nodeId input
    pure (inputId, new)

/-- References of an operator. -/
def rewriteConfig (outputMaps : OutputMaps) (nodeId : NodeId) (config : OperatorConfig) :
    Outcome String OperatorConfig := do
  let inputs ← rewriteInputsMap outputMaps nodeId config.inputs
  pure { config with inputs }

/-- One node of `rewrite_external_refs`, `expand.rs:562-576`. -/
def rewriteNode (outputMaps : OutputMaps) (node : Node) : Outcome String Node := do
  let inputs ← rewriteInputsMap outputMaps node.id node.inputs
  let operators ← .mapOption (fun operators => operators.mapM fun op => do
    let config ← rewriteConfig outputMaps node.id op.config
    pure { op with config }) node.operators
  let operator ← .mapOption (fun operator => do
    let config ← rewriteConfig outputMaps node.id operator.config
    pure { operator with config }) node.operator
  let custom ← .mapOption (fun custom => do
    let inputs ← rewriteInputsMap outputMaps node.id custom.runConfig.inputs
    pure { custom with runConfig := { custom.runConfig with inputs } }) node.custom
  pure { node with inputs, operators, operator, custom }

/-- `rewrite_external_refs`, `expand.rs:554-578`. -/
def rewriteExternalRefs (outputMaps : OutputMaps) (nodes : List Node) :
    Outcome String (List Node) :=
  if outputMaps.isEmpty then .ok nodes else nodes.mapM (rewriteNode outputMaps)

/-! ## Expansion -/

/-- Producers of the declared outputs; `expand.rs:443-456`. -/
def buildOutputMap (file : ModuleFile) (finalNodes : List Node) : Outcome String OutputMap := do
  let entries ← file.module.outputs.mapM fun declared =>
    match finalNodes.find? (declared ∈ ·.outputs) with
    | none => .err (s!"module `{file.module.name}` declares output `{declared.val}` but no inner " ++
        "node produces it")
    | some producer => .ok (declared.val, producer.id.val)
  pure entries.reverse

/-- Nodes that a node is replaced by, and its entry in the output maps if it is a module. -/
abbrev Expanded := List Node × Option (String × OutputMap)

/-- One node of the loops `expand.rs:97-109` and `expand.rs:427-436`. -/
def expandNode (expandModule : Node → Outcome String (List Node × OutputMap)) (node : Node) :
    Outcome String Expanded :=
  if node.module.isSome then do
    let (nodes, omap) ← expandModule node
    pure (nodes, some (node.id.val, omap))
  else pure ([node], none)

/-- `expand_module_node`, `expand.rs:255-462`, with the number of levels that are left. The files
that are being expanded are passed down only, as their set is the old one again after a module. -/
def expandModuleNode (fs : FileSystem) (canonicalBase : Path) :
    Nat → List Path → List String → Node → Outcome String (List Node × OutputMap)
  | 0, _, _, node =>
    .err s!"module nesting exceeds depth limit of {maxModuleDepth} (node `{node.id.val}`)"
  | remaining + 1, seen, baseDir, node => do
    let canonical ← locateModule fs canonicalBase seen baseDir node
    let file ← loadModuleFile fs canonical
    let moduleDir := canonical.dropLast
    checkInputs file node
    checkParams node
    let prefixedNodes ← file.nodes.mapM (prefixNode canonicalBase moduleDir node file)
    let expanded ← prefixedNodes.mapM <| expandNode <|
      expandModuleNode fs canonicalBase remaining (canonical :: seen) ("" :: moduleDir)
    let nestedOutputMaps := (expanded.filterMap (·.2)).reverse
    let finalNodes ← rewriteExternalRefs nestedOutputMaps (expanded.flatMap (·.1))
    let outputMap ← buildOutputMap file finalNodes
    pure (finalNodes, outputMap)

/-- Nodes of each module; `expand.rs:59-62`. -/
abbrev ModuleBoundaries := List (String × List String)

/-- `expand.rs:66-69`. -/
structure ExpandedDescriptor where
  descriptor : Descriptor
  boundaries : ModuleBoundaries := []

/-- The first identifier that occurs a second time; `expand.rs:117-127`. -/
def firstDuplicate (seen : List String) : List String → Option String
  | [] => none
  | id :: ids => if id ∈ seen then some id else firstDuplicate (id :: seen) ids

/-- `expand_modules_with_boundaries`, `expand.rs:82-143`. -/
def expandModulesWithBoundaries (fs : FileSystem) (descriptor : Descriptor) (baseDir : String) :
    Outcome String ExpandedDescriptor :=
  if !descriptor.nodes.any (·.module.isSome) then .ok { descriptor }
  else do
    let canonicalBase ← .okOr s!"failed to resolve base directory: {baseDir}"
      (fs.canonicalize (segments baseDir))
    let expanded ← descriptor.nodes.mapM <| expandNode <|
      expandModuleNode fs canonicalBase maxModuleDepth [] (segments baseDir)
    let outputMaps := (expanded.filterMap (·.2)).reverse
    let boundaries := (expanded.filterMap fun e =>
      e.2.map fun (id, _) => (id, e.1.map (·.id.val))).reverse
    let flatNodes ← rewriteExternalRefs outputMaps (expanded.flatMap (·.1))
    match firstDuplicate [] (flatNodes.map (·.id.val)) with
    | some id => .err (s!"duplicate node ID `{id}` after module expansion — check for " ++
        "conflicting node names across modules and top-level nodes")
    | none => .ok { descriptor := { descriptor with nodes := flatNodes }, boundaries }

/-- `expand_modules`, `expand.rs:76-78`. -/
def expandModules (fs : FileSystem) (descriptor : Descriptor) (baseDir : String) :
    Outcome String Descriptor := do
  let expanded ← expandModulesWithBoundaries fs descriptor baseDir
  pure expanded.descriptor

end DoraSpec.Core.Expand
