import Mathlib.Data.List.ReduceOption
import DoraSpec.Core.Expand

/-!
# Expansion as a flattening of scopes

What the module files of a dataflow say is a tree of scopes. A successful expansion loads the tree
and lists its plain nodes. The references of a node are scoped in the module that holds it, and
then pointed at the producers of module outputs, once for each enclosing scope from the inside out.
-/

namespace DoraSpec.Core.Expand
open Base Base.PathText Message Outcome List

/-! ## Trees -/

/-- Node of a scope; a module has the nodes of its file as a scope of its own. -/
inductive Item where
  | plain (node : Node)
  | module (node : Node) (canonical : Path) (file : ModuleFile) (items : List Item)

/-- Load what a node of a scope stands for. -/
def loadItem (fs : FileSystem) (base : Path) :
    Nat → List Path → List String → Node → Outcome String Item
  | remaining, seen, dir, node =>
    if node.module.isSome then
      match remaining with
      | 0 => .err s!"module nesting exceeds depth limit of {maxModuleDepth} (node `{node.id.val}`)"
      | remaining + 1 => do
        let canonical ← locateModule fs base seen dir node
        let file ← loadModuleFile fs canonical
        let items ← file.nodes.mapM <|
          loadItem fs base remaining (canonical :: seen) ("" :: canonical.dropLast)
        pure (.module node canonical file items)
    else .ok (.plain node)

/-- Loaded dataflow. -/
structure Project where
  base : Path
  items : List Item

/-- Load the modules of a dataflow. -/
def loadProject (fs : FileSystem) (descriptor : Descriptor) (baseDir : String) :
    Outcome String Project :=
  if !descriptor.nodes.any (·.module.isSome) then
    .ok { base := [], items := descriptor.nodes.map .plain }
  else do
    let base ← .okOr s!"failed to resolve base directory: {baseDir}"
      (fs.canonicalize (segments baseDir))
    let items ← descriptor.nodes.mapM (loadItem fs base maxModuleDepth [] (segments baseDir))
    pure { base, items }

/-- Identifier of a node of a scope in the flat dataflow. -/
def qualifyIn : Option String → String → String
  | none, id => id
  | some moduleId, id => qualify moduleId id

/-- Characters of a scoped name. -/
theorem toList_qualify (moduleId id : String) :
    (qualify moduleId id).toList = moduleId.toList ++ '.' :: id.toList := by
  simp [qualify, toString]

/-- Plain nodes of an item with their flat identifiers. -/
def Item.named (scope : Option String) : Item → List (String × Node)
  | .plain node => [(qualifyIn scope node.id.val, node)]
  | .module node _ _ items => items.flatMap (Item.named (some (qualifyIn scope node.id.val)))

/-- First nodes that have the declared outputs of a module. -/
def exportMap (file : ModuleFile) (nodes : List (String × Node)) : OutputMap :=
  (file.module.outputs.filterMap fun declared =>
    (nodes.find? (declared ∈ ·.2.outputs)).map (declared.val, ·.1)).reverse

/-- Entry of an item in the output maps of its scope. -/
def Item.exports (scope : Option String) : Item → Option (String × OutputMap)
  | .plain _ => none
  | .module node canonical file items =>
    some (qualifyIn scope node.id.val,
      exportMap file ((Item.module node canonical file items).named scope))

/-- Output maps of the modules of a scope. -/
def outputMaps (scope : Option String) (items : List Item) : OutputMaps :=
  (items.filterMap (Item.exports scope)).reverse

/-! ## References of a node -/

/-- Change the inputs of an operator. -/
def mapConfig (g : Input → Input) (config : OperatorConfig) : OperatorConfig :=
  { config with inputs := config.inputs.map fun e => (e.1, g e.2) }

/-- Change all inputs of a node. -/
def mapInputs (g : Input → Input) (node : Node) : Node :=
  { node with
    inputs := node.inputs.map fun e => (e.1, g e.2)
    operators := node.operators.map fun ops =>
      ops.map fun op => { op with config := mapConfig g op.config }
    operator := node.operator.map fun op => { op with config := mapConfig g op.config }
    custom := node.custom.map fun c =>
      { c with runConfig :=
        { c.runConfig with inputs := c.runConfig.inputs.map fun e => (e.1, g e.2) } } }

/-- What is looked up is in the list. -/
theorem mem_of_lookup {α : Type} {k : String} {v : α} {l : List (String × α)}
    (h : l.lookup k = some v) : (k, v) ∈ l := by
  obtain ⟨l₁, l₂, rfl, -⟩ := lookup_eq_some_iff.mp h
  simp

/-- Producer of a module output that a reference names. -/
def producer (maps : OutputMaps) (m : UserInputMapping) : Option String :=
  (maps.lookup m.source.val).bind (·.lookup m.output.val)

/-- Point a reference to a module output at its producer. -/
def retargetRef (maps : OutputMaps) (m : UserInputMapping) : UserInputMapping :=
  match producer maps m with
  | some id => { m with source := ⟨id⟩ }
  | none => m

/-- Change the reference of an input, if it is one. -/
def mapRef (g : UserInputMapping → UserInputMapping) (input : Input) : Input :=
  match input.mapping with
  | .timer _ | .logs _ => input
  | .user m => { input with mapping := .user (g m) }

/-- Point the reference of an input to a module output at its producer. -/
def retarget (maps : OutputMaps) (input : Input) : Input := mapRef (retargetRef maps) input

/-- Point a reference at producers, scope after scope. -/
def chase (scopes : List OutputMaps) (input : Input) : Input :=
  scopes.foldl (fun input maps => retarget maps input) input

@[simp] private theorem mapInputs_mapInputs (g h : Input → Input) (node : Node) :
    mapInputs h (mapInputs g node) = mapInputs (h ∘ g) node := by
  simp [mapInputs, mapConfig, Function.comp_def]

private theorem mapInputs_id (node : Node) : mapInputs id node = node := by
  simp [mapInputs, mapConfig]

private theorem mapRef_id (input : Input) : mapRef id input = input := by
  unfold mapRef
  split
  · rfl
  · rfl
  · next m hm => simp [← hm]

private theorem retarget_nil (input : Input) : retarget [] input = input := mapRef_id input

variable {maps : OutputMaps} {nodeId : NodeId}

private theorem rewriteInput_eq {input r : Input} (h : rewriteInput maps nodeId input = .ok r) :
    r = retarget maps input := by
  unfold rewriteInput at h
  unfold retarget mapRef
  cases hm : input.mapping with
  | timer interval | logs config =>
    rw [hm] at h
    cases h
    rfl
  | user m =>
    simp only [hm] at h
    simp only [retargetRef, producer]
    cases hl : maps.lookup m.source.val with
    | none =>
      simp only [hl] at h
      cases h
      rw [Option.bind_none, ← hm]
    | some omap =>
      simp only [hl] at h
      rw [Option.bind_some]
      cases ho : omap.lookup m.output.val with
      | none =>
        simp only [ho] at h
        cases h
      | some id =>
        simp only [ho] at h
        obtain ⟨⟨source⟩, hs, hr⟩ := bind_eq_ok.mp h
        obtain ⟨rfl, -⟩ := NodeId.from_eq_ok.mp hs
        cases hr
        rfl

private theorem rewriteInputsMap_eq {inputs r : Inputs}
    (h : rewriteInputsMap maps nodeId inputs = .ok r) :
    r = inputs.map fun e => (e.1, retarget maps e.2) := by
  refine eq_map_of_mapM (fun e c hc => ?_) h
  obtain ⟨new, hn, hc⟩ := bind_eq_ok.mp hc
  cases hc
  rw [rewriteInput_eq hn]

private theorem rewriteConfig_eq {config r : OperatorConfig}
    (h : rewriteConfig maps nodeId config = .ok r) : r = mapConfig (retarget maps) config := by
  obtain ⟨inputs, hi, hr⟩ := bind_eq_ok.mp h
  cases hr
  rw [rewriteInputsMap_eq hi, mapConfig]

private theorem rewriteNode_eq {node r : Node} (h : rewriteNode maps node = .ok r) :
    r = mapInputs (retarget maps) node := by
  obtain ⟨inputs, hi, h⟩ := bind_eq_ok.mp h
  obtain ⟨operators, hops, h⟩ := bind_eq_ok.mp h
  obtain ⟨operator, hop, h⟩ := bind_eq_ok.mp h
  obtain ⟨custom, hc, h⟩ := bind_eq_ok.mp h
  cases h
  have hops' : operators = node.operators.map fun ops =>
      ops.map fun op => { op with config := mapConfig (retarget maps) op.config } := by
    refine eq_map_of_mapOption (fun ops r h => ?_) hops
    refine eq_map_of_mapM (fun op c h => ?_) h
    obtain ⟨config, hconfig, h⟩ := bind_eq_ok.mp h
    cases h
    rw [rewriteConfig_eq hconfig]
  have hop' : operator = node.operator.map fun op =>
      { op with config := mapConfig (retarget maps) op.config } := by
    refine eq_map_of_mapOption (fun op c h => ?_) hop
    obtain ⟨config, hconfig, h⟩ := bind_eq_ok.mp h
    cases h
    rw [rewriteConfig_eq hconfig]
  have hc' : custom = node.custom.map fun c => { c with runConfig := { c.runConfig with
      inputs := c.runConfig.inputs.map fun e => (e.1, retarget maps e.2) } } := by
    refine eq_map_of_mapOption (fun c r h => ?_) hc
    obtain ⟨inputs', hinputs, h⟩ := bind_eq_ok.mp h
    cases h
    rw [rewriteInputsMap_eq hinputs]
  rw [rewriteInputsMap_eq hi, hops', hop', hc', mapInputs]

private theorem rewriteExternalRefs_eq {nodes r : List Node}
    (h : rewriteExternalRefs maps nodes = .ok r) :
    r = nodes.map (mapInputs (retarget maps)) := by
  unfold rewriteExternalRefs at h
  split at h
  · next he =>
    have hid : mapInputs (retarget maps) = id := by
      obtain rfl := isEmpty_iff.mp he
      funext node
      rw [funext retarget_nil]
      exact mapInputs_id node
    cases h
    rw [hid, map_id]
  · exact eq_map_of_mapM (fun _ _ => rewriteNode_eq) h

/-! ## Scoping in a module -/

/-- Module as the nodes inside see it: its node as written and as scoped outside, and its file. -/
structure Frame where
  raw : Node
  node : Node
  canonical : Path
  file : ModuleFile
  items : List Item

namespace Frame

/-- Flat identifier of the module. -/
def id (f : Frame) : String := f.node.id.val

/-- Directory of the module file. -/
def dir (f : Frame) : Path := f.canonical.dropLast

/-- Output maps of the modules inside. -/
def outputMaps (f : Frame) : OutputMaps := Expand.outputMaps (some f.id) f.items

/-- Scoped input, unless it reads a port without binding. -/
def scopeInput (f : Frame) (input : Input) : Option Input :=
  match input.mapping with
  | .timer _ | .logs _ => some input
  | .user m =>
    if m.source.val = moduleInputSource then
      (f.node.inputs.find? (·.1 = m.output)).map fun e => bindInput input e.2
    else if m.source.val ∈ f.file.nodes.map (·.id.val) then
      some { input with mapping := .user { m with source := ⟨qualify f.id m.source.val⟩ } }
    else some input

/-- Path of a node inside, relative to the base directory. -/
def scopePath (f : Frame) (base : Path) (path : String) : String :=
  if isRelative path then join ((stripPrefix base (f.dir ++ segments path)).getD []) else path

end Frame

/-- Node as its scope makes it: scoped if it is inside a module, else as written. -/
def enter (base : Path) : Option Frame → Node → Node
  | none, node => node
  | some f, inner => inherit f.node f.file { inner with
      id := ⟨qualify f.id inner.id.val⟩
      inputs := inner.inputs.filterMap fun e => (f.scopeInput e.2).map (e.1, ·)
      path := inner.path.map (f.scopePath base) }

/-- A node of a module takes over deployment, parameters and build command. -/
theorem inherit_eq (node : Node) (file : ModuleFile) (inner : Node) :
    ∃ args env build deploy, inherit node file inner = { inner with args, env, build, deploy } := by
  unfold inherit substituteParamsInNode
  dsimp only
  split <;> split <;> exact ⟨_, _, _, _, rfl⟩

private theorem rewriteModuleInput_eq {f : Frame} {input : Input} {r : Option Input}
    (h : rewriteModuleInput f.id f.node.inputs (f.file.nodes.map (·.id.val))
      f.file.module.inputsOptional input = .ok r) : r = f.scopeInput input := by
  unfold Frame.scopeInput
  revert h
  fun_cases rewriteModuleInput f.id f.node.inputs (f.file.nodes.map (·.id.val))
    f.file.module.inputsOptional input with
  | case5 => nofun
  | case6 m hm hport hsibling =>
    intro h
    obtain ⟨⟨source⟩, hs, hr⟩ := bind_eq_ok.mp h
    obtain ⟨rfl, -⟩ := NodeId.from_eq_ok.mp hs
    cases hr
    simp only [hm, if_neg hport, if_pos hsibling]
  | _ =>
    rintro ⟨⟩
    simp [*]

private theorem resolvePath_eq {f : Frame} {base : Path} {path r : Option String}
    (h : resolvePath base f.dir nodeId path = .ok r) :
    r = path.map (f.scopePath base) := by
  revert h
  fun_cases resolvePath base f.dir nodeId path with
  | case1 =>
    rintro ⟨⟩
    rfl
  | case2 => nofun
  | case3 path hrel resolved relative hs =>
    rintro ⟨⟩
    rw [Option.map_some, Frame.scopePath, if_pos hrel, hs]
    rfl
  | case4 path hrel =>
    rintro ⟨⟩
    rw [Option.map_some, Frame.scopePath, if_neg hrel]

private theorem prefixNode_eq {f : Frame} {base : Path} {inner r : Node}
    (h : prefixNode base f.dir f.node f.file inner = .ok r) : r = enter base (some f) inner := by
  obtain ⟨⟨id⟩, hid, h⟩ := bind_eq_ok.mp h
  obtain ⟨inputs, hinputs, h⟩ := bind_eq_ok.mp h
  obtain ⟨path, hpath, h⟩ := bind_eq_ok.mp h
  obtain ⟨rfl, -⟩ := NodeId.from_eq_ok.mp hid
  cases h
  have hin : inputs = inner.inputs.map fun e => (f.scopeInput e.2).map (e.1, ·) := by
    refine eq_map_of_mapM (fun e c hc => ?_) hinputs
    obtain ⟨new, hn, hc⟩ := bind_eq_ok.mp hc
    cases hc
    rw [rewriteModuleInput_eq hn]
  rw [resolvePath_eq hpath, hin, reduceOption, filterMap_map]
  rfl

/-! ## Flat nodes -/

/-- Plain node with the modules around it, innermost first. -/
structure Leaf where
  frames : List Frame
  node : Node

/-- The node is inside one more module. -/
def Leaf.inside (f : Frame) (l : Leaf) : Leaf := { l with frames := l.frames ++ [f] }

/-- Plain nodes of an item of a scope. -/
def Item.leaves (base : Path) (parent : Option Frame) : Item → List Leaf
  | .plain node => [⟨[], node⟩]
  | .module node canonical file items =>
    items.flatMap fun item =>
      (item.leaves base (some ⟨node, enter base parent node, canonical, file, items⟩)).map
        (Leaf.inside ⟨node, enter base parent node, canonical, file, items⟩)

/-- Flat node as it leaves the outermost of the modules around it. -/
def finish (base : Path) (parent : Option Frame) (l : Leaf) : Node :=
  mapInputs (chase (l.frames.map Frame.outputMaps)) (enter base (l.frames.head?.or parent) l.node)

namespace Project

/-- Plain nodes of a dataflow. -/
def leaves (p : Project) : List Leaf := p.items.flatMap (Item.leaves p.base none)

/-- Output maps of the scopes around a node, innermost first. -/
def scopes (p : Project) (l : Leaf) : List OutputMaps :=
  l.frames.map Frame.outputMaps ++ [outputMaps none p.items]

/-- Flat node of a plain node. -/
def final (p : Project) (l : Leaf) : Node :=
  mapInputs (chase (p.scopes l)) (enter p.base l.frames.head? l.node)

end Project

/-- What the scope of a module makes of the inputs and the path of a node. -/
theorem enter_some (base : Path) (f : Frame) (node : Node) :
    ∃ args env build deploy, enter base (some f) node = { node with
      id := ⟨qualify f.id node.id.val⟩
      inputs := node.inputs.filterMap fun e => (f.scopeInput e.2).map (e.1, ·)
      path := node.path.map (f.scopePath base)
      args, env, build, deploy } :=
  inherit_eq f.node f.file _

/-- A scope changes the name, not the module and the outputs. -/
theorem enter_eq (base : Path) (parent : Option Frame) (node : Node) :
    (enter base parent node).id.val = qualifyIn (parent.map Frame.id) node.id.val ∧
      (enter base parent node).module = node.module ∧
      (enter base parent node).outputs = node.outputs := by
  cases parent with
  | none => exact ⟨rfl, rfl, rfl⟩
  | some f =>
    obtain ⟨args, env, build, deploy, h⟩ := enter_some base f node
    rw [h]
    exact ⟨rfl, rfl, rfl⟩

private theorem finish_inside (base : Path) (parent : Option Frame) (f : Frame) (l : Leaf) :
    finish base parent (l.inside f) = mapInputs (retarget f.outputMaps) (finish base (some f) l) := by
  have hhead : (l.inside f).frames.head?.or parent = l.frames.head?.or (some f) := by
    cases hl : l.frames <;> simp [Leaf.inside, hl]
  rw [finish, finish, hhead, mapInputs_mapInputs, Leaf.inside]
  congr 1
  funext input
  simp [chase]

/-- Flat names of the plain nodes. -/
theorem map_leaves_eq_named (base : Path) (parent : Option Frame) (item : Item) :
    (item.leaves base parent).map (fun l => ((finish base parent l).id.val, l.node)) =
      item.named (parent.map Frame.id) := by
  match item with
  | .plain node => simp [Item.leaves, Item.named, finish, mapInputs, (enter_eq base parent node).1]
  | .module node canonical file items =>
    rw [Item.leaves, Item.named, map_flatMap]
    refine flatMap_congr fun item hitem => ?_
    have ih := map_leaves_eq_named base
      (some ⟨node, enter base parent node, canonical, file, items⟩) item
    rw [Option.map_some, Frame.id, (enter_eq base parent node).1] at ih
    rw [← ih, map_map]
    refine map_congr_left fun l _ => ?_
    rw [Function.comp_apply, finish_inside]
    rfl

/-! ## Expansion flattens -/

section Expansion

variable {fs : FileSystem} {base : Path} {seen : List Path} {dir : List String}
  {parent : Option Frame} {remaining : Nat}

/-- Which files are found. -/
theorem locateModule_eq_ok {node : Node} {canonical : Path} :
    locateModule fs base seen dir node = .ok canonical ↔
      ∃ path, node.module = some path ∧ isAbsolute path = false ∧
        fs.canonicalize (dir ++ segments path) = some canonical ∧
          base <+: canonical ∧ canonical ∉ seen := by
  unfold locateModule
  split
  · next h => simp [h]
  · next path h =>
    simp only [h, Option.some.injEq, exists_eq_left']
    split
    · next ha => simp [ha]
    · next ha =>
      split
      · next hc => simp [hc]
      · next c hc =>
        simp only [hc, Option.some.injEq]
        split
        · next hp =>
          refine ⟨nofun, ?_⟩
          rintro ⟨-, rfl, h, -⟩
          exact absurd h hp
        · next hp =>
          split
          · next hs =>
            refine ⟨nofun, ?_⟩
            rintro ⟨-, rfl, -, h⟩
            exact absurd hs h
          · next hs =>
            simp only [Outcome.ok.injEq]
            refine ⟨?_, fun h => h.2.1⟩
            rintro rfl
            exact ⟨by simpa using ha, rfl, by simpa using hp, hs⟩

private theorem buildOutputMap_eq {file : ModuleFile} {leaves : List Leaf} {omap : OutputMap}
    (h : buildOutputMap file (leaves.map (finish base parent)) = .ok omap) :
    omap = exportMap file (leaves.map fun l => ((finish base parent l).id.val, l.node)) := by
  obtain ⟨entries, hentries, h⟩ := bind_eq_ok.mp h
  cases h
  refine congrArg List.reverse ?_
  have hfind (declared : DataId) :
      (leaves.map fun l => ((finish base parent l).id.val, l.node)).find?
          (declared ∈ ·.2.outputs) =
        (leaves.find? (declared ∈ ·.node.outputs)).map
          fun l => ((finish base parent l).id.val, l.node) := by
    rw [List.find?_map]
    rfl
  have hfind' (declared : DataId) :
      (leaves.map (finish base parent)).find? (declared ∈ ·.outputs) =
        (leaves.find? (declared ∈ ·.node.outputs)).map (finish base parent) := by
    rw [List.find?_map]
    congr 2
    funext l
    have : (finish base parent l).outputs = l.node.outputs := (enter_eq base _ l.node).2.2
    simp [this]
  have hr := mapM_eq_ok.mp hentries
  clear hentries h
  generalize file.module.outputs = outputs at hr
  induction hr with
  | nil => rfl
  | @cons declared e outputs es he _ ih =>
    rw [hfind'] at he
    cases hl : leaves.find? (declared ∈ ·.node.outputs) with
    | none => simp [hl] at he
    | some l =>
      simp only [hl, Option.map_some, Outcome.ok.injEq] at he
      rw [filterMap_cons, hfind, hl, ih, ← he]
      rfl

/-- An expansion that returns has found and read the file, expanded the modules in it and found a
node for each of its outputs. -/
theorem expandModuleNode_eq_ok {node : Node} {nodes : List Node} {omap : OutputMap}
    (h : expandModuleNode fs base remaining seen dir node = .ok (nodes, omap)) :
    ∃ left canonical file prefixed parts, remaining = left + 1 ∧
      locateModule fs base seen dir node = .ok canonical ∧
      loadModuleFile fs canonical = .ok file ∧
      file.nodes.mapM (prefixNode base canonical.dropLast node file) = .ok prefixed ∧
      prefixed.mapM (Expand.expandNode (expandModuleNode fs base left (canonical :: seen)
        ("" :: canonical.dropLast))) = .ok parts ∧
      nodes = (parts.flatMap (·.1)).map (mapInputs (retarget (parts.filterMap (·.2)).reverse)) ∧
      buildOutputMap file nodes = .ok omap := by
  cases remaining with
  | zero => cases h
  | succ left =>
    rw [expandModuleNode] at h
    obtain ⟨canonical, hlocate, h⟩ := bind_eq_ok.mp h
    obtain ⟨file, hfile, h⟩ := bind_eq_ok.mp h
    obtain ⟨-, -, h⟩ := bind_eq_ok.mp h
    obtain ⟨-, -, h⟩ := bind_eq_ok.mp h
    obtain ⟨prefixed, hprefixed, h⟩ := bind_eq_ok.mp h
    obtain ⟨parts, hparts, h⟩ := bind_eq_ok.mp h
    obtain ⟨finalNodes, hfinal, h⟩ := bind_eq_ok.mp h
    obtain ⟨outputMap, hout, h⟩ := bind_eq_ok.mp h
    cases h
    exact ⟨left, canonical, file, prefixed, parts, rfl, hlocate, hfile, hprefixed, hparts,
      rewriteExternalRefs_eq hfinal, hout⟩

private def Flattens (fs : FileSystem) (base : Path) (remaining : Nat) : Prop :=
  ∀ seen dir parent node nodes omap, node.module.isSome →
    expandModuleNode fs base remaining seen dir (enter base parent node) = .ok (nodes, omap) →
    ∃ canonical file items,
      loadItem fs base remaining seen dir node = .ok (.module node canonical file items) ∧
      nodes = ((Item.module node canonical file items).leaves base parent).map (finish base parent) ∧
      omap = exportMap file
        ((Item.module node canonical file items).named (parent.map Frame.id))

private theorem Flattens.expandNode (hf : Flattens fs base remaining)
    {node : Node} {part : Expanded}
    (h : expandNode (expandModuleNode fs base remaining seen dir) (enter base parent node) =
      .ok part) :
    ∃ item, loadItem fs base remaining seen dir node = .ok item ∧
      part = ((item.leaves base parent).map (finish base parent),
        item.exports (parent.map Frame.id)) := by
  obtain ⟨hid, hmodule, -⟩ := enter_eq base parent node
  unfold Expand.expandNode at h
  rw [hmodule] at h
  split at h
  · next hm =>
    obtain ⟨⟨nodes, omap⟩, hx, h⟩ := bind_eq_ok.mp h
    obtain ⟨canonical, file, items, hload, rfl, rfl⟩ := hf _ _ _ _ _ _ hm hx
    cases h
    exact ⟨_, hload, by rw [Item.exports, hid]⟩
  · next hm =>
    cases h
    refine ⟨.plain node, ?_, ?_⟩
    · unfold loadItem
      rw [if_neg hm]
    · simp only [Item.leaves, Item.exports, finish, map_cons, map_nil, List.head?_nil,
        Option.none_or]
      exact congrArg (fun n => ([n], none)) (mapInputs_id _).symm

private theorem Flattens.mapM_expandNode (hf : Flattens fs base remaining)
    {nodes : List Node} {parts : List Expanded}
    (h : (nodes.map (enter base parent)).mapM
      (Expand.expandNode (expandModuleNode fs base remaining seen dir)) = .ok parts) :
    ∃ items, nodes.mapM (loadItem fs base remaining seen dir) = .ok items ∧
      parts.flatMap (·.1) = (items.flatMap (Item.leaves base parent)).map (finish base parent) ∧
      (parts.filterMap (·.2)).reverse = outputMaps (parent.map Frame.id) items := by
  rw [mapM_map] at h
  obtain ⟨items, hitems, rfl⟩ := exists_mapM_eq_ok (fun _ _ h => hf.expandNode h) h
  refine ⟨items, hitems, ?_, ?_⟩
  · simp [flatMap_map, map_flatMap]
  · rw [outputMaps, filterMap_map]
    rfl

private theorem flattens (fs : FileSystem) (base : Path) (remaining : Nat) :
    Flattens fs base remaining := by
  induction remaining with
  | zero =>
    intro seen dir parent node nodes omap _ h
    cases h
  | succ remaining ih =>
    intro seen dir parent node nodes omap hm h
    obtain ⟨_, canonical, file, prefixed, parts, ⟨⟩, hlocate, hfile, hprefixed, hparts, hfinal,
      hout⟩ := expandModuleNode_eq_ok h
    -- the first phase does not look at the contents of the module
    have hp (items : List Item) : prefixed = file.nodes.map
        (enter base (some ⟨node, enter base parent node, canonical, file, items⟩)) :=
      eq_map_of_mapM (fun _ _ h =>
        prefixNode_eq (f := ⟨node, enter base parent node, canonical, file, items⟩) h) hprefixed
    obtain ⟨items, hitems, -⟩ := ih.mapM_expandNode (hp [] ▸ hparts)
    obtain ⟨items', hitems', hnodes, hmaps⟩ := ih.mapM_expandNode (hp items ▸ hparts)
    obtain rfl : items = items' := Outcome.ok.inj (hitems.symm.trans hitems')
    have hfinal' : nodes = ((Item.module node canonical file items).leaves base parent).map
        (finish base parent) := by
      rw [hfinal, hnodes, hmaps, Item.leaves]
      simp only [map_flatMap, map_map]
      refine flatMap_congr fun item _ => map_congr_left fun l _ => ?_
      exact (finish_inside base parent _ l).symm
    refine ⟨canonical, file, items, ?_, hfinal', ?_⟩
    · obtain ⟨path, hpath, hrest⟩ := locateModule_eq_ok.mp hlocate
      rw [(enter_eq base parent node).2.1] at hpath
      rw [loadItem, if_pos hm, locateModule_eq_ok.mpr ⟨path, hpath, hrest⟩]
      simp [hfile, hitems]
    · rw [hfinal'] at hout
      rw [buildOutputMap_eq hout, map_leaves_eq_named]

private theorem nodup_of_firstDuplicate {seen ids : List String}
    (h : firstDuplicate seen ids = none) : ids.Nodup ∧ ∀ id ∈ ids, id ∉ seen := by
  induction ids generalizing seen with
  | nil => simp
  | cons id ids ih =>
    rw [firstDuplicate] at h
    split at h
    · cases h
    · next hid =>
      obtain ⟨hnodup, hnew⟩ := ih h
      refine ⟨nodup_cons.mpr ⟨fun hm => hnew id hm mem_cons_self, hnodup⟩, ?_⟩
      rintro i (_ | ⟨_, hi⟩)
      · exact hid
      · exact fun hs => hnew i hi (mem_cons_of_mem id hs)

private theorem Project.final_eq (p : Project) (l : Leaf) :
    p.final l = mapInputs (retarget (outputMaps none p.items)) (finish p.base none l) := by
  rw [Project.final, finish, mapInputs_mapInputs, Option.or_none]
  congr 1
  funext input
  simp [Project.scopes, chase]

/-- A successful expansion loads the modules and lists the flat nodes of the plain nodes. -/
theorem expandModules_eq {descriptor result : Descriptor} {baseDir : String}
    (h : expandModules fs descriptor baseDir = .ok result) :
    ∃ project, loadProject fs descriptor baseDir = .ok project ∧
      result.nodes = project.leaves.map project.final ∧
      (descriptor.nodes.any (·.module.isSome) = true → (result.nodes.map (·.id.val)).Nodup) := by
  obtain ⟨expanded, hx, h⟩ := bind_eq_ok.mp h
  cases h
  unfold expandModulesWithBoundaries at hx
  unfold loadProject
  split at hx
  · next hplain =>
    cases hx
    refine ⟨_, if_pos hplain, ?_, fun h => by simp [h] at hplain⟩
    have hmaps : outputMaps none (descriptor.nodes.map Item.plain) = [] := by
      simp [outputMaps, filterMap_map, Function.comp_def, Item.exports]
    have hfinal (node : Node) :
        Project.final ⟨[], descriptor.nodes.map Item.plain⟩ ⟨[], node⟩ = node := by
      rw [Project.final_eq, hmaps, funext retarget_nil]
      exact (mapInputs_id _).trans (mapInputs_id node)
    simp [Project.leaves, flatMap_map, Item.leaves, hfinal, map_flatMap]
  · next hmodules =>
    obtain ⟨base, hbase, hx⟩ := bind_eq_ok.mp hx
    obtain ⟨parts, hparts, hx⟩ := bind_eq_ok.mp hx
    obtain ⟨flat, hflat, hx⟩ := bind_eq_ok.mp hx
    split at hx
    · cases hx
    · next hdup =>
      cases hx
      have henter : descriptor.nodes.map (enter base none) = descriptor.nodes := map_id _
      obtain ⟨items, hitems, hnodes, hmaps⟩ :=
        (flattens fs base maxModuleDepth).mapM_expandNode (henter.symm ▸ hparts)
      refine ⟨⟨base, items⟩, ?_, ?_, fun _ => (nodup_of_firstDuplicate hdup).1⟩
      · rw [if_neg hmodules, hbase, ok_bind, hitems]
        rfl
      · rw [rewriteExternalRefs_eq hflat, hnodes, hmaps, map_map]
        exact map_congr_left fun l _ => (Project.final_eq ⟨base, items⟩ l).symm

end Expansion

end DoraSpec.Core.Expand
