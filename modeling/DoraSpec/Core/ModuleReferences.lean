import DoraSpec.Core.ModuleTree

/-!
# References to modules in an expanded dataflow

Only the `inputs` field of a node inside a module is scoped; the inputs of operators and custom
nodes keep their ports and siblings as written. The references that are left then are pointed at
the producers of module outputs wherever they stand, and this never gives a reference to a module.
-/

namespace DoraSpec.Core.Expand
open Base Message List Outcome

/-- Inputs of the operators and the custom part of a node. -/
def otherInputs (node : Node) : List Input :=
  (node.operators.getD []).flatMap (·.config.inputs.map (·.2)) ++
    node.operator.toList.flatMap (·.config.inputs.map (·.2)) ++
    node.custom.toList.flatMap (·.runConfig.inputs.map (·.2))

/-- Inputs of a node, wherever they stand. -/
def allInputs (node : Node) : List Input := node.inputs.map (·.2) ++ otherInputs node

/-- Reference of an input. -/
def reference? (input : Input) : Option UserInputMapping :=
  match input.mapping with
  | .timer _ | .logs _ => none
  | .user m => some m

/-- References of a node, wherever they stand. -/
def references (node : Node) : List UserInputMapping := (allInputs node).filterMap reference?

/-- Point a reference at producers, scope after scope. -/
def chaseRef (scopes : List OutputMaps) (m : UserInputMapping) : UserInputMapping :=
  scopes.foldl (fun m maps => retargetRef maps m) m

/-- Identifiers of modules, as written and flat. -/
def Item.moduleIds (scope : Option String) : Item → List String
  | .plain _ => []
  | .module node _ _ items =>
    node.id.val :: qualifyIn scope node.id.val ::
      items.flatMap (Item.moduleIds (some (qualifyIn scope node.id.val)))

namespace Project

/-- Identifiers of the modules of a dataflow. -/
def moduleIds (p : Project) : List String := p.items.flatMap (Item.moduleIds none)

/-- Identifiers of the flat nodes. -/
def nodeIds (p : Project) : List String := (p.items.flatMap (Item.named none)).map (·.1)

/-- The reference is to a module port, or to a module and not to a node of the same name. -/
def RefersToModule (p : Project) (m : UserInputMapping) : Prop :=
  m.source.val = moduleInputSource ∨ m.source.val ∈ p.moduleIds ∧ m.source.val ∉ p.nodeIds

/-- The reference is to an output of a module of a scope around the node. -/
def NamesOutput (p : Project) (l : Leaf) (m : UserInputMapping) : Prop :=
  ∃ maps ∈ p.scopes l, (producer maps m).isSome

end Project

/-! ## Pointing at producers -/

private theorem allInputs_mapInputs (g : Input → Input) (node : Node) :
    allInputs (mapInputs g node) = (allInputs node).map g := by
  have hops : (mapInputs g node).operators.getD [] =
      (node.operators.getD []).map fun op => { op with config := mapConfig g op.config } := by
    cases h : node.operators <;> simp [mapInputs, h]
  simp only [allInputs, otherInputs, hops, map_append, map_flatMap, flatMap_map]
  cases ho : node.operator <;> cases hc : node.custom <;>
    simp [mapInputs, mapConfig, ho, hc, Function.comp_def]

private theorem reference?_chase (scopes : List OutputMaps) (input : Input) :
    reference? (chase scopes input) = (reference? input).map (chaseRef scopes) := by
  induction scopes generalizing input with
  | nil => exact Option.map_id'.symm
  | cons maps scopes ih =>
    have hstep : reference? (retarget maps input) = (reference? input).map (retargetRef maps) := by
      unfold retarget mapRef reference?
      cases hm : input.mapping <;> simp [hm]
    change reference? (chase scopes (retarget maps input)) = _
    rw [ih, hstep, Option.map_map]
    rfl

private theorem references_mapInputs_chase (scopes : List OutputMaps) (node : Node) :
    references (mapInputs (chase scopes) node) = (references node).map (chaseRef scopes) := by
  rw [references, references, allInputs_mapInputs, filterMap_map, map_filterMap]
  exact filterMap_congr fun input _ => reference?_chase scopes input

/-- A reference is left alone by scopes where it names no module output, and otherwise points at a
producer in the end. -/
theorem chaseRef_cases (scopes : List OutputMaps) (m : UserInputMapping) :
    (∀ maps ∈ scopes, producer maps m = none) ∧ chaseRef scopes m = m ∨
      (∃ maps ∈ scopes, (producer maps m).isSome) ∧
        ∃ maps ∈ scopes, ∃ m', producer maps m' = some (chaseRef scopes m).source.val := by
  induction scopes generalizing m with
  | nil => exact .inl ⟨by simp, rfl⟩
  | cons maps scopes ih =>
    change (_ ∧ chaseRef scopes (retargetRef maps m) = m) ∨ (_ ∧ ∃ maps' ∈ _, ∃ m',
      producer maps' m' = some (chaseRef scopes (retargetRef maps m)).source.val)
    cases hm : producer maps m with
    | none =>
      have hsame : retargetRef maps m = m := by simp [retargetRef, hm]
      rw [hsame]
      refine (ih m).imp (fun h => ⟨by simpa [hm] using h.1, h.2⟩) fun h => ⟨?_, ?_⟩
      · obtain ⟨maps', hmem, h⟩ := h.1
        exact ⟨maps', mem_cons_of_mem _ hmem, h⟩
      · obtain ⟨maps', hmem, h⟩ := h.2
        exact ⟨maps', mem_cons_of_mem _ hmem, h⟩
    | some id =>
      refine .inr ⟨⟨maps, mem_cons_self, by simp [hm]⟩, ?_⟩
      have hnew : (retargetRef maps m).source.val = id := by simp [retargetRef, hm]
      obtain ⟨-, he⟩ | ⟨-, maps', hmem, h⟩ := ih (retargetRef maps m)
      · exact ⟨maps, mem_cons_self, m, by rw [he, hnew, hm]⟩
      · exact ⟨maps', mem_cons_of_mem _ hmem, h⟩

/-! ## Identifiers -/

/-- Producers are nodes of the modules of the scope. -/
theorem mem_named_of_producer {scope : Option String} {items : List Item} {m : UserInputMapping}
    {id : String} (h : producer (outputMaps scope items) m = some id) :
    ∃ node canonical file inner, Item.module node canonical file inner ∈ items ∧
      qualifyIn scope node.id.val = m.source.val ∧
      ∃ e ∈ (Item.module node canonical file inner).named scope, m.output ∈ e.2.outputs ∧ e.1 = id := by
  obtain ⟨omap, homap, hid⟩ := Option.bind_eq_some_iff.mp h
  have hmem : (m.source.val, omap) ∈ items.filterMap (Item.exports scope) :=
    mem_reverse.mp (mem_of_lookup homap)
  obtain ⟨item, hitem, he⟩ := mem_filterMap.mp hmem
  cases item with
  | plain node => cases he
  | module node canonical file inner =>
    obtain ⟨hsource, rfl⟩ := Prod.mk.inj (Option.some.inj he)
    refine ⟨node, canonical, file, inner, hitem, hsource, ?_⟩
    obtain ⟨declared, -, hd⟩ := mem_filterMap.mp (mem_reverse.mp (mem_of_lookup hid))
    obtain ⟨e, hfind, he⟩ := Option.map_eq_some_iff.mp hd
    obtain ⟨hval, rfl⟩ := Prod.mk.inj he
    obtain rfl : declared = m.output := DataId.ext hval
    exact ⟨e, mem_of_find?_eq_some hfind, by simpa using List.find?_some hfind, rfl⟩

private theorem dot_mem_of_mem_named {moduleId : String} {item : Item} {e : String × Node}
    (h : e ∈ item.named (some moduleId)) : '.' ∈ e.1.toList := by
  match item with
  | .plain node =>
    rw [Item.named, mem_singleton] at h
    subst h
    simp [qualifyIn, toList_qualify]
  | .module node canonical file items =>
    rw [Item.named] at h
    obtain ⟨item, hitem, h⟩ := mem_flatMap.mp h
    exact dot_mem_of_mem_named h

private theorem mem_named_of_frame {base : Path} {parent : Option Frame} {item : Item} {l : Leaf}
    (h : l ∈ item.leaves base parent) {f : Frame} (hf : f ∈ l.frames) {e : String × Node}
    (he : e ∈ f.items.flatMap (Item.named (some f.id))) :
    e ∈ item.named (parent.map Frame.id) := by
  match item with
  | .plain node =>
    rw [Item.leaves, mem_singleton] at h
    simp [h] at hf
  | .module node canonical file items =>
    rw [Item.leaves] at h
    obtain ⟨inner, hinner, h⟩ := mem_flatMap.mp h
    obtain ⟨l', hl', rfl⟩ := mem_map.mp h
    rw [Item.named, ← (enter_eq base parent node).1]
    rcases mem_append.mp hf with hf | hf
    · exact mem_flatMap.mpr ⟨inner, hinner, mem_named_of_frame hl' hf he⟩
    · obtain rfl := mem_singleton.mp hf
      exact he

/-- In a dataflow, a producer is a flat node and no port. -/
theorem producer_spec {p : Project} {l : Leaf} (hl : l ∈ p.leaves) {maps : OutputMaps}
    (hmaps : maps ∈ p.scopes l) {m : UserInputMapping} {id : String}
    (h : producer maps m = some id) : id ∈ p.nodeIds ∧ id ≠ moduleInputSource := by
  have hdot {moduleId : String} {item : Item} {e : String × Node}
      (he : e ∈ item.named (some moduleId)) : e.1 ≠ moduleInputSource := by
    intro hc
    have := dot_mem_of_mem_named he
    simp [hc, moduleInputSource] at this
  rcases mem_append.mp hmaps with hmaps | hmaps
  · obtain ⟨f, hf, rfl⟩ := mem_map.mp hmaps
    obtain ⟨node, canonical, file, inner, hitem, -, e, he, -, rfl⟩ := mem_named_of_producer h
    obtain ⟨item, htop, hleaf⟩ := mem_flatMap.mp hl
    have hnamed := mem_named_of_frame hleaf hf (mem_flatMap.mpr ⟨_, hitem, he⟩)
    exact ⟨mem_map_of_mem (mem_flatMap.mpr ⟨item, htop, hnamed⟩), hdot he⟩
  · obtain rfl := mem_singleton.mp hmaps
    obtain ⟨node, canonical, file, inner, hitem, -, e, he, -, rfl⟩ := mem_named_of_producer h
    refine ⟨mem_map_of_mem (mem_flatMap.mpr ⟨_, hitem, he⟩), ?_⟩
    rw [Item.named] at he
    obtain ⟨_, _, he⟩ := mem_flatMap.mp he
    exact hdot he

/-- In the end, the reference is not to a module exactly when it named a module output of some
scope, or was not to a module in the first place. -/
theorem refersToModule_chaseRef {p : Project} {l : Leaf} (hl : l ∈ p.leaves)
    (m : UserInputMapping) :
    ¬ p.RefersToModule (chaseRef (p.scopes l) m) ↔ p.NamesOutput l m ∨ ¬ p.RefersToModule m := by
  obtain ⟨hnone, hsame⟩ | ⟨hnames, maps, hmaps, m', hm'⟩ := chaseRef_cases (p.scopes l) m
  · rw [hsame]
    refine ⟨.inr, fun h => h.resolve_left ?_⟩
    rintro ⟨maps, hmaps, h⟩
    simp [hnone maps hmaps] at h
  · obtain ⟨hnode, hport⟩ := producer_spec hl hmaps hm'
    refine iff_of_true ?_ (.inl hnames)
    rintro (h | h)
    · exact hport h
    · exact h.2 hnode

/-! ## Expanded dataflows -/

private theorem loadItem_leaves {fs : FileSystem} {base : Path} {remaining : Nat}
    {seen : List Path} {dir : List String} {node : Node} {item : Item} {parent : Option Frame}
    (h : loadItem fs base remaining seen dir node = .ok item) :
    ∀ l ∈ item.leaves base parent, l.node.module = none := by
  induction remaining generalizing seen dir node item parent with
  | zero =>
    rw [loadItem] at h
    split at h
    · cases h
    · next hm =>
      cases h
      simpa [Item.leaves] using hm
  | succ remaining ih =>
    rw [loadItem] at h
    split at h
    · obtain ⟨canonical, -, h⟩ := bind_eq_ok.mp h
      obtain ⟨file, -, h⟩ := bind_eq_ok.mp h
      obtain ⟨items, hitems, h⟩ := bind_eq_ok.mp h
      cases h
      intro l hl
      rw [Item.leaves] at hl
      obtain ⟨inner, hinner, hl⟩ := mem_flatMap.mp hl
      obtain ⟨l', hl', rfl⟩ := mem_map.mp hl
      obtain ⟨node', -, hload⟩ := exists_of_mem_mapM hitems hinner
      exact ih hload l' hl'
    · next hm =>
      cases h
      simpa [Item.leaves] using hm

private theorem loadProject_leaves {fs : FileSystem} {descriptor : Descriptor} {baseDir : String}
    {p : Project} (h : loadProject fs descriptor baseDir = .ok p) :
    ∀ l ∈ p.leaves, l.node.module = none := by
  intro l hl
  obtain ⟨item, hitem, hl⟩ := mem_flatMap.mp hl
  unfold loadProject at h
  split at h
  · next hplain =>
    have hplain' : ∀ node ∈ descriptor.nodes, node.module = none := by simpa using hplain
    cases h
    obtain ⟨node, hnode, rfl⟩ := mem_map.mp hitem
    rw [Item.leaves, mem_singleton] at hl
    subst hl
    exact hplain' node hnode
  · obtain ⟨base, -, h⟩ := bind_eq_ok.mp h
    obtain ⟨items, hitems, h⟩ := bind_eq_ok.mp h
    cases h
    obtain ⟨node, -, hload⟩ := exists_of_mem_mapM hitems hitem
    exact loadItem_leaves hload l hl

/-- Expanded dataflows have no module nodes. No reference is to a module exactly when every
reference, scoped if it is in an `inputs` field, names an output of a module of a scope around it or
is not to a module. -/
theorem expandModules_resolved_iff {fs : FileSystem} {descriptor result : Descriptor}
    {baseDir : String} (h : expandModules fs descriptor baseDir = .ok result) :
    ∃ project, loadProject fs descriptor baseDir = .ok project ∧
      (∀ node ∈ result.nodes, node.module = none) ∧
      ((∀ node ∈ result.nodes, ∀ m ∈ references node, ¬ project.RefersToModule m) ↔
        ∀ l ∈ project.leaves, ∀ m ∈ references (enter project.base l.frames.head? l.node),
          project.NamesOutput l m ∨ ¬ project.RefersToModule m) := by
  obtain ⟨project, hload, hnodes, -⟩ := expandModules_eq h
  refine ⟨project, hload, ?_, ?_⟩
  · rw [hnodes, forall_mem_map]
    intro l hl
    exact (enter_eq project.base l.frames.head? l.node).2.1.trans (loadProject_leaves hload l hl)
  · rw [hnodes, forall_mem_map]
    refine forall₂_congr fun l hl => ?_
    rw [Project.final, references_mapInputs_chase, forall_mem_map]
    exact forall₂_congr fun m _ => refersToModule_chaseRef hl m

/-- What was expanded is not changed by expanding it again, with any files. -/
theorem expandModules_again {fs : FileSystem} {descriptor result : Descriptor} {baseDir : String}
    (h : expandModules fs descriptor baseDir = .ok result) (fs' : FileSystem) (baseDir' : String) :
    expandModules fs' result baseDir' = .ok result := by
  obtain ⟨project, hload, hnodes, -⟩ := expandModules_eq h
  have hplain : result.nodes.any (·.module.isSome) = false := by
    rw [hnodes, any_map, any_eq_false]
    intro l hl
    simp [Project.final, mapInputs, (enter_eq project.base _ l.node).2.1,
      loadProject_leaves hload l hl]
  simp [expandModules, expandModulesWithBoundaries, hplain]

/-- Port and output of the module `echo`. -/
def dataIn : DataId := ⟨"data_in", by decide⟩

def dataOut : DataId := ⟨"data_out", by decide⟩

/-- Reference to an output of a node. -/
def refer (source : String) (output : DataId) : Input where
  mapping := .user ⟨⟨source⟩, output⟩

/-- Module with one node that reads the port, in its `inputs` or as an operator. -/
def echoFile (inner : Node) : ModuleFile where
  module := { name := "echo", inputs := [dataIn], outputs := [dataOut] }
  nodes := [inner]

def echoTree (inner : Node) : FileSystem :=
  .ofFiles [(["proj", "echo.yml"], ⟨100, .ok (echoFile inner)⟩)]

def sourceNode : Node where
  id := ⟨"source"⟩
  outputs := [dataOut]

def echoNode : Node where
  id := ⟨"echo"⟩
  module := some "echo.yml"
  inputs := [(dataIn, refer "source" dataOut)]

def sinkNode : Node where
  id := ⟨"sink"⟩
  inputs := [(dataIn, refer "echo" dataOut)]

/-- A source, the module, and a sink for its output. -/
def echoDataflow : Descriptor where
  nodes := [sourceNode, echoNode, sinkNode]

def inputsNode : Node where
  id := ⟨"pass"⟩
  inputs := [(dataIn, refer "_mod" dataIn)]
  outputs := [dataOut]

def operatorNode : Node where
  id := ⟨"pass"⟩
  operator := some { config := { inputs := [(dataIn, refer "_mod" dataIn)] } }
  outputs := [dataOut]

/-- The dataflow with its module loaded. -/
def echoProject (inner : Node) : Project where
  base := ["proj"]
  items := [.plain sourceNode,
    .module echoNode ["proj", "echo.yml"] (echoFile inner) [.plain inner], .plain sinkNode]

/-- Plain nodes of the sample. -/
theorem echoProject_leaves (inner : Node) :
    (echoProject inner).leaves = [⟨[], sourceNode⟩,
      ⟨[⟨echoNode, echoNode, ["proj", "echo.yml"], echoFile inner, [.plain inner]⟩], inner⟩,
      ⟨[], sinkNode⟩] := by
  simp [echoProject, Project.leaves, Item.leaves, Leaf.inside, enter]

private theorem echoProject_ids :
    (echoProject inputsNode).moduleIds = ["echo", "echo"] ∧
      (echoProject inputsNode).nodeIds = ["source", "echo.pass", "sink"] := by
  simp only [echoProject, Project.moduleIds, Project.nodeIds, flatMap_cons, flatMap_nil,
    Item.moduleIds, Item.named]
  exact ⟨rfl, rfl⟩

/-- Expansion of the sample. -/
theorem expandModules_echo :
    expandModules (echoTree inputsNode) echoDataflow "/proj" = .ok { nodes :=
      [{ id := ⟨"source"⟩, outputs := [dataOut] },
        { id := ⟨"echo.pass"⟩, inputs := [(dataIn, refer "source" dataOut)], outputs := [dataOut] },
        { id := ⟨"sink"⟩, inputs := [(dataIn, refer "echo.pass" dataOut)] }] } :=
  rfl

/-- A second expansion changes nothing. -/
theorem expandModules_echo_again : ∃ result,
    expandModules (echoTree inputsNode) echoDataflow "/proj" = .ok result ∧
      expandModules (echoTree operatorNode) result "/" = .ok result :=
  ⟨_, expandModules_echo, expandModules_again expandModules_echo _ _⟩

/-- A node reads the port in its `inputs`, and another one the output of the module. -/
theorem inputsPort_resolved :
    ∃ project result, loadProject (echoTree inputsNode) echoDataflow "/proj" = .ok project ∧
      expandModules (echoTree inputsNode) echoDataflow "/proj" = .ok result ∧
      ∀ node ∈ result.nodes, ∀ m ∈ references node, ¬ project.RefersToModule m := by
  obtain ⟨project, hload, -, hiff⟩ := expandModules_resolved_iff expandModules_echo
  refine ⟨project, _, hload, expandModules_echo, hiff.mpr ?_⟩
  obtain rfl : echoProject inputsNode = project := ok.inj hload
  rw [echoProject_leaves]
  simp only [forall_mem_cons, not_mem_nil, IsEmpty.forall_iff, implies_true, and_true]
  refine ⟨?_, ?_, ?_⟩
  · rintro m ⟨⟩
  · intro m hm
    obtain rfl : m = ⟨⟨"source"⟩, dataOut⟩ := mem_singleton.mp hm
    refine .inr ?_
    rw [Project.RefersToModule, echoProject_ids.1, echoProject_ids.2]
    decide
  · intro m hm
    obtain rfl : m = ⟨⟨"echo"⟩, dataOut⟩ := mem_singleton.mp hm
    refine .inl ⟨_, mem_singleton.mpr rfl, ?_⟩
    simp only [producer, outputMaps, echoProject, filterMap_cons, Item.exports, Item.named,
      flatMap_cons, flatMap_nil]
    rfl

/-- An operator reads the port. The dataflow is expanded, and the operator still refers to it. -/
theorem operatorPort_not_resolved :
    ∃ project result, loadProject (echoTree operatorNode) echoDataflow "/proj" = .ok project ∧
      expandModules (echoTree operatorNode) echoDataflow "/proj" = .ok result ∧
      ¬ ∀ node ∈ result.nodes, ∀ m ∈ references node, ¬ project.RefersToModule m := by
  refine ⟨_, _, rfl, rfl, fun h => ?_⟩
  refine h _ (mem_cons_of_mem _ mem_cons_self) ⟨⟨"_mod"⟩, dataIn⟩ ?_ (.inl rfl)
  exact mem_singleton.mpr rfl

end DoraSpec.Core.Expand
