import DoraSpec.Core.ModuleTree
import DoraSpec.Message.InputMappingLaws

/-!
# Modules that contain each other

The expansion remembers the files it is in the middle of and the depth. These are exactly the
files around the current node, also after other modules of the same file were expanded, so a
reported cycle is one. An expansion goes at most eight levels deep, whatever the files refer to, and
comes to an end unless the parser of a file panics.
-/

namespace DoraSpec.Core.Expand
open Base Base.PathText Message Outcome List

/-! ## The expansion with its set of open files -/

/-- Loop over nodes that changes the set of open files. -/
def mapSeen {α β : Type} (f : α → List Path → Outcome String (β × List Path)) :
    List α → List Path → Outcome String (List β × List Path)
  | [], seen => .ok ([], seen)
  | a :: as, seen => do
    let (b, seen) ← f a seen
    let (bs, seen) ← mapSeen f as seen
    pure (b :: bs, seen)

/-- One node of the loops `expand.rs:97-109` and `expand.rs:427-436`. -/
def expandNodeSeen
    (expandModule : Node → List Path → Outcome String ((List Node × OutputMap) × List Path))
    (node : Node) (seen : List Path) : Outcome String (Expanded × List Path) :=
  if node.module.isSome then do
    let ((nodes, omap), seen) ← expandModule node seen
    pure ((nodes, some (node.id.val, omap)), seen)
  else pure (([node], none), seen)

/-- `expand_module_node`, `expand.rs:255-462`: the file is put into the set of open files and taken
out again at the end. -/
def expandModuleNodeSeen (fs : FileSystem) (canonicalBase : Path) (depth : Nat)
    (baseDir : List String) (node : Node) (seen : List Path) :
    Outcome String ((List Node × OutputMap) × List Path) :=
  if maxModuleDepth ≤ depth then
    .err s!"module nesting exceeds depth limit of {maxModuleDepth} (node `{node.id.val}`)"
  else do
    let canonical ← locateModule fs canonicalBase seen baseDir node
    let file ← loadModuleFile fs canonical
    let moduleDir := canonical.dropLast
    checkInputs file node
    checkParams node
    let prefixedNodes ← file.nodes.mapM (prefixNode canonicalBase moduleDir node file)
    let (expanded, seen) ← mapSeen
      (expandNodeSeen (expandModuleNodeSeen fs canonicalBase (depth + 1) ("" :: moduleDir)))
      prefixedNodes (canonical :: seen)
    let nestedOutputMaps := (expanded.filterMap (·.2)).reverse
    let finalNodes ← rewriteExternalRefs nestedOutputMaps (expanded.flatMap (·.1))
    let outputMap ← buildOutputMap file finalNodes
    pure ((finalNodes, outputMap), seen.erase canonical)
termination_by maxModuleDepth - depth

/-- `expand_modules_with_boundaries`, `expand.rs:82-143`. -/
def expandModulesSeen (fs : FileSystem) (descriptor : Descriptor) (baseDir : String) :
    Outcome String ExpandedDescriptor :=
  if !descriptor.nodes.any (·.module.isSome) then .ok { descriptor }
  else do
    let canonicalBase ← .okOr s!"failed to resolve base directory: {baseDir}"
      (fs.canonicalize (segments baseDir))
    let (expanded, _) ← mapSeen
      (expandNodeSeen (expandModuleNodeSeen fs canonicalBase 0 (segments baseDir)))
      descriptor.nodes []
    let outputMaps := (expanded.filterMap (·.2)).reverse
    let boundaries := (expanded.filterMap fun e =>
      e.2.map fun (id, _) => (id, e.1.map (·.id.val))).reverse
    let flatNodes ← rewriteExternalRefs outputMaps (expanded.flatMap (·.1))
    match firstDuplicate [] (flatNodes.map (·.id.val)) with
    | some id => .err (s!"duplicate node ID `{id}` after module expansion — check for " ++
        "conflicting node names across modules and top-level nodes")
    | none => .ok { descriptor := { descriptor with nodes := flatNodes }, boundaries }

variable {seen : List Path} {fs : FileSystem}

private theorem mapSeen_eq {α β : Type} {f : α → List Path → Outcome String (β × List Path)}
    {g : α → Outcome String β} (h : ∀ a, f a seen = g a >>= fun b => pure (b, seen)) (as : List α) :
    mapSeen f as seen = as.mapM g >>= fun bs => pure (bs, seen) := by
  induction as with
  | nil => rfl
  | cons a as ih =>
    rw [mapSeen, h, mapM_cons]
    simp only [bind_assoc, pure_bind, ih]

private theorem expandNodeSeen_eq
    {f : Node → List Path → Outcome String ((List Node × OutputMap) × List Path)}
    {g : Node → Outcome String (List Node × OutputMap)}
    (h : ∀ node, f node seen = g node >>= fun r => pure (r, seen)) (node : Node) :
    expandNodeSeen f node seen = expandNode g node >>= fun r => pure (r, seen) := by
  unfold expandNodeSeen expandNode
  split
  · rw [h]
    simp only [bind_assoc, pure_bind]
  · simp only [pure_bind]

private theorem expandModuleNodeSeen_eq (fs : FileSystem) (base : Path) {depth remaining : Nat}
    (h : depth + remaining = maxModuleDepth) (dir : List String) (node : Node) (seen : List Path) :
    expandModuleNodeSeen fs base depth dir node seen =
      expandModuleNode fs base remaining seen dir node >>= fun r => pure (r, seen) := by
  induction remaining generalizing depth dir node seen with
  | zero =>
    rw [expandModuleNodeSeen, if_pos (by omega), expandModuleNode]
    rfl
  | succ remaining ih =>
    rw [expandModuleNodeSeen, if_neg (by omega), expandModuleNode]
    have hdepth : depth + 1 + remaining = maxModuleDepth := by omega
    have hinner (canonical : Path) (nodes : List Node) := mapSeen_eq (expandNodeSeen_eq fun inner =>
      ih hdepth ("" :: canonical.dropLast) inner (canonical :: seen)) nodes
    simp only [hinner, bind_assoc, pure_bind, erase_cons_head]

private theorem expandModulesSeen_eq (fs : FileSystem) (descriptor : Descriptor)
    (baseDir : String) :
    expandModulesSeen fs descriptor baseDir =
      expandModulesWithBoundaries fs descriptor baseDir := by
  unfold expandModulesSeen expandModulesWithBoundaries
  have hinner (base : Path) := mapSeen_eq (expandNodeSeen_eq fun inner =>
    expandModuleNodeSeen_eq fs base (Nat.zero_add maxModuleDepth) (segments baseDir) inner [])
    descriptor.nodes
  simp only [hinner, bind_assoc]
  rfl

/-! ## Files in files -/

/-- File that a node refers to as its module. -/
def Refers (fs : FileSystem) (dir : List String) (node : Node) (path : Path) : Prop :=
  ∃ text, node.module = some text ∧ isAbsolute text = false ∧
    fs.canonicalize (dir ++ segments text) = some path

/-- A node of the module file refers to the other file. -/
def Contains (fs : FileSystem) (path child : Path) : Prop :=
  ∃ file, loadModuleFile fs path = .ok file ∧
    ∃ inner ∈ file.nodes, Refers fs ("" :: path.dropLast) inner child

/-- Module files of a dataflow, with the number of modules they are nested in. -/
inductive Nested (fs : FileSystem) (descriptor : Descriptor) (baseDir : String) : Nat → Path → Prop
  | top {node : Node} {path : Path} : node ∈ descriptor.nodes →
      Refers fs (segments baseDir) node path → Nested fs descriptor baseDir 1 path
  | inner {n : Nat} {path child : Path} : Nested fs descriptor baseDir n path →
      Contains fs path child → Nested fs descriptor baseDir (n + 1) child

/-- The file contains itself, directly or through others. -/
def Cyclic (fs : FileSystem) (path : Path) : Prop := Relation.TransGen (Contains fs) path path

/-- Start of the report of a cycle; `expand.rs:297-304`. -/
def circularText : String := "circular module reference detected: "

/-- The parser accepts module files only with valid node identifiers; `id.rs:70-79`. -/
def ValidIds (fs : FileSystem) : Prop :=
  ∀ path file, loadModuleFile fs path = .ok file → ∀ node ∈ file.nodes, node.id.Valid

/-- The expansion of every dataflow with valid node identifiers comes to an end. -/
def Finishes (fs : FileSystem) : Prop :=
  ∀ descriptor baseDir, (∀ node ∈ descriptor.nodes, node.id.Valid) →
    ¬ (expandModulesSeen fs descriptor baseDir).Panics

/-- No file of the directory that is small enough to be read panics the parser. -/
def ParsesFiles (fs : FileSystem) : Prop :=
  ∀ path source, fs.Real path → fs.entry path = some (.file source) →
    source.size ≤ maxModuleFileSize → ¬ source.parsed.Panics

/-! ## Depth -/

private theorem Refers.isSome {dir : List String} {node : Node} {path : Path}
    (h : Refers fs dir node path) : node.module.isSome := by
  obtain ⟨text, hmodule, -⟩ := h
  exact Option.isSome_of_mem hmodule

private theorem locateModule_refers {base : Path} {dir : List String} {node : Node}
    {canonical path : Path}
    (h : locateModule fs base seen dir node = .ok canonical) (hrefers : Refers fs dir node path) :
    path = canonical := by
  obtain ⟨text, hmodule, -, hcanonical, -⟩ := locateModule_eq_ok.mp h
  obtain ⟨text', hmodule', -, hpath⟩ := hrefers
  cases hmodule.symm.trans hmodule'
  exact Option.some.inj (hpath.symm.trans hcanonical)

section Depth
variable {fs : FileSystem} {descriptor : Descriptor} {baseDir : String} {project : Project}
  (hload : loadProject fs descriptor baseDir = .ok project)
include hload

variable {n : Nat} {path : Path}

private theorem loadItem_of_nested (h : Nested fs descriptor baseDir n path) :
    ∃ remaining seen dir node item, n + remaining = maxModuleDepth + 1 ∧ Refers fs dir node path ∧
      loadItem fs project.base remaining seen dir node = .ok item := by
  induction h with
  | @top node path hnode hrefers =>
    have hmodules : (!descriptor.nodes.any (·.module.isSome)) = false := by
      simpa using ⟨node, hnode, hrefers.isSome⟩
    rw [loadProject, if_neg (by simp [hmodules])] at hload
    obtain ⟨base, -, hload⟩ := bind_eq_ok.mp hload
    obtain ⟨items, hitems, hload⟩ := bind_eq_ok.mp hload
    cases hload
    obtain ⟨item, hitem⟩ := returns_of_mem_mapM hitems hnode
    exact ⟨_, _, _, _, item, Nat.add_comm 1 _, hrefers, hitem⟩
  | inner _ hcontains ih =>
    obtain ⟨remaining, seen, dir, node, item, hdepth, hrefers, hitem⟩ := ih
    cases remaining with
    | zero =>
      rw [loadItem, if_pos hrefers.isSome] at hitem
      cases hitem
    | succ remaining =>
      rw [loadItem, if_pos hrefers.isSome] at hitem
      obtain ⟨canonical, hlocate, hitem⟩ := bind_eq_ok.mp hitem
      obtain ⟨file, hfile, hitem⟩ := bind_eq_ok.mp hitem
      obtain ⟨items, hitems, hitem⟩ := bind_eq_ok.mp hitem
      obtain rfl := locateModule_refers hlocate hrefers
      obtain ⟨file', hfile', inner, hinner, hrefers'⟩ := hcontains
      cases hfile.symm.trans hfile'
      obtain ⟨item', hitem'⟩ := returns_of_mem_mapM hitems hinner
      exact ⟨_, _, _, _, item', by omega, hrefers', hitem'⟩

private theorem nested_le (h : Nested fs descriptor baseDir n path) :
    n ≤ maxModuleDepth := by
  obtain ⟨remaining, seen, dir, node, item, hdepth, hrefers, hitem⟩ := loadItem_of_nested hload h
  cases remaining with
  | zero =>
    rw [loadItem, if_pos hrefers.isSome] at hitem
    cases hitem
  | succ remaining => omega

private theorem not_cyclic_of_nested (h : Nested fs descriptor baseDir n path) :
    ¬ Cyclic fs path := by
  intro hcyclic
  have hdeeper {n : Nat} {a b : Path} (h : Nested fs descriptor baseDir n a)
      (hab : Relation.TransGen (Contains fs) a b) : ∃ k > n, Nested fs descriptor baseDir k b := by
    induction hab with
    | single hstep => exact ⟨n + 1, Nat.lt_succ_self n, h.inner hstep⟩
    | tail _ hstep ih =>
      obtain ⟨k, hk, hnested⟩ := ih
      exact ⟨k + 1, by omega, hnested.inner hstep⟩
  have hall (k : Nat) : ∃ m ≥ k, Nested fs descriptor baseDir m path := by
    induction k with
    | zero => exact ⟨n, Nat.zero_le n, h⟩
    | succ k ih =>
      obtain ⟨m, hm, hnested⟩ := ih
      obtain ⟨m', hm', hnested'⟩ := hdeeper hnested hcyclic
      exact ⟨m', by omega, hnested'⟩
  obtain ⟨m, hm, hnested⟩ := hall (maxModuleDepth + 1)
  have := nested_le hload hnested
  omega

end Depth

/-! ## Errors and panics -/

private theorem validateNodeId_qualify {a b : String} (ha : validateNodeId a = .ok ())
    (hb : validateNodeId b = .ok ()) : validateNodeId (qualify a b) = .ok () := by
  rw [validateNodeId_eq_ok] at ha hb ⊢
  rw [toList_qualify]
  refine ⟨by simp, fun c hc => ?_⟩
  rcases mem_append.mp hc with hc | hc
  · exact ha.2 c hc
  · rcases mem_cons.mp hc with rfl | hc
    · decide
    · exact hb.2 c hc

section Ends
variable {Cyc P : Prop}

private def Reports (Cyc : Prop) (e : String) : Prop := circularText.toList <+: e.toList → Cyc

private def Fine (P : Prop) (id : String) : Prop := P ∨ validateNodeId id = .ok ()

private theorem reports_of_head {c : Char} {e : String} (h : e.toList.head? = some c)
    (hc : c ≠ 'c') : Reports Cyc e := by
  rintro ⟨rest, hrest⟩
  rw [← hrest] at h
  exact absurd (Option.some.inj h).symm hc

private theorem Fine.qualify {a b : String} (ha : Fine P a) (hb : Fine P b) :
    Fine P (qualify a b) := by
  rcases ha with hP | ha
  · exact .inl hP
  rcases hb with hP | hb
  · exact .inl hP
  exact .inr (validateNodeId_qualify ha hb)

private theorem nodeIdFrom_ends {id : String} (h : Fine P id) :
    (NodeId.from id : Outcome String NodeId).EndsWith (·.val = id) (Reports Cyc) P := by
  rcases NodeId.from_cases (ε := String) id with ⟨heq, -⟩ | ⟨hpanics, hnot⟩
  · rw [heq]
    exact rfl
  · cases hfrom : (NodeId.from id : Outcome String NodeId) with
    | ok | err => simp [hfrom] at hpanics
    | panic => exact h.resolve_right hnot

private theorem loadModuleFile_ends {path : Path} (hreal : fs.Real path)
    (hparses : P ∨ ParsesFiles fs) :
    (loadModuleFile fs path).EndsWith (fun _ => True) (Reports Cyc) P := by
  unfold loadModuleFile
  split
  · exact reports_of_head (c := 'f') (by simp [toString]) (by decide)
  · next source hsource =>
    split
    · exact reports_of_head (c := 'm') (by simp [toString]) (by decide)
    · next hsize =>
      cases hparsed : source.parsed with
      | ok file => exact True.intro
      | err e => exact reports_of_head (c := 'f') (by simp [toString]) (by decide)
      | panic m =>
        refine hparses.resolve_right fun hparses => ?_
        exact hparses path source hreal hsource (Nat.le_of_not_lt hsize) (by simp [hparsed, Panics])
  · exact reports_of_head (c := 'f') (by simp [toString]) (by decide)

private theorem checkInputs_ends (file : ModuleFile) (node : Node) :
    (checkInputs file node).EndsWith (fun _ => True) (Reports Cyc) P := by
  refine .forM fun declared _ => ?_
  split
  · exact True.intro
  · exact reports_of_head (c := 'm') (by simp [toString]) (by decide)

private theorem checkParams_ends (node : Node) :
    (checkParams node).EndsWith (fun _ => True) (Reports Cyc) P := by
  refine .forM fun param _ => ?_
  dsimp only
  split
  · exact True.intro
  · exact reports_of_head (c := 'i') (by simp [toString]) (by decide)

private theorem rewriteModuleInput_ends {moduleId : String} (hid : Fine P moduleId)
    (moduleInputs : Inputs) {innerNodeIds : List String} (hinner : ∀ id ∈ innerNodeIds, Fine P id)
    (optionalInputs : List DataId) (input : Input) :
    (rewriteModuleInput moduleId moduleInputs innerNodeIds optionalInputs input).EndsWith
      (fun _ => True) (Reports Cyc) P := by
  fun_cases rewriteModuleInput moduleId moduleInputs innerNodeIds optionalInputs input with
  | case5 => exact reports_of_head (c := 'm') (by simp [toString]) (by decide)
  | case6 _ _ _ hmem =>
    exact (nodeIdFrom_ends (hid.qualify (hinner _ hmem))).bind fun _ _ => True.intro
  | _ => exact True.intro

private theorem resolvePath_ends (canonicalBase moduleDir : Path) (nodeId : NodeId)
    (path : Option String) :
    (resolvePath canonicalBase moduleDir nodeId path).EndsWith (fun _ => True) (Reports Cyc) P := by
  fun_cases resolvePath canonicalBase moduleDir nodeId path with
  | case2 => exact reports_of_head (c := 'm') (by simp [toString]) (by decide)
  | _ => exact True.intro

variable {node : Node} {maps : OutputMaps} {dir : List String} {seen : List Path}

private theorem prefixNode_ends (canonicalBase moduleDir : Path) (hid : Fine P node.id.val)
    {file : ModuleFile} (hfile : ∀ inner ∈ file.nodes, Fine P inner.id.val) {inner : Node}
    (hinner : inner ∈ file.nodes) :
    (prefixNode canonicalBase moduleDir node file inner).EndsWith
      (fun r => r.module = inner.module ∧ Fine P r.id.val) (Reports Cyc) P := by
  unfold prefixNode
  have hfine := hid.qualify (hfile inner hinner)
  refine (nodeIdFrom_ends hfine).bind fun id hid' => ?_
  refine (Outcome.EndsWith.mapM (R := fun _ _ => True) fun entry _ => ?_).bind fun inputs _ => ?_
  · refine (rewriteModuleInput_ends hid node.inputs ?_ _ entry.2).bind fun _ _ => True.intro
    intro id hid
    obtain ⟨inner, hinner, rfl⟩ := mem_map.mp hid
    exact hfile inner hinner
  · refine (resolvePath_ends ..).bind fun path _ => ?_
    obtain ⟨args, env, build, deploy, hinherit⟩ := inherit_eq node file
      { inner with id, inputs := inputs.reduceOption, path }
    change (inherit node file _).module = _ ∧ Fine P (inherit node file _).id.val
    rw [hinherit]
    exact ⟨rfl, hid'.symm ▸ hfine⟩

private theorem rewriteInputsMap_ends (hmaps : ∀ map ∈ maps, ∀ entry ∈ map.2, Fine P entry.2)
    (nodeId : NodeId) (inputs : Inputs) :
    (rewriteInputsMap maps nodeId inputs).EndsWith (fun _ => True) (Reports Cyc) P := by
  refine (Outcome.EndsWith.mapM (R := fun _ _ => True) fun entry _ => ?_).imp fun _ _ => True.intro
  refine Outcome.EndsWith.bind (Q := fun _ => True) ?_ fun _ _ => True.intro
  fun_cases rewriteInput maps nodeId entry.2 with
  | case4 m _ omap homap producer hproducer =>
    have hfine := hmaps _ (mem_of_lookup homap) _ (mem_of_lookup hproducer)
    exact (nodeIdFrom_ends hfine).bind fun _ _ => True.intro
  | case5 => exact reports_of_head (c := 'n') (by simp [toString]) (by decide)
  | _ => exact True.intro

private theorem rewriteNode_ends (hmaps : ∀ map ∈ maps, ∀ entry ∈ map.2, Fine P entry.2)
    (node : Node) :
    (rewriteNode maps node).EndsWith (fun r => r.module = node.module ∧ r.id = node.id)
      (Reports Cyc) P := by
  unfold rewriteNode
  have hconfig (config : OperatorConfig) :
      (rewriteConfig maps node.id config).EndsWith (fun _ => True) (Reports Cyc) P :=
    (rewriteInputsMap_ends hmaps node.id config.inputs).bind fun _ _ => True.intro
  refine (rewriteInputsMap_ends hmaps node.id node.inputs).bind fun inputs _ => ?_
  refine (Outcome.EndsWith.mapOption (fun operators => ?_) node.operators).bind fun operators _ => ?_
  · refine (Outcome.EndsWith.mapM (R := fun _ _ => True) fun op _ => ?_).imp fun _ _ => True.intro
    exact (hconfig op.config).bind fun _ _ => True.intro
  refine (Outcome.EndsWith.mapOption (fun operator => ?_) node.operator).bind fun operator _ => ?_
  · exact (hconfig operator.config).bind fun _ _ => True.intro
  refine (Outcome.EndsWith.mapOption (fun custom => ?_) node.custom).bind fun custom _ => ?_
  · exact (rewriteInputsMap_ends hmaps node.id _).bind fun _ _ => True.intro
  exact ⟨rfl, rfl⟩

private def Flat (P : Prop) (nodes : List Node) : Prop :=
  ∀ node ∈ nodes, node.module = none ∧ Fine P node.id.val

private theorem rewriteExternalRefs_ends (hmaps : ∀ map ∈ maps, ∀ entry ∈ map.2, Fine P entry.2)
    {nodes : List Node} (hnodes : Flat P nodes) :
    (rewriteExternalRefs maps nodes).EndsWith (Flat P) (Reports Cyc) P := by
  unfold rewriteExternalRefs
  split
  · exact hnodes
  · refine (Outcome.EndsWith.mapM fun node _ => rewriteNode_ends hmaps node).imp ?_
    intro rewritten h r hr
    obtain ⟨node, hnode, hmodule, hid⟩ := h r hr
    rw [hmodule, hid]
    exact hnodes node hnode

private theorem buildOutputMap_ends (file : ModuleFile) {nodes : List Node}
    (hnodes : Flat P nodes) :
    (buildOutputMap file nodes).EndsWith (fun omap => ∀ entry ∈ omap, Fine P entry.2)
      (Reports Cyc) P := by
  unfold buildOutputMap
  refine (Outcome.EndsWith.mapM (R := fun _ entry => Fine P entry.2) fun declared _ => ?_).bind ?_
  · split
    · exact reports_of_head (c := 'm') (by simp [toString]) (by decide)
    · next producer hproducer => exact (hnodes producer (mem_of_find?_eq_some hproducer)).2
  · intro entries hentries entry hentry
    obtain ⟨-, -, h⟩ := hentries entry (mem_reverse.mp hentry)
    exact h

private theorem locateModule_ends {base : Path} (hmodule : node.module.isSome)
    (hseen : ∀ path ∈ seen, Refers fs dir node path → Cyc) :
    (locateModule fs base seen dir node).EndsWith (fun path => Refers fs dir node path)
      (Reports Cyc) P := by
  have hrefers {text canonical} (htext : node.module = some text) (habs : ¬ isAbsolute text)
      (hcanonical : fs.canonicalize (dir ++ segments text) = some canonical) :
      Refers fs dir node canonical :=
    ⟨text, htext, by simpa using habs, hcanonical⟩
  fun_cases locateModule fs base seen dir node with
  | case1 h => simp [h] at hmodule
  | case5 text htext habs _ canonical hcanonical _ hmem =>
    exact fun _ => hseen canonical hmem (hrefers htext habs hcanonical)
  | case6 text htext habs _ canonical hcanonical => exact hrefers htext habs hcanonical
  | _ => exact reports_of_head (c := 'm') (by simp [toString]) (by decide)

private structure Open (fs : FileSystem) (descriptor : Descriptor) (baseDir : String)
    (seen : List Path) (dir : List String) (node : Node) : Prop where
  contains : ∀ path ∈ seen, ∀ child, Refers fs dir node child →
    Relation.TransGen (Contains fs) path child
  used : ∀ child, Refers fs dir node child → ∃ n, Nested fs descriptor baseDir n child

private def SomeCyclic (fs : FileSystem) (descriptor : Descriptor) (baseDir : String) : Prop :=
  ∃ n path, Nested fs descriptor baseDir n path ∧ Cyclic fs path

variable {fs : FileSystem} {descriptor : Descriptor} {baseDir : String}

private theorem Open.inner {inner r : Node} (hopen : Open fs descriptor baseDir seen dir node)
    {canonical : Path} {file : ModuleFile} (hrefers : Refers fs dir node canonical)
    (hfile : loadModuleFile fs canonical = .ok file) (hinner : inner ∈ file.nodes)
    (hr : r.module = inner.module) :
    Open fs descriptor baseDir (canonical :: seen) ("" :: canonical.dropLast) r := by
  have hcontains {child : Path} (h : Refers fs ("" :: canonical.dropLast) r child) :
      Contains fs canonical child := by
    obtain ⟨text, htext, hrest⟩ := h
    exact ⟨file, hfile, inner, hinner, text, hr ▸ htext, hrest⟩
  constructor
  · rintro path (_ | ⟨_, hpath⟩) child hchild
    · exact .single (hcontains hchild)
    · exact (hopen.contains path hpath canonical hrefers).tail (hcontains hchild)
  · intro child hchild
    obtain ⟨n, hn⟩ := hopen.used canonical hrefers
    exact ⟨n + 1, hn.inner (hcontains hchild)⟩

private def FlatPart (P : Prop) (part : Expanded) : Prop :=
  Flat P part.1 ∧ ∀ map ∈ part.2, ∀ entry ∈ map.2, Fine P entry.2

private theorem flat_of_parts {parts : List Expanded} (h : ∀ part ∈ parts, FlatPart P part) :
    Flat P (parts.flatMap (·.1)) ∧
      ∀ map ∈ (parts.filterMap (·.2)).reverse, ∀ entry ∈ map.2, Fine P entry.2 := by
  constructor
  · intro node hnode
    obtain ⟨part, hpart, hnode⟩ := mem_flatMap.mp hnode
    exact (h part hpart).1 node hnode
  · intro map hmap
    obtain ⟨part, hpart, hmap⟩ := mem_filterMap.mp (mem_reverse.mp hmap)
    exact (h part hpart).2 map hmap

private theorem expandNode_ends {expandModule : Node → Outcome String (List Node × OutputMap)}
    (hid : Fine P node.id.val)
    (h : node.module.isSome →
      (expandModule node).EndsWith (fun r => Flat P r.1 ∧ ∀ entry ∈ r.2, Fine P entry.2)
        (Reports Cyc) P) :
    (expandNode expandModule node).EndsWith (FlatPart P) (Reports Cyc) P := by
  unfold expandNode
  split
  · next hmodule =>
    refine (h hmodule).bind fun r hr => ⟨hr.1, ?_⟩
    rintro map ⟨⟩
    exact hr.2
  · next hmodule =>
    refine ⟨?_, nofun⟩
    intro n hn
    cases mem_singleton.mp hn
    exact ⟨by simpa using hmodule, hid⟩

private theorem expandModuleNode_ends (base : Path)
    (hfiles : ∀ path file, loadModuleFile fs path = .ok file →
      ∀ inner ∈ file.nodes, Fine P inner.id.val) (hparses : P ∨ ParsesFiles fs) (remaining : Nat)
    (hmodule : node.module.isSome) (hid : Fine P node.id.val) (hdir : ∀ s ∈ dir, '/' ∉ s.toList)
    (hopen : Open fs descriptor baseDir seen dir node) :
    (expandModuleNode fs base remaining seen dir node).EndsWith
      (fun r => Flat P r.1 ∧ ∀ entry ∈ r.2, Fine P entry.2)
      (Reports (SomeCyclic fs descriptor baseDir)) P := by
  induction remaining generalizing seen dir node with
  | zero => exact reports_of_head (c := 'm') (by simp [toString]) (by decide)
  | succ remaining ih =>
    rw [expandModuleNode]
    refine (locateModule_ends hmodule ?_).bind fun canonical hrefers => ?_
    · intro path hpath hrefers
      obtain ⟨n, hn⟩ := hopen.used path hrefers
      exact ⟨n, path, hn, hopen.contains path hpath path hrefers⟩
    have hreal : fs.Real canonical := by
      obtain ⟨text, -, -, hcanonical⟩ := hrefers
      exact FileTree.canonicalize_real hdir hcanonical
    have hdir' : ∀ s ∈ "" :: canonical.dropLast, '/' ∉ s.toList :=
      forall_mem_cons.mpr ⟨by simp, fun s hs => (hreal.dropLast.isName s hs).not_slash⟩
    refine (loadModuleFile_ends hreal hparses).self.bind fun file hfile => ?_
    have hinner := hfiles canonical file hfile.1
    refine (checkInputs_ends file node).bind fun _ _ => ?_
    refine (checkParams_ends node).bind fun _ _ => ?_
    refine (Outcome.EndsWith.mapM fun inner h => prefixNode_ends _ _ hid hinner h).bind
      fun prefixed hprefixed => ?_
    refine (Outcome.EndsWith.mapM (R := fun _ => FlatPart P) fun r hr => ?_).bind
      fun parts hparts => ?_
    · obtain ⟨inner, hmem, hrmodule, hrid⟩ := hprefixed r hr
      exact expandNode_ends hrid fun hm =>
        ih hm hrid hdir' (hopen.inner hrefers hfile.1 hmem hrmodule)
    obtain ⟨hflat, hmaps⟩ := flat_of_parts fun part hpart =>
      (hparts part hpart).choose_spec.2
    refine (rewriteExternalRefs_ends hmaps hflat).bind fun final hfinal => ?_
    exact (buildOutputMap_ends file hfinal).bind fun omap homap => ⟨hfinal, homap⟩

private structure Parses (fs : FileSystem) (descriptor : Descriptor) : Prop where
  top : ∀ node ∈ descriptor.nodes, node.id.Valid
  inner : ValidIds fs
  files : ParsesFiles fs

private theorem expandModulesWithBoundaries_ends (fs : FileSystem) (descriptor : Descriptor)
    (baseDir : String) :
    (expandModulesWithBoundaries fs descriptor baseDir).EndsWith
      (fun result => ∀ node ∈ result.descriptor.nodes, node.module = none)
      (Reports (SomeCyclic fs descriptor baseDir)) (¬ Parses fs descriptor) := by
  have hem := (em (Parses fs descriptor)).symm
  have htop : ∀ node ∈ descriptor.nodes, Fine (¬ Parses fs descriptor) node.id.val := by
    intro node hnode
    exact hem.imp id fun hvalid => hvalid.top node hnode
  have hinner : ∀ path file, loadModuleFile fs path = .ok file →
      ∀ inner ∈ file.nodes, Fine (¬ Parses fs descriptor) inner.id.val := by
    intro path file hfile inner hmem
    exact hem.imp id fun hvalid => hvalid.inner path file hfile inner hmem
  unfold expandModulesWithBoundaries
  split
  · next hplain =>
    have : ∀ node ∈ descriptor.nodes, node.module = none := by simpa using hplain
    exact this
  · refine (Outcome.EndsWith.okOr ?_ (fs.canonicalize (segments baseDir))).bind fun base _ => ?_
    · exact reports_of_head (c := 'f') (by simp [toString]) (by decide)
    refine (Outcome.EndsWith.mapM (R := fun _ => FlatPart (¬ Parses fs descriptor))
      fun node hnode => ?_).bind fun parts hparts => ?_
    · refine expandNode_ends (htop node hnode) fun hmodule => ?_
      refine expandModuleNode_ends base hinner (hem.imp id Parses.files) maxModuleDepth hmodule
        (htop node hnode) (fun s hs => slash_not_mem_of_mem_segments hs) ?_
      exact ⟨nofun, fun child hchild => ⟨1, .top hnode hchild⟩⟩
    obtain ⟨hflat, hmaps⟩ := flat_of_parts fun part hpart => (hparts part hpart).choose_spec.2
    refine (rewriteExternalRefs_ends hmaps hflat).bind fun flat hflat => ?_
    split
    · exact reports_of_head (c := 'd') (by simp [toString]) (by decide)
    · exact fun node hnode => (hflat node hnode).1

end Ends

/-! ## Expansion as a whole -/

private theorem ParsesFiles.finishes (h : ParsesFiles fs) (hids : ValidIds fs) : Finishes fs := by
  intro descriptor baseDir htop hpanics
  have hends := expandModulesWithBoundaries_ends fs descriptor baseDir
  rw [expandModulesSeen_eq] at hpanics
  cases he : expandModulesWithBoundaries fs descriptor baseDir with
  | ok | err => simp [he] at hpanics
  | panic m =>
    rw [he] at hends
    exact hends ⟨htop, hids, h⟩

private def useOf (name : String) : Descriptor where
  nodes := [{ id := ⟨"m"⟩, module := some name }]

private theorem Finishes.parsesFiles (h : Finishes fs) : ParsesFiles fs := by
  intro path source hreal hsource hsize hpanics
  obtain rfl | ⟨dir, name, rfl⟩ := eq_nil_or_concat path
  · rw [fs.root] at hsource
    cases hsource
  rw [concat_eq_append] at hreal hsource
  have hname := hreal.at_name.2.1
  have hdir : fs.Real dir := by simpa using hreal.dropLast
  have hslash : ∀ s ∈ "" :: dir, '/' ∉ s.toList :=
    forall_mem_cons.mpr ⟨by simp, fun s hs => (hdir.isName s hs).not_slash⟩
  have hbase : segments (join ("" :: dir)) = "" :: dir := segments_join (by simp) hslash
  have hsegments : segments name = [name] := by
    have : segments (join [name]) = [name] :=
      segments_join (by simp) (by simpa using hname.not_slash)
    simpa [join] using this
  have hrelative : isAbsolute name = false := by
    rw [isAbsolute, decide_eq_false_iff_not]
    exact fun hhead => hname.not_slash (mem_of_head? hhead)
  have hlocate : locateModule fs dir [] ("" :: dir) { id := ⟨"m"⟩, module := some name } =
      .ok (dir ++ [name]) :=
    locateModule_eq_ok.mpr ⟨name, rfl, hrelative,
      by rw [hsegments]; exact FileTree.canonicalize_of_real hreal, prefix_append _ _, not_mem_nil⟩
  obtain ⟨m, hm⟩ : ∃ m, source.parsed = .panic m := by
    cases hparsed : source.parsed with
    | ok | err => simp [hparsed] at hpanics
    | panic m => exact ⟨m, rfl⟩
  have hload : loadModuleFile fs (dir ++ [name]) = .panic m := by
    simp [loadModuleFile, hsource, Nat.not_lt.mpr hsize, hm, mapErr]
  refine h (useOf name) (join ("" :: dir)) (by simpa [useOf] using by decide) ?_
  simp [expandModulesSeen, useOf, hbase, FileTree.canonicalize_of_real hdir, okOr, mapSeen,
    expandNodeSeen, expandModuleNodeSeen, maxModuleDepth, hlocate, hload, Panics]

/-- Every expansion comes to an end exactly if no file panics the parser. If one succeeds, the modules
are nested at most eight deep, none contains itself, and a second expansion changes nothing. If it
reports a cycle, there is one. -/
theorem expandModulesSeen_finishes_iff (fs : FileSystem) (hids : ValidIds fs) :
    (Finishes fs ↔ ParsesFiles fs) ∧ ∀ descriptor baseDir,
      (∀ result, expandModulesSeen fs descriptor baseDir = .ok result →
        (∀ n path, Nested fs descriptor baseDir n path → n ≤ maxModuleDepth ∧ ¬ Cyclic fs path) ∧
        ∀ fs' baseDir', expandModulesSeen fs' result.descriptor baseDir' =
          .ok { descriptor := result.descriptor }) ∧
      ∀ e, expandModulesSeen fs descriptor baseDir = .err e → circularText.toList <+: e.toList →
        ∃ n path, Nested fs descriptor baseDir n path ∧ Cyclic fs path := by
  refine ⟨⟨Finishes.parsesFiles, fun h => h.finishes hids⟩, fun descriptor baseDir => ?_⟩
  have hends := expandModulesWithBoundaries_ends fs descriptor baseDir
  rw [expandModulesSeen_eq]
  refine ⟨?_, ?_⟩
  · intro result hresult
    rw [hresult] at hends
    have hexpand : expandModules fs descriptor baseDir = .ok result.descriptor := by
      rw [expandModules, hresult]
      rfl
    obtain ⟨project, hload, -⟩ := expandModules_eq hexpand
    refine ⟨fun n path hn => ⟨nested_le hload hn, not_cyclic_of_nested hload hn⟩, ?_⟩
    intro fs' baseDir'
    have hplain : result.descriptor.nodes.any (·.module.isSome) = false := by
      rw [any_eq_false]
      intro node hnode
      simp [hends node hnode]
    rw [expandModulesSeen, hplain]
    rfl
  · intro e he hcircular
    rw [he] at hends
    exact hends hcircular

/-- Module file with one node that has one input, whose text is parsed with the file. -/
def readerFile (text : String) : Outcome String ModuleFile := do
  let mapping ← InputMapping.fromStr InputMapping.asciiLower text
  pure { module := { name := "m" }
         nodes := [{ id := ⟨"reader"⟩, inputs := [(⟨"view", by decide⟩, { mapping })] }] }

/-- The file in a project. -/
def readerTree (text : String) : FileSystem :=
  .ofFiles [(["proj", "m.yml"], ⟨100, readerFile text⟩)]

private theorem readerTree_source {text : String} {path : Path} {source : ModuleSource}
    (h : (readerTree text).entry path = some (.file source)) : source.parsed = readerFile text := by
  obtain ⟨-, rfl⟩ := Prod.mk.inj (mem_singleton.mp (FileTree.mem_of_entry_ofFiles h))
  rfl

private theorem readerTree_validIds (text : String) : ValidIds (readerTree text) := by
  intro path file hfile node hnode
  unfold loadModuleFile at hfile
  split at hfile
  · cases hfile
  · next source hsource =>
    split at hfile
    · cases hfile
    · rw [mapErr_eq_ok, readerTree_source hsource] at hfile
      obtain ⟨mapping, -, hfile⟩ := bind_eq_ok.mp hfile
      cases hfile
      rw [mem_singleton.mp hnode]
      exact (by decide : (⟨"reader"⟩ : NodeId).Valid)
  · cases hfile

/-- A module that reads an output of `camera`. -/
theorem cameraInput_finishes :
    ValidIds (readerTree "camera/image") ∧ Finishes (readerTree "camera/image") := by
  refine ⟨readerTree_validIds _,
    (expandModulesSeen_finishes_iff _ (readerTree_validIds _)).1.mpr fun path source _ h _ => ?_⟩
  rw [readerTree_source h]
  decide

/-- A blank in the name of the source panics the parser. -/
theorem spacedInput_not_finishes : ¬ Finishes (readerTree "my node/image") := by
  intro h
  refine h { nodes := [{ id := ⟨"m"⟩, module := some "m.yml" }] } "/proj" (by decide) ?_
  rw [expandModulesSeen_eq]
  exact True.intro

end DoraSpec.Core.Expand
