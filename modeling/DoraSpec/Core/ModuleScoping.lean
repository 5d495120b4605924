import DoraSpec.Core.ScopeChain

/-!
# Nested scoping

Nested scoping gives every input of every node of a tree of modules its producers: a sibling is one
of the same module, a port is what the enclosing node binds to it, and the output of a module comes
from the nodes inside that have it. `expand.rs` works on flat identifiers instead, where a name may
mean a module of another scope, and scopes only the `inputs` field of a node.
-/

namespace DoraSpec.Core.Expand
open Base Message List

/-! ## What inputs stand for -/

/-- What an input is connected to: a built-in source, or the same output of one of some nodes. -/
inductive Target where
  | builtin (mapping : InputMapping)
  | nodes (ids : List String) (output : DataId)

/-- Scope of the nodes of a module. -/
def Frame.scope (f : Frame) : Scope where
  id := some f.id
  items := f.items

/-- Scope of the nodes at the top level. -/
def Project.top (p : Project) : Scope where
  id := none
  items := p.items

/-- What an input inside some modules stands for, unless it reads a port without binding. A name
that is neither a port nor a sibling is external and looked up at the top level. -/
def designate (top : Scope) : List Frame → InputMapping → Option Target
  | _, .timer interval => some (.builtin (.timer interval))
  | _, .logs config => some (.builtin (.logs config))
  | [], .user m => some (.nodes (top.answers m.source.val m.output) m.output)
  | f :: frames, .user m =>
    if m.source.val = moduleInputSource then
      ((f.raw.inputs.filterMap fun e => (designate top frames e.2.mapping).map (e.1, ·)).find?
        (·.1 = m.output)).map (·.2)
    else if m.source.val ∈ f.file.nodes.map (·.id.val) then
      some (.nodes (f.scope.answers m.source.val m.output) m.output)
    else some (.nodes (top.answers m.source.val m.output) m.output)

/-- The mapping is to what an input stands for. One that stands for nothing is to no node. -/
def Target.Connected (p : Project) : Target → InputMapping → Prop
  | .builtin mapping, new => new = mapping
  | .nodes ids output, new =>
    ∃ m, new = .user m ∧ m.output = output ∧
      if ids = [] then m.source.val ∉ p.nodeIds else m.source.val ∈ ids

/-- The inputs are those that stand for something, in order and connected to it. -/
def Wired (p : Project) (l : Leaf) (raw flat : Inputs) : Prop :=
  List.Forall₂ (fun e new => e.1 = new.1 ∧ Target.Connected p e.2 new.2.mapping)
    (raw.filterMap fun e => (designate p.top l.frames e.2.mapping).map (e.1, ·)) flat

/-- Inputs of the operators and the custom part of a node, each a table of its own. -/
def otherTables (node : Node) : List Inputs :=
  (node.operators.getD []).map (·.config.inputs) ++ (node.operator.map (·.config.inputs)).toList ++
    (node.custom.map (·.runConfig.inputs)).toList

/-- All inputs of the flat node are connected to what they stand for. -/
def WiredNode (p : Project) (l : Leaf) (flat : Node) : Prop :=
  Wired p l l.node.inputs flat.inputs ∧
    List.Forall₂ (Wired p l) (otherTables l.node) (otherTables flat)

/-! ## When the flat references are right -/

/-- Input as the innermost module makes it, unless it is dropped. -/
def scopeIn (frames : List Frame) (input : Input) : Option Input :=
  frames.head?.elim (some input) (·.scopeInput input)

namespace Project

/-- Scopes around a node, innermost first. -/
def chain (p : Project) (l : Leaf) : List Scope := l.frames.map Frame.scope ++ [p.top]

/-- The mapping is built in as it should be, or the names in the scopes lead to what the input
stands for. -/
def Leads (p : Project) (l : Leaf) : Target → InputMapping → Prop
  | .builtin mapping, new => new = mapping
  | .nodes ids output, new =>
    ∃ m, new = .user m ∧ m.output = output ∧
      if ids = [] then
        (∀ σ ∈ p.chain l, producer σ.maps m = none) ∧ m.source.val ∉ p.nodeIds
      else Found ids (p.chain l) m

/-- The inputs of the node lead to what they stand for: those of the `inputs` field after scoping,
and the others as they are written. -/
def Straight (p : Project) (l : Leaf) : Prop :=
  (∀ e ∈ l.node.inputs, ∀ t ∈ designate p.top l.frames e.2.mapping, ∀ input ∈ scopeIn l.frames e.2,
    p.Leads l t input.mapping) ∧
  ∀ table ∈ otherTables l.node, ∀ e ∈ table, ∃ t ∈ designate p.top l.frames e.2.mapping,
    p.Leads l t e.2.mapping

end Project

/-! ## The scopes around a node -/

private def nearest (top : Scope) (frames : List Frame) : Scope :=
  (frames.head?.map Frame.scope).getD top

private def Linked (base : Path) (top : Scope) : List Frame → Prop
  | [] => True
  | f :: frames =>
    f.node = enter base frames.head? f.raw ∧ f.scope.Inside (nearest top frames) ∧
      Linked base top frames

variable {p : Project} {l : Leaf} {m : UserInputMapping} {top : Scope} {chain : List Scope}
  {ids : List String} {output : DataId} {input : Input} {base : Path} {t : Target}

private theorem nearest_id (htop : top.id = none) (frames : List Frame) :
    (nearest top frames).id = frames.head?.map Frame.id := by
  cases frames with
  | nil => exact htop
  | cons f frames => rfl

private theorem linked_of_mem_leaves (htop : top.id = none) {frames : List Frame}
    (hframes : Linked base top frames) {item : Item} (hitem : item ∈ (nearest top frames).items)
    {l : Leaf} (hl : l ∈ item.leaves base frames.head?) : Linked base top (l.frames ++ frames) := by
  match item with
  | .plain node =>
    rw [Item.leaves, mem_singleton] at hl
    subst hl
    exact hframes
  | .module node canonical file items =>
    rw [Item.leaves] at hl
    obtain ⟨inner, hinner, hl⟩ := mem_flatMap.mp hl
    obtain ⟨l', hl', rfl⟩ := mem_map.mp hl
    let f : Frame := ⟨node, enter base frames.head? node, canonical, file, items⟩
    have hid : f.id = qualifyIn (nearest top frames).id node.id.val := by
      rw [nearest_id htop]
      exact (enter_eq base frames.head? node).1
    have hf : Linked base top (f :: frames) :=
      ⟨rfl, ⟨node, canonical, file, hitem, congrArg some hid⟩, hframes⟩
    have := linked_of_mem_leaves htop hf hinner (l := l') hl'
    simpa [Leaf.inside] using this

private theorem linked_of_mem (hl : l ∈ p.leaves) :
    Linked p.base p.top l.frames := by
  obtain ⟨item, hitem, hl⟩ := mem_flatMap.mp hl
  have hempty : Linked p.base p.top [] := trivial
  have := linked_of_mem_leaves rfl hempty hitem hl
  rwa [append_nil] at this

private theorem Linked.nested {frames : List Frame} (h : Linked base top frames)
    (hnodup : top.region.Nodup) :
    Scope.Nested (frames.map Frame.scope ++ [top]) ∧ (nearest top frames).region.Nodup := by
  induction frames with
  | nil => exact ⟨isChain_singleton _, hnodup⟩
  | cons f frames ih =>
    obtain ⟨-, hin, hframes⟩ := h
    obtain ⟨hchain, hnear⟩ := ih hframes
    refine ⟨?_, hin.nodup hnear⟩
    cases frames with
    | nil | cons => exact isChain_cons_cons.mpr ⟨⟨hin, hnear⟩, hchain⟩

private theorem Project.chain_nested (hl : l ∈ p.leaves)
    (hnodup : l.frames = [] ∨ p.top.region.Nodup) : Scope.Nested (p.chain l) := by
  rcases hnodup with hplain | hnodup
  · rw [Project.chain, hplain]
    exact isChain_singleton _
  · exact ((linked_of_mem hl).nested hnodup).1

/-! ## References after scoping -/

private def Denotes (chain : List Scope) : Target → InputMapping → Prop
  | .builtin mapping, new => new = mapping ∧ ∀ m, mapping ≠ .user m
  | .nodes ids output, new =>
    ∃ m inner σ outer name, new = .user m ∧ m.output = output ∧ chain = inner ++ σ :: outer ∧
      m.source.val = qualifyIn σ.id name ∧ ids = σ.answers name output

private theorem Denotes.inside {new : InputMapping} (h : Denotes chain t new) (τ : Scope) :
    Denotes (τ :: chain) t new := by
  cases t with
  | builtin mapping => exact h
  | nodes ids output =>
    obtain ⟨m, inner, σ, outer, name, hnew, hout, rfl, hname, hids⟩ := h
    exact ⟨m, τ :: inner, σ, outer, name, hnew, hout, rfl, hname, hids⟩

private def Agrees (chain : List Scope) (t : Option Target) (new : Option Input) : Prop :=
  t = none ∧ new = none ∨
    ∃ target input, t = some target ∧ new = some input ∧ Denotes chain target input.mapping

private theorem enter_inputs (base : Path) (frames : List Frame) (node : Node) :
    (enter base frames.head? node).inputs =
      node.inputs.filterMap fun e => (scopeIn frames e.2).map (e.1, ·) := by
  cases frames with
  | nil => simp [enter, scopeIn]
  | cons f frames =>
    obtain ⟨args, env, build, deploy, h⟩ := enter_some base f node
    rw [List.head?_cons, h]
    rfl

private theorem Agrees.find? {d : InputMapping → Option Target} {s : Input → Option Input} (port : DataId)
    {bindings : Inputs} (h : ∀ e ∈ bindings, Agrees chain (d e.2.mapping) (s e.2)) :
    Agrees chain
      (((bindings.filterMap fun e => (d e.2.mapping).map (e.1, ·)).find? (·.1 = port)).map (·.2))
      (((bindings.filterMap fun e => (s e.2).map (e.1, ·)).find? (·.1 = port)).map (·.2)) := by
  induction bindings with
  | nil => exact .inl ⟨rfl, rfl⟩
  | cons e bindings ih =>
    have ih := ih fun e' he' => h e' (mem_cons_of_mem _ he')
    obtain ⟨hd, hs⟩ | ⟨t, input, hd, hs, hden⟩ := h e mem_cons_self
    · simpa only [filterMap_cons, hd, hs, Option.map_none] using ih
    · simp only [filterMap_cons, hd, hs, Option.map_some, List.find?_cons]
      by_cases hport : e.1 = port
      · simp only [hport, decide_true, Option.map_some]
        exact .inr ⟨t, input, rfl, rfl, hden⟩
      · simpa only [hport, decide_false] using ih

private theorem agrees (htop : top.id = none) {frames : List Frame}
    (hframes : Linked base top frames)
    (input : Input) :
    Agrees (frames.map Frame.scope ++ [top]) (designate top frames input.mapping)
      (scopeIn frames input) := by
  induction frames generalizing input with
  | nil =>
    refine .inr ?_
    cases hm : input.mapping with
    | timer | logs => exact ⟨.builtin _, _, by rw [designate], rfl, hm, nofun⟩
    | user m =>
      refine ⟨.nodes _ _, _, by rw [designate], rfl, m, [], top, [], m.source.val, hm, rfl, rfl, ?_,
        rfl⟩
      rw [htop, qualifyIn]
  | cons f frames ih =>
    obtain ⟨hnode, -, hframes⟩ := hframes
    simp only [scopeIn, List.head?_cons, Option.elim_some, Frame.scopeInput]
    cases hm : input.mapping with
    | timer | logs => exact .inr ⟨.builtin _, _, by rw [designate], rfl, hm, nofun⟩
    | user m =>
      simp only [designate]
      split
      · have hbound := Agrees.find? m.output fun e (_ : e ∈ f.raw.inputs) => ih hframes e.2
        rw [← enter_inputs base, ← hnode] at hbound
        obtain ⟨ht, hnone⟩ | ⟨t, bound, ht, hsome, hden⟩ := hbound
        · exact .inl ⟨ht, by simpa using hnone⟩
        · obtain ⟨e, he, rfl⟩ := Option.map_eq_some_iff.mp hsome
          exact .inr ⟨t, bindInput input e.2, ht, by simp [he], hden.inside f.scope⟩
      · split
        · exact .inr ⟨_, _, rfl, rfl, _, [], f.scope, _, m.source.val, rfl, rfl, rfl, rfl, rfl⟩
        · refine .inr ⟨_, _, rfl, rfl, m, (f :: frames).map Frame.scope, top, [], m.source.val, hm,
            rfl, rfl, ?_, rfl⟩
          rw [htop, qualifyIn]

private theorem Project.agrees (hl : l ∈ p.leaves) (input : Input) :
    Agrees (p.chain l) (designate p.top l.frames input.mapping) (scopeIn l.frames input) :=
  Expand.agrees rfl (linked_of_mem hl) input

/-! ## Flat references -/

private theorem scopes_eq (p : Project) (l : Leaf) :
    p.scopes l = (p.chain l).map Scope.maps := by
  simp [Project.scopes, Project.chain, Function.comp_def, Scope.maps, Frame.scope, Frame.outputMaps,
    Project.top]

private theorem mapping_chase (p : Project) (l : Leaf) (input : Input) :
    (chase (p.scopes l) input).mapping =
      match input.mapping with
      | .timer interval => .timer interval
      | .logs config => .logs config
      | .user m => .user (resolve (p.chain l) m) := by
  rw [scopes_eq]
  generalize p.chain l = chain
  induction chain generalizing input with
  | nil =>
    change input.mapping = _
    cases hm : input.mapping <;> rfl
  | cons σ chain ih =>
    change (chase (chain.map Scope.maps) (retarget σ.maps input)).mapping = _
    rw [ih]
    cases hm : input.mapping <;> simp [retarget, mapRef, hm, resolve, chaseRef]

private theorem producer_chain (hl : l ∈ p.leaves) {σ : Scope} (hσ : σ ∈ p.chain l) {id : String}
    (h : producer σ.maps m = some id) :
    id ∈ p.nodeIds :=
  (producer_spec hl (scopes_eq p l ▸ mem_map_of_mem hσ) h).1

private theorem resolve_notMem_nodeIds (hl : l ∈ p.leaves) (m : UserInputMapping) :
    (resolve (p.chain l) m).source.val ∉ p.nodeIds ↔
      (∀ σ ∈ p.chain l, producer σ.maps m = none) ∧ m.source.val ∉ p.nodeIds := by
  obtain ⟨hnone, hsame⟩ | ⟨⟨maps, hmaps, hsome⟩, maps', hmaps', m', hm'⟩ :=
    chaseRef_cases ((p.chain l).map Scope.maps) m
  · rw [resolve, hsame]
    exact (and_iff_right fun σ hσ => hnone _ (mem_map_of_mem hσ)).symm
  · obtain ⟨σ, hσ, rfl⟩ := mem_map.mp hmaps
    obtain ⟨σ', hσ', rfl⟩ := mem_map.mp hmaps'
    refine iff_of_false (fun hc => hc (producer_chain hl hσ' hm')) fun hc => ?_
    simp [hc.1 σ hσ] at hsome

private theorem connected_nodes_iff (hl : l ∈ p.leaves) (hm : input.mapping = .user m)
    (hfound : (resolve (p.chain l) m).source.val ∈ ids → Found ids (p.chain l) m) :
    Target.Connected p (.nodes ids output) (chase (p.scopes l) input).mapping ↔
      p.Leads l (.nodes ids output) input.mapping := by
  have hiff : (if ids = [] then (resolve (p.chain l) m).source.val ∉ p.nodeIds
        else (resolve (p.chain l) m).source.val ∈ ids) ↔
      if ids = [] then (∀ σ ∈ p.chain l, producer σ.maps m = none) ∧ m.source.val ∉ p.nodeIds
        else Found ids (p.chain l) m := by
    split
    · exact resolve_notMem_nodeIds hl m
    · exact ⟨hfound, Found.resolve_mem⟩
  rw [mapping_chase, Target.Connected, Project.Leads, hm]
  simp only [InputMapping.user.injEq, exists_eq_left', resolve_output, hiff]

private theorem connected_of_denotes (hl : l ∈ p.leaves) (hchain : Scope.Nested (p.chain l))
    (h : Denotes (p.chain l) t input.mapping) :
    Target.Connected p t (chase (p.scopes l) input).mapping ↔ p.Leads l t input.mapping := by
  cases t with
  | builtin mapping =>
    obtain ⟨hm, huser⟩ := h
    rw [mapping_chase, Target.Connected, Project.Leads]
    cases hi : input.mapping with
    | timer | logs => rfl
    | user m => exact absurd (hm.symm.trans hi) (huser m)
  | nodes ids output =>
    obtain ⟨m, inner, σ, outer, name, hm, -, hsplit, hname, rfl⟩ := h
    refine connected_nodes_iff hl hm fun hmem => ?_
    rw [hsplit] at hchain hmem ⊢
    exact hchain.found_of_answers hname hmem

private theorem ids_subset_of_denotes {new : InputMapping} (hchain : Scope.Nested (chain ++ [top]))
    (h : Denotes (chain ++ [top]) (.nodes ids output) new) : ids ⊆ top.region := by
  obtain ⟨-, inner, σ, outer, name, -, -, hsplit, -, rfl⟩ := h
  rw [hsplit] at hchain
  have houter : Scope.Nested (σ :: outer) := (isChain_append.mp hchain).2.1
  have htop : top ∈ σ :: outer := by
    have hlast := congrArg getLast? hsplit
    rw [getLast?_concat, getLast?_append_cons] at hlast
    exact mem_of_getLast? hlast.symm
  exact List.Subset.trans (σ.answers_subset name output) (houter.region_subset top htop)

private theorem producer_port {f : Frame} (hm : m.source.val = moduleInputSource) :
    producer f.scope.maps m = none := by
  cases h : producer f.scope.maps m with
  | none => rfl
  | some id =>
    obtain ⟨item, -, hkey, -⟩ := Scope.producer_eq_some h
    have hdot := congrArg String.toList hkey
    rw [hm, Frame.scope, qualifyIn, toList_qualify] at hdot
    have : '.' ∈ moduleInputSource.toList := by
      rw [← hdot]
      simp
    simp [moduleInputSource] at this

private theorem found_of_raw (hchain : Scope.Nested (p.chain l)) (hids : ids ⊆ p.top.region)
    (ht : designate p.top l.frames (.user m) = some (.nodes ids output))
    (hmem : (resolve (p.chain l) m).source.val ∈ ids) : Found ids (p.chain l) m := by
  by_cases hport : m.source.val = moduleInputSource
  · refine hchain.found_of_no_hit (fun τ hτ => ?_) hids hmem
    obtain ⟨f, -, rfl⟩ := mem_map.mp hτ
    exact producer_port hport
  · rw [Project.chain] at hchain hmem ⊢
    cases hframes : l.frames with
    | nil =>
      rw [hframes] at hchain hmem
      exact Scope.Nested.found_of_head hchain hids hmem
    | cons f frames =>
      rw [hframes] at ht hchain hmem
      simp only [designate, if_neg hport] at ht
      split at ht
      · obtain ⟨rfl, rfl⟩ := Target.nodes.inj (Option.some.inj ht)
        have hsub := f.scope.answers_subset m.source.val m.output
        exact Scope.Nested.found_of_head hchain hsub hmem
      · obtain ⟨rfl, rfl⟩ := Target.nodes.inj (Option.some.inj ht)
        exact hchain.found_of_answers rfl hmem

private theorem connected_of_raw (hl : l ∈ p.leaves) (hchain : Scope.Nested (p.chain l))
    (ht : designate p.top l.frames input.mapping = some t) :
    Target.Connected p t (chase (p.scopes l) input).mapping ↔ p.Leads l t input.mapping := by
  obtain ⟨hnone, -⟩ | ⟨t', _, ht', -, hden⟩ :=
    Project.agrees hl input
  · rw [hnone] at ht
    cases ht
  obtain rfl : t' = t := Option.some.inj (ht'.symm.trans ht)
  cases hm : input.mapping with
  | timer | logs =>
    rw [hm, designate] at ht
    cases ht
    rw [mapping_chase, hm]
    rfl
  | user m =>
    cases t' with
    | builtin mapping =>
      -- the port is bound to a built-in source, and the name of the port stays
      rw [mapping_chase, hm]
      exact iff_of_false (fun h => hden.2 _ h.symm) fun h => hden.2 _ h.symm
    | nodes ids output =>
      rw [hm] at ht
      rw [← hm]
      exact connected_nodes_iff hl hm (found_of_raw hchain (ids_subset_of_denotes hchain hden) ht)

/-! ## Flat nodes -/

private theorem forall₂_filterMap {α β γ δ : Type} {R : β → δ → Prop} {d : α → Option β}
    {s : α → Option γ} {c : γ → δ} {l : List α} (h : ∀ x ∈ l, (d x).isSome = (s x).isSome) :
    List.Forall₂ R (l.filterMap d) ((l.filterMap s).map c) ↔
      ∀ x ∈ l, ∀ t ∈ d x, ∀ y ∈ s x, R t (c y) := by
  induction l with
  | nil => simp
  | cons x l ih =>
    have hx := h x mem_cons_self
    have ih := ih fun y hy => h y (mem_cons_of_mem _ hy)
    rw [forall_mem_cons, ← ih]
    cases hd : d x with
    | none => simp_all
    | some t =>
      obtain ⟨y, hs⟩ := Option.isSome_iff_exists.mp (by rw [← hx, hd]; rfl : (s x).isSome)
      simp [hd, hs]

private theorem forall₂_filterMap_self {α β γ : Type} {R : β → γ → Prop} {d : α → Option β}
    {c : α → γ} {l : List α} :
    List.Forall₂ R (l.filterMap d) (l.map c) ↔ ∀ x ∈ l, ∃ t ∈ d x, R t (c x) := by
  by_cases h : ∀ x ∈ l, (d x).isSome
  · have := forall₂_filterMap (R := R) (d := d) (s := some) (c := c) (l := l) (by simpa using h)
    rw [filterMap_some] at this
    rw [this]
    refine forall₂_congr fun x hx => ?_
    obtain ⟨t, ht⟩ := Option.isSome_iff_exists.mp (h x hx)
    simp [ht]
  · refine iff_of_false (fun hc => h ?_) fun hc => h fun x hx => ?_
    · rw [← filterMap_length_eq_length]
      simpa using hc.length_eq
    · obtain ⟨t, ht, -⟩ := hc x hx
      exact Option.isSome_of_mem ht

private theorem otherTables_final (p : Project) (l : Leaf) :
    otherTables (p.final l) =
      (otherTables l.node).map (·.map fun e => (e.1, chase (p.scopes l) e.2)) := by
  have henter : otherTables (enter p.base l.frames.head? l.node) = otherTables l.node := by
    cases l.frames.head? with
    | none => rfl
    | some f =>
      obtain ⟨args, env, build, deploy, h⟩ := enter_some p.base f l.node
      rw [h]
      rfl
  rw [Project.final, ← henter]
  generalize enter p.base l.frames.head? l.node = node
  simp only [otherTables, map_append]
  cases hops : node.operators <;> cases hop : node.operator <;> cases hc : node.custom <;>
    simp [mapInputs, mapConfig, hops, hop, hc, Function.comp_def]

private theorem wiredNode_final_iff (hl : l ∈ p.leaves)
    (hchain : Scope.Nested (p.chain l)) : WiredNode p l (p.final l) ↔ p.Straight l := by
  have hagrees := Project.agrees hl
  refine and_congr ?_ ?_
  · change Wired p l l.node.inputs
      ((enter p.base l.frames.head? l.node).inputs.map fun e => (e.1, chase (p.scopes l) e.2)) ↔ _
    rw [enter_inputs, Wired, forall₂_filterMap]
    · refine forall₂_congr fun e he => ?_
      obtain ⟨hd, hs⟩ | ⟨t, input, hd, hs, hden⟩ := hagrees e.2
      · simp [hd, hs]
      · simp only [hd, hs, Option.map_some, Option.mem_def, Option.some.injEq, forall_eq', true_and]
        exact connected_of_denotes hl hchain hden
    · intro e he
      obtain ⟨hd, hs⟩ | ⟨t, input, hd, hs, hden⟩ := hagrees e.2 <;> simp [hd, hs]
  · rw [otherTables_final, forall₂_map_right_iff, forall₂_same]
    refine forall₂_congr fun table htable => ?_
    rw [Wired, forall₂_filterMap_self]
    refine forall₂_congr fun e he => ?_
    simp only [Option.mem_def, Option.map_eq_some_iff]
    constructor
    · rintro ⟨_, ⟨t, ht, rfl⟩, -, h⟩
      exact ⟨t, ht, (connected_of_raw hl hchain ht).mp h⟩
    · rintro ⟨t, ht, h⟩
      exact ⟨_, ⟨t, ht, rfl⟩, rfl, (connected_of_raw hl hchain ht).mpr h⟩

private theorem frames_nil_of_plain {fs : FileSystem} {descriptor : Descriptor} {baseDir : String}
    {p : Project} (h : loadProject fs descriptor baseDir = .ok p)
    (hplain : descriptor.nodes.any (·.module.isSome) = false) {l : Leaf} (hl : l ∈ p.leaves) :
    l.frames = [] := by
  unfold loadProject at h
  rw [hplain, Bool.not_false, if_pos rfl] at h
  cases h
  obtain ⟨item, hitem, hl⟩ := mem_flatMap.mp hl
  obtain ⟨node, -, rfl⟩ := mem_map.mp hitem
  rw [Item.leaves, mem_singleton] at hl
  rw [hl]

private theorem region_top (p : Project) :
    p.top.region = (p.leaves.map p.final).map (·.id.val) := by
  have hitem (item : Item) : item.nodeIds none =
      (item.leaves p.base none).map fun l => (p.final l).id.val := by
    have hnamed := map_leaves_eq_named p.base none item
    rw [Option.map_none] at hnamed
    rw [Item.nodeIds, ← hnamed, map_map]
    refine map_congr_left fun l _ => ?_
    simp [finish, Project.final, mapInputs]
  rw [Scope.region, Project.leaves, map_flatMap, map_flatMap]
  refine flatMap_congr fun item _ => ?_
  rw [map_map]
  exact hitem item

/-- The inputs of an expanded dataflow are connected to what nested scoping says exactly when the
names in the scopes around each of them lead there. -/
theorem expandModules_wired_iff {fs : FileSystem} {descriptor result : Descriptor}
    {baseDir : String} (h : expandModules fs descriptor baseDir = .ok result) :
    ∃ project, loadProject fs descriptor baseDir = .ok project ∧
      (List.Forall₂ (WiredNode project) project.leaves result.nodes ↔
        ∀ l ∈ project.leaves, project.Straight l) := by
  obtain ⟨project, hload, hnodes, hnodup⟩ := expandModules_eq h
  refine ⟨project, hload, ?_⟩
  rw [hnodes, forall₂_map_right_iff, forall₂_same]
  refine forall₂_congr fun l hl => wiredNode_final_iff hl (Project.chain_nested hl ?_)
  cases hmods : descriptor.nodes.any (·.module.isSome) with
  | false => exact .inl (frames_nil_of_plain hload hmods hl)
  | true =>
    refine .inr ?_
    rw [region_top, ← hnodes]
    exact hnodup hmods

private theorem echoProject_answers :
    (echoProject inputsNode).top.answers "source" dataOut = ["source"] ∧
      (echoProject inputsNode).top.answers "echo" dataOut = ["echo.pass"] := by
  simp [Scope.answers, Project.top, echoProject, Item.id, sourceNode, echoNode, sinkNode,
    Item.answers, Item.providers, echoFile, inputsNode, qualifyIn, qualify]
  rfl

private theorem echoProject_maps :
    (echoProject inputsNode).top.maps = [("echo", [("data_out", "echo.pass")])] := by
  simp only [Scope.maps, Project.top, outputMaps, echoProject, filterMap_cons,
    Item.exports, Item.named, flatMap_cons, flatMap_nil]
  rfl

/-- A node reads the port of its module, and another one the output of the module. -/
theorem inputsPort_wired :
    ∃ project result, loadProject (echoTree inputsNode) echoDataflow "/proj" = .ok project ∧
      expandModules (echoTree inputsNode) echoDataflow "/proj" = .ok result ∧
      List.Forall₂ (WiredNode project) project.leaves result.nodes := by
  obtain ⟨project, hload, hiff⟩ := expandModules_wired_iff expandModules_echo
  refine ⟨project, _, hload, expandModules_echo, hiff.mpr ?_⟩
  obtain rfl : echoProject inputsNode = project := Outcome.ok.inj hload
  rw [echoProject_leaves]
  simp only [forall_mem_cons, not_mem_nil, IsEmpty.forall_iff, implies_true, and_true]
  refine ⟨⟨by simp [sourceNode], by simp [otherTables, sourceNode]⟩,
    ⟨?_, by simp [otherTables, inputsNode]⟩, ⟨?_, by simp [otherTables, sinkNode]⟩⟩
  · rintro e he t ht input hinput
    obtain rfl := mem_singleton.mp he
    have htarget : t = .nodes ["source"] dataOut := by
      rw [← echoProject_answers.1]
      exact (Option.some.inj ht).symm
    obtain rfl : refer "source" dataOut = input := Option.some.inj hinput
    subst htarget
    refine ⟨⟨⟨"source"⟩, dataOut⟩, rfl, rfl, ?_⟩
    rw [if_neg (by simp), Project.chain, found_append, Found, echoProject_maps]
    · exact mem_singleton.mpr rfl
    · simp only [map_cons, map_nil, mem_singleton, forall_eq]
      rfl
  · rintro e he t ht input hinput
    obtain rfl := mem_singleton.mp he
    have htarget : t = .nodes ["echo.pass"] dataOut := by
      rw [← echoProject_answers.2]
      exact (Option.some.inj ht).symm
    obtain rfl : refer "echo" dataOut = input := Option.some.inj hinput
    subst htarget
    refine ⟨⟨⟨"echo"⟩, dataOut⟩, rfl, rfl, ?_⟩
    rw [if_neg (by simp)]
    change Found ["echo.pass"] [(echoProject inputsNode).top] _
    rw [Found, echoProject_maps]
    exact ⟨mem_singleton.mpr rfl, by simp⟩

def helperNode : Node where
  id := ⟨"helper"⟩
  outputs := [dataOut]

def userNode : Node where
  id := ⟨"user"⟩
  operator := some { config := { inputs := [(dataIn, refer "helper" dataOut)] } }

def boxNode : Node where
  id := ⟨"box"⟩
  module := some "box.yml"

/-- Module with a node and an operator that reads it. -/
def boxFile : ModuleFile where
  module := { name := "box" }
  nodes := [helperNode, userNode]

/-- An operator in a module reads a sibling. It is connected to the node of the same name at the top
level. -/
theorem operatorSibling_not_wired :
    ∃ project result,
      loadProject (.ofFiles [(["proj", "box.yml"], ⟨100, .ok boxFile⟩)])
        { nodes := [helperNode, boxNode] } "/proj" = .ok project ∧
      expandModules (.ofFiles [(["proj", "box.yml"], ⟨100, .ok boxFile⟩)])
        { nodes := [helperNode, boxNode] } "/proj" = .ok result ∧
      ¬ List.Forall₂ (WiredNode project) project.leaves result.nodes := by
  let project : Project := ⟨["proj"], [.plain helperNode,
    .module boxNode ["proj", "box.yml"] boxFile [.plain helperNode, .plain userNode]]⟩
  let box : Frame :=
    ⟨boxNode, boxNode, ["proj", "box.yml"], boxFile, [.plain helperNode, .plain userNode]⟩
  have hleaves : project.leaves = [⟨[], helperNode⟩, ⟨[box], helperNode⟩, ⟨[box], userNode⟩] := by
    simp [project, box, Project.leaves, Item.leaves, Leaf.inside, enter]
  have hanswers : box.scope.answers "helper" dataOut = ["box.helper"] := rfl
  refine ⟨project, _, rfl, rfl, fun h => ?_⟩
  rw [hleaves] at h
  obtain - | ⟨-, h⟩ := h
  obtain - | ⟨-, h⟩ := h
  obtain - | ⟨h, -⟩ := h
  obtain - | ⟨h, -⟩ := h.2
  change List.Forall₂ _ [(dataIn, Target.nodes (box.scope.answers "helper" dataOut) dataOut)]
    [(dataIn, refer "helper" dataOut)] at h
  rw [hanswers, forall₂_cons] at h
  obtain ⟨m, ⟨⟩, -, h⟩ := h.1.2
  exact absurd h (by decide)

end DoraSpec.Core.Expand
