import DoraSpec.Cli.Record
import DoraSpec.Core.Resolve
import DoraSpec.Message.InputGrammar
import DoraSpec.Recording.RecordNode

/-!
# Topics of a recording

What the record command subscribes to, compared with the outputs of a dataflow. Only outputs at the
level of nodes are found, not those of operators or of modules. An input is named by joining node and
output with underscores, which both may contain, and a node named `dora` cannot be subscribed to.
-/

namespace DoraSpec.Cli
open Base Base.Text Base.OrderedTable Message List
open Recording (Sources addSource reverseMap)
open Std (ExtTreeMap)

/-! ## Names of inputs -/

/-- The underscores between node and output can be read in two ways: some of those in front of the
first output belong to the second node. -/
def Shifted (t t' : Topic) : Prop :=
  (∃ x, (x = "_" ∨ x = "__") ∧ t'.1 = t.1 ++ x ∧ t.2 = x ++ t'.2) ∨
    ∃ y, t'.1 = t.1 ++ "___" ++ y ∧ t.2 = y ++ "___" ++ t'.2

variable {t t' : Topic}

private theorem Shifted.inputId_eq (h : Shifted t t') : inputId t = inputId t' := by
  rcases h with ⟨x, rfl | rfl, h1, h2⟩ | ⟨y, h1, h2⟩
  all_goals
    rw [inputId, inputId, h1, h2, ← String.toList_inj]
    simp

private theorem Shifted.ne (h : Shifted t t') : t ≠ t' := by
  rintro rfl
  rcases h with ⟨x, rfl | rfl, h, -⟩ | ⟨y, h, -⟩
  all_goals
    replace h := congrArg (fun s => s.toList.length) h
    simp at h

private theorem shifted_of_append {n n' o o' : String} {x : List Char}
    (hn : n'.toList = n.toList ++ x)
    (ho : "___".toList ++ o.toList = x ++ ("___".toList ++ o'.toList)) :
    (n, o) = (n', o') ∨ Shifted (n, o) (n', o') := by
  match x with
  | [] =>
    simp only [append_nil, nil_append, append_cancel_left_eq, String.toList_inj]
      at hn ho
    exact .inl (Prod.ext hn.symm ho)
  | [a] =>
    obtain ⟨rfl, hrest⟩ : '_' = a ∧ o.toList = '_' :: o'.toList := by simpa using ho
    exact .inr (.inl ⟨"_", .inl rfl, by simp [← String.toList_inj, hn],
      by simp [← String.toList_inj, hrest]⟩)
  | [a, b] =>
    obtain ⟨rfl, rfl, hrest⟩ : '_' = a ∧ '_' = b ∧ o.toList = '_' :: '_' :: o'.toList := by
      simpa using ho
    exact .inr (.inl ⟨"__", .inr rfl, by simp [← String.toList_inj, hn],
      by simp [← String.toList_inj, hrest]⟩)
  | a :: b :: c :: y =>
    obtain ⟨rfl, rfl, rfl, hrest⟩ : '_' = a ∧ '_' = b ∧ '_' = c ∧
        o.toList = y ++ '_' :: '_' :: '_' :: o'.toList := by
      simpa using ho
    exact .inr (.inr ⟨String.ofList y, by simp [← String.toList_inj, hn],
      by simp [← String.toList_inj, hrest]⟩)

/-- Two topics have the same input exactly if they are equal or their underscores can be read in two
ways. -/
theorem inputId_eq_iff :
    inputId t = inputId t' ↔ t = t' ∨ Shifted t t' ∨ Shifted t' t := by
  constructor
  · intro h
    have hchars : t.1.toList ++ ("___".toList ++ t.2.toList) =
        t'.1.toList ++ ("___".toList ++ t'.2.toList) := by
      simpa [inputId] using congrArg String.toList h
    rcases append_eq_append_iff.mp hchars with ⟨x, hn, ho⟩ | ⟨x, hn, ho⟩
    · exact (shifted_of_append hn ho).imp_right .inl
    · exact (shifted_of_append hn ho).imp Eq.symm .inr
  · rintro (rfl | h | h)
    · rfl
    · exact h.inputId_eq
    · exact h.inputId_eq.symm

private theorem hasDoubleSlash_append {front back : List Char} (h : '/' ∉ front) :
    hasDoubleSlash (front ++ back) = hasDoubleSlash back := by
  induction front with
  | nil => rfl
  | cons c front ih =>
    obtain ⟨hc, hfront⟩ := not_or.mp (mem_cons.not.mp h)
    rw [cons_append, ← ih hfront]
    cases front ++ back with
    | nil => rfl
    | cons d rest => simp [hasDoubleSlash, Ne.symm hc]

private theorem valid_inputId {node : NodeId} (hnode : node.Valid) (output : DataId) :
    validateDataId (inputId (node.val, output.val)) = .ok () := by
  obtain ⟨hne, hchars, hhead, hlast, hdouble⟩ := validateDataId_eq_ok.mp output.valid
  have hnodeChars := hnode.isNodeIdChar
  have hlist : (inputId (node.val, output.val)).toList =
      (node.val.toList ++ "___".toList) ++ output.val.toList := by
    simp [inputId]
  have hslash : '/' ∉ node.val.toList ++ "___".toList := by
    rw [mem_append, not_or]
    exact ⟨InputMapping.slash_not_mem_of_valid hnode, by decide⟩
  refine validateDataId_eq_ok.mpr ⟨?_, ?_, ?_, ?_, ?_⟩ <;> rw [hlist]
  · simp
  · intro c hc
    rcases mem_append.mp hc with hc | hc
    · rcases mem_append.mp hc with hc | hc
      · simp [isDataIdChar, hnodeChars c hc]
      · obtain rfl : c = '_' := by simpa using hc
        rfl
    · exact hchars c hc
  · intro hc
    have hfront : (node.val.toList ++ "___".toList) ≠ [] := by simp
    rw [List.head?_append_of_ne_nil _ hfront] at hc
    exact hslash (mem_of_mem_head? hc)
  · rwa [getLast?_append_of_ne_nil _ hne]
  · rwa [hasDoubleSlash_append hslash]

/-! ## Outputs of a dataflow -/

/-- What YAML says about identifier and outputs of a node. -/
structure NodeDescribed (yaml : Value) (node : Node) : Prop where
  id : (yaml.get "id").bind Value.asStr = some node.id.val
  outputs : ∀ text, text ∈ node.outputs.map DataId.val ↔
    ∃ items, (yaml.get "outputs").bind Value.asSequence = some items ∧
      ∃ item ∈ items, item.asStr = some text

/-- The YAML of a dataflow file. -/
def Describes (yaml : Value) (dataflow : Descriptor) : Prop :=
  ∃ items, (yaml.get "nodes").bind Value.asSequence = some items ∧
    List.Forall₂ NodeDescribed items dataflow.nodes

/-- Outputs of an operator are named after it. -/
def operatorOutputs (id : OperatorId) (config : OperatorConfig) : List String :=
  config.outputs.map fun output => joinOnce '/' id.val output.val

/-- All outputs that a node and its operators declare. -/
def declaredOutputs (node : Node) : List Topic :=
  let outputs := node.outputs.map DataId.val ++
    ((node.custom.map fun custom => custom.runConfig.outputs.map DataId.val).getD [] ++
      ((node.operator.map fun op =>
          operatorOutputs (op.id.getD Core.singleOperatorDefaultId) op.config).getD [] ++
        (node.operators.getD []).flatMap fun op => operatorOutputs op.id op.config))
  outputs.map (node.id.val, ·)

/-- Topics of a dataflow. -/
def topicsOf (nodes : List Node) : List Topic := nodes.flatMap declaredOutputs

/-- The topic is an output of a node of the file. -/
def AtNodeLevel (dataflow : Descriptor) (t : Topic) : Prop :=
  ∃ node ∈ dataflow.nodes, t.1 = node.id.val ∧ t.2 ∈ node.outputs.map DataId.val

private theorem mem_nodeOutputs {yaml : Value} {node : Node} (h : NodeDescribed yaml node) :
    t ∈ nodeOutputs yaml ↔ t.1 = node.id.val ∧ t.2 ∈ node.outputs.map DataId.val := by
  rw [h.outputs, nodeOutputs, h.id]
  cases (yaml.get "outputs").bind Value.asSequence with
  | none => simp
  | some items =>
    obtain ⟨name, output⟩ := t
    simp only [Option.getD_some, mem_filterMap, Option.map_eq_some_iff, Prod.mk.injEq,
      Option.some.injEq, exists_eq_left']
    constructor
    · rintro ⟨item, hitem, text, htext, rfl, rfl⟩
      exact ⟨rfl, item, hitem, htext⟩
    · rintro ⟨rfl, item, hitem, htext⟩
      exact ⟨item, hitem, output, htext, rfl, rfl⟩

private theorem atNodeLevel_iff {dataflow : Descriptor} {items : List Value}
    (h : List.Forall₂ NodeDescribed items dataflow.nodes) :
    t ∈ items.flatMap nodeOutputs ↔ AtNodeLevel dataflow t := by
  unfold AtNodeLevel
  generalize dataflow.nodes = nodes at h
  induction h with
  | nil => simp
  | cons h _ ih =>
    rw [flatMap_cons, mem_append, mem_nodeOutputs h, ih]
    simp

private theorem discover_eq_ok {yaml : Value} {dataflow : Descriptor}
    (h : Describes yaml dataflow) :
    (∃ outputs, discoverDescriptorOutputs yaml = .ok outputs ∧ outputs ≠ [] ∧
      ∀ t, t ∈ outputs ↔ AtNodeLevel dataflow t) ∨
    (∃ message, discoverDescriptorOutputs yaml = .error message) ∧ ∀ t, ¬ AtNodeLevel dataflow t := by
  obtain ⟨items, hitems, hnodes⟩ := h
  simp only [discoverDescriptorOutputs, hitems]
  split
  · next hempty =>
    refine .inr ⟨⟨_, rfl⟩, fun t ht => ?_⟩
    rw [← atNodeLevel_iff hnodes, hempty] at ht
    cases ht
  · next hne => exact .inl ⟨_, rfl, hne, fun t => atNodeLevel_iff hnodes⟩

/-! ## Selected topics -/

private theorem foldlM_requestTopic {all acc topics : ExtTreeMap String String}
    {requested : List String}
    (h : requested.foldlM (requestTopic all) acc = .ok topics) :
    (∀ r ∈ requested, (all[r]?).isSome) ∧
      ∀ k, topics[k]? = if k ∈ requested then all[k]? else acc[k]? := by
  induction requested generalizing acc with
  | nil =>
    obtain rfl := Except.ok.inj h
    simp
  | cons r requested ih =>
    obtain ⟨acc', hr, h⟩ := except_bind_eq_ok.mp h
    obtain ⟨hall, hlookup⟩ := ih h
    unfold requestTopic at hr
    split at hr
    · next id hid =>
      obtain rfl := Except.ok.inj hr
      refine ⟨forall_mem_cons.mpr ⟨by simp [hid], hall⟩, fun k => ?_⟩
      rw [hlookup, OrderedTable.getElem?_insert]
      by_cases hk : r = k
      · subst hk
        simp [hid]
      · simp [hk, Ne.symm hk]
    · cases hr

private theorem exists_foldlM_requestTopic {all acc : ExtTreeMap String String}
    {requested : List String}
    (h : ∀ r ∈ requested, (all[r]?).isSome) :
    ∃ topics, requested.foldlM (requestTopic all) acc = .ok topics := by
  induction requested generalizing acc with
  | nil => exact ⟨acc, rfl⟩
  | cons r requested ih =>
    obtain ⟨hr, hrest⟩ := forall_mem_cons.mp h
    obtain ⟨id, hid⟩ := Option.isSome_iff_exists.mp hr
    obtain ⟨topics, htopics⟩ := @ih (acc.insert r id) hrest
    exact ⟨topics, except_bind_eq_ok.mpr ⟨_, by rw [requestTopic, hid], htopics⟩⟩

/-- The node of the topic has no slash, so that the text of the topic is split behind it. -/
def Plain (t : Topic) : Prop := '/' ∉ t.1.toList

private theorem topicText_inj (ht : Plain t) (ht' : Plain t') (h : topicText t = topicText t') :
    t = t' := by
  obtain ⟨h1, h2⟩ := joinOnce_inj ht ht' h
  exact Prod.ext h1 h2

private theorem splitOnce_topicText (ht : Plain t) : splitOnce '/' (topicText t) = some t :=
  splitOnce_joinOnce ht t.2

section

variable {outputs selection : List Topic} (houtputs : ∀ t ∈ outputs, Plain t)
include houtputs

private theorem getElem?_allTopics {text id : String} :
    (allTopics outputs)[text]? = some id ↔ ∃ t ∈ outputs, text = topicText t ∧ id = inputId t := by
  constructor
  · intro h
    obtain ⟨t, ht, heq⟩ := mem_map.mp (mem_of_getElem?_ofEntries h)
    obtain ⟨rfl, rfl⟩ := Prod.mk.inj heq
    exact ⟨t, ht, rfl, rfl⟩
  · rintro ⟨t, ht, rfl, rfl⟩
    refine getElem?_ofEntries (mem_map.mpr ⟨t, ht, rfl⟩) fun id' hid' => ?_
    obtain ⟨t', ht', heq⟩ := mem_map.mp hid'
    obtain ⟨htext, rfl⟩ := Prod.mk.inj heq
    rw [topicText_inj (houtputs t' ht') (houtputs t ht) htext]

private theorem filterTopics_eq_ok {topics : ExtTreeMap String String}
    (hselection : ∀ t ∈ selection, Plain t)
    (h : filterTopics (allTopics outputs) (selection.map topicText) = .ok topics) :
    (∀ t ∈ selection, t ∈ outputs) ∧ ∀ text id, topics[text]? = some id ↔
      ∃ t ∈ outputs, (selection = [] ∨ t ∈ selection) ∧ text = topicText t ∧ id = inputId t := by
  unfold filterTopics at h
  split at h
  · next hnil =>
    obtain rfl := Except.ok.inj h
    obtain rfl := map_eq_nil_iff.mp hnil
    exact ⟨nofun, fun text id => by simp [getElem?_allTopics houtputs]⟩
  · next hne =>
    obtain ⟨hall, hlookup⟩ := foldlM_requestTopic h
    refine ⟨fun t ht => ?_, fun text id => ?_⟩
    · obtain ⟨id, hid⟩ := Option.isSome_iff_exists.mp
        (hall _ (mem_map.mpr ⟨t, ht, rfl⟩))
      obtain ⟨t', ht', htext, -⟩ := (getElem?_allTopics houtputs).mp hid
      rwa [topicText_inj (hselection t ht) (houtputs t' ht') htext]
    · have hselected : selection ≠ [] := fun hnil => hne (by rw [hnil]; rfl)
      rw [hlookup]
      constructor
      · intro hsome
        split at hsome
        · next hmem =>
          obtain ⟨s, hs, rfl⟩ := mem_map.mp hmem
          obtain ⟨t, ht, htext, hid⟩ := (getElem?_allTopics houtputs).mp hsome
          obtain rfl := topicText_inj (hselection s hs) (houtputs t ht) htext
          exact ⟨s, ht, .inr hs, rfl, hid⟩
        · simp at hsome
      · rintro ⟨t, ht, hs, rfl, rfl⟩
        rw [if_pos (mem_map.mpr ⟨t, hs.resolve_left hselected, rfl⟩)]
        exact (getElem?_allTopics houtputs).mpr ⟨t, ht, rfl, rfl⟩

private theorem exists_filterTopics (hselection : ∀ t ∈ selection, t ∈ outputs) :
    ∃ topics, filterTopics (allTopics outputs) (selection.map topicText) = .ok topics := by
  unfold filterTopics
  split
  · exact ⟨_, rfl⟩
  · refine exists_foldlM_requestTopic fun r hr => ?_
    obtain ⟨t, ht, rfl⟩ := mem_map.mp hr
    rw [(getElem?_allTopics houtputs).mpr ⟨t, hselection t ht, rfl, rfl⟩]
    rfl

end

/-! ## Inputs of the record node -/

variable {topics : ExtTreeMap String String} {id text : String}

private theorem mem_byInput :
    (id, text) ∈ topics.toList.map Prod.swap ↔ topics[text]? = some id := by
  rw [← ExtTreeMap.mem_toList_iff_getElem?_eq_some, mem_map]
  constructor
  · rintro ⟨⟨text, id⟩, h, ⟨⟩⟩
    exact h
  · exact fun h => ⟨_, h, rfl⟩

private theorem getElem?_of_byInput (h : (byInput topics)[id]? = some text) :
    topics[text]? = some id :=
  mem_byInput.mp (mem_of_getElem?_ofEntries h)

private theorem getElem?_byInput (h : topics[text]? = some id)
    (huniq : ∀ text', topics[text']? = some id → text' = text) :
    (byInput topics)[id]? = some text :=
  getElem?_ofEntries (mem_byInput.mpr h) fun text' h' => huniq text' (mem_byInput.mp h')

private theorem reverseMap_eq_ok {topicMap : List (String × String)}
    (h : ∀ e ∈ topicMap, (splitOnce '/' e.2).isSome) :
    ∃ sources, reverseMap topicMap = .ok sources ∧ ∀ id text, (id, text) ∈ topicMap →
      (∀ text', (id, text') ∈ topicMap → text' = text) →
        sources.lookup id = splitOnce '/' text := by
  induction topicMap using reverseRecOn with
  | nil => exact ⟨∅, rfl, nofun⟩
  | append_singleton topicMap e ih =>
    obtain ⟨sources, hsources, hlookup⟩ := ih fun e he => h e (mem_append_left _ he)
    obtain ⟨source, hsource⟩ := Option.isSome_iff_exists.mp (h e (by simp))
    refine ⟨sources.insert e.1 source, ?_, fun id text hmem huniq => ?_⟩
    · rw [reverseMap, foldlM_append, except_bind_eq_ok]
      refine ⟨sources, hsources, ?_⟩
      simp only [foldlM_cons, foldlM_nil, addSource, hsource]
      rfl
    · by_cases hid : id = e.1
      · have htext : e.2 = text := huniq e.2 (by simp [hid])
        rw [hid, AList.lookup_insert, ← htext, hsource]
      · rw [AList.lookup_insert_ne hid]
        refine hlookup id text ?_ fun text' h' => huniq text' (mem_append_left _ h')
        rcases mem_append.mp hmem with hmem | hmem
        · exact hmem
        · exact absurd (congrArg Prod.fst (mem_singleton.mp hmem)) hid

/-! ## Recordings -/

section

variable (toJson : ExtTreeMap String String → String) (toLowercase : String → String)

/-- The topic has an input of the record node, which subscribes to it and whose messages are filed
under it. No other topic has this input, since an input has one source. -/
def Recorded (node : RecordNode) (sources : Sources) (t : Topic) : Prop :=
  ∃ id output : DataId, output.val = t.2 ∧ node.inputs[id.val]? = some (topicText t) ∧
    InputMapping.fromStr toLowercase (topicText t) = .ok (.user ⟨⟨t.1⟩, output⟩) ∧
    sources.lookup id.val = some t

/-- The command builds a record node that records the topics and no others. -/
def RecordsAll (args : RecordArgs) (yaml : Value) (topics : List Topic) : Prop :=
  ∃ node modified sources, runRecord toJson args yaml = .ok (node, modified) ∧
    reverseMap node.topicMap.toList = .ok sources ∧
    (∀ t ∈ topics, Recorded toLowercase node sources t) ∧
    ∀ id text : String, node.inputs[id]? = some text → ∃ t ∈ topics, text = topicText t

/-- The topics that the user wants: the selected ones, or all of the dataflow. -/
def wanted (nodes : List Node) (selection : List Topic) : List Topic :=
  if selection = [] then topicsOf nodes else selection

end

section

variable {toJson : ExtTreeMap String String → String} {toLowercase : String → String}
  {yaml : Value} {dataflow : Descriptor} {fromModules : List Node} {selection : List Topic}
  {args : RecordArgs}

variable {t : Topic}

private theorem AtNodeLevel.mem_topicsOf (h : AtNodeLevel dataflow t) (fromModules : List Node) :
    t ∈ topicsOf (dataflow.nodes ++ fromModules) := by
  obtain ⟨node, hnode, hid, houtput⟩ := h
  refine mem_flatMap.mpr ⟨node, mem_append_left _ hnode, ?_⟩
  exact mem_map.mpr ⟨t.2, mem_append_left _ houtput, Prod.ext hid.symm rfl⟩

private theorem plain_of_mem_topicsOf {nodes : List Node} (hvalid : ∀ node ∈ nodes, node.id.Valid)
    (h : t ∈ topicsOf nodes) : Plain t := by
  obtain ⟨node, hnode, h⟩ := mem_flatMap.mp h
  obtain ⟨output, -, rfl⟩ := mem_map.mp h
  exact InputMapping.slash_not_mem_of_valid (hvalid node hnode)

private theorem runRecord_eq_ok {node : RecordNode} {modified : Value}
    (h : runRecord toJson args yaml = .ok (node, modified)) :
    ∃ outputs topics, discoverDescriptorOutputs yaml = .ok outputs ∧
      filterTopics (allTopics outputs) args.topics = .ok topics ∧
      node.topicMap = byInput topics ∧ node.inputs = byInput topics := by
  obtain ⟨outputs, houtputs, h⟩ := except_bind_eq_ok.mp h
  obtain ⟨topics, htopics, h⟩ := except_bind_eq_ok.mp h
  dsimp only at h
  split at h
  · cases h
  · obtain ⟨rfl, -⟩ := Prod.mk.inj (Except.ok.inj h)
    exact ⟨outputs, topics, houtputs, htopics, rfl, rfl⟩

private theorem exists_runRecord (toJson : ExtTreeMap String String → String) {outputs : List Topic}
    (hdescribes : Describes yaml dataflow) (houtputs : discoverDescriptorOutputs yaml = .ok outputs)
    (htopics : filterTopics (allTopics outputs) args.topics = .ok topics) :
    ∃ (node : RecordNode) (modified : Value), runRecord toJson args yaml = .ok (node, modified) ∧
      node.topicMap = byInput topics ∧ node.inputs = byInput topics := by
  obtain ⟨items, hitems, -⟩ := hdescribes
  let node : RecordNode :=
    ⟨args.path, args.file, args.descriptor, byInput topics, byInput topics⟩
  refine ⟨node, yaml.set "nodes" (.sequence (items ++ [node.toYaml toJson])), ?_, rfl, rfl⟩
  refine except_bind_eq_ok.mpr ⟨outputs, houtputs, except_bind_eq_ok.mpr ⟨topics, htopics, ?_⟩⟩
  simp only [hitems]
  rfl

private theorem ne_dora_of_fromStr {output : DataId}
    (h : InputMapping.fromStr toLowercase (topicText t) = .ok (.user ⟨⟨t.1⟩, output⟩)) :
    t.1 ≠ "dora" := by
  have hdenotes := InputMapping.fromStr_eq_ok_iff.mp h
  generalize topicText t = text at hdenotes
  cases hdenotes with
  | user hd _ => exact hd

private theorem AtNodeLevel.fromStr (h : AtNodeLevel dataflow t) (hd : t.1 ≠ "dora")
    (hvalid : ∀ node ∈ dataflow.nodes, node.id.Valid) (toLowercase : String → String) :
    ∃ output : DataId, output.val = t.2 ∧ validateDataId (inputId t) = .ok () ∧
      InputMapping.fromStr toLowercase (topicText t) = .ok (.user ⟨⟨t.1⟩, output⟩) := by
  obtain ⟨name, text⟩ := t
  obtain ⟨node, hnode, rfl, houtput⟩ := h
  obtain ⟨output, -, rfl⟩ := mem_map.mp houtput
  have hid := hvalid node hnode
  exact ⟨output, rfl, valid_inputId hid output, InputMapping.fromStr_of_denotes (.user hd hid)⟩

private theorem mem_wanted_iff {outputs : List Topic}
    (hlevel : ∀ t, t ∈ outputs ↔ AtNodeLevel dataflow t)
    (hwanted : ∀ t ∈ wanted (dataflow.nodes ++ fromModules) selection, AtNodeLevel dataflow t) :
    t ∈ wanted (dataflow.nodes ++ fromModules) selection ↔
      t ∈ outputs ∧ (selection = [] ∨ t ∈ selection) := by
  refine ⟨fun ht => ⟨(hlevel t).mpr (hwanted t ht), ?_⟩, fun ⟨ht, hs⟩ => ?_⟩
  · unfold wanted at ht
    split at ht
    · next hempty => exact .inl hempty
    · exact .inr ht
  · unfold wanted
    split
    · exact ((hlevel t).mp ht).mem_topicsOf fromModules
    · next hnonempty => exact hs.resolve_left hnonempty

private theorem getElem?_byInput_inputId {selected : List Topic}
    (htopics : ∀ text id, topics[text]? = some id ↔
      ∃ t ∈ selected, text = topicText t ∧ id = inputId t)
    (hseparate : ∀ t ∈ selected, ∀ t' ∈ selected, ¬ Shifted t t') (ht : t ∈ selected) :
    (byInput topics)[inputId t]? = some (topicText t) := by
  refine getElem?_byInput ((htopics _ _).mpr ⟨t, ht, rfl, rfl⟩) fun text htext => ?_
  obtain ⟨t', ht', rfl, heq⟩ := (htopics _ _).mp htext
  rcases inputId_eq_iff.mp heq with rfl | hshifted | hshifted
  · rfl
  · exact absurd hshifted (hseparate t ht t' ht')
  · exact absurd hshifted (hseparate t' ht' t ht)

section

variable {outputs : List Topic} {node : RecordNode} {sources : Sources}
  (hplain : ∀ t ∈ outputs, Plain t)
  (htopics : ∀ text id, topics[text]? = some id ↔
    ∃ t ∈ outputs, (selection = [] ∨ t ∈ selection) ∧ text = topicText t ∧ id = inputId t)
  (hinputs : node.inputs = byInput topics)
include hplain htopics hinputs

private theorem Recorded.found {t : Topic} (ht : Plain t) (h : Recorded toLowercase node sources t) :
    t ∈ outputs ∧ t.1 ≠ "dora" ∧ node.inputs[inputId t]? = some (topicText t) := by
  obtain ⟨id, output, -, hid, hfrom, -⟩ := h
  have hid' := hid
  rw [hinputs] at hid'
  obtain ⟨t', ht', -, htext, hinput⟩ := (htopics _ _).mp (getElem?_of_byInput hid')
  obtain rfl := topicText_inj ht (hplain t' ht') htext
  exact ⟨ht', ne_dora_of_fromStr hfrom, by rwa [← hinput]⟩

end

/-- There are topics, they are outputs of nodes that are not named `dora`, and no two are shifted. -/
private def Recordable (dataflow : Descriptor) (topics : List Topic) : Prop :=
  topics ≠ [] ∧ (∀ t ∈ topics, AtNodeLevel dataflow t ∧ t.1 ≠ "dora") ∧
    ∀ t ∈ topics, ∀ t' ∈ topics, ¬ Shifted t t'

section

variable (hdescribes : Describes yaml dataflow)
  (hvalid : ∀ node ∈ dataflow.nodes ++ fromModules, node.id.Valid)
  (hselection : ∀ t ∈ selection, t ∈ topicsOf (dataflow.nodes ++ fromModules))
  (hargs : args.topics = selection.map topicText)
include hdescribes hvalid hselection hargs

omit hdescribes hargs in
private theorem plain_of_wanted :
    ∀ t ∈ wanted (dataflow.nodes ++ fromModules) selection, Plain t := by
  intro t ht
  unfold wanted at ht
  split at ht
  · exact plain_of_mem_topicsOf hvalid ht
  · exact plain_of_mem_topicsOf hvalid (hselection t ht)

private theorem RecordsAll.conditions
    (h : RecordsAll toJson toLowercase args yaml (wanted (dataflow.nodes ++ fromModules) selection)) :
    Recordable dataflow (wanted (dataflow.nodes ++ fromModules) selection) := by
  obtain ⟨node, modified, sources, hrun, -, hall, -⟩ := h
  obtain ⟨outputs, topics, hdiscover, hfilter, -, hinputs⟩ := runRecord_eq_ok hrun
  have hwanted := plain_of_wanted hvalid hselection
  rcases discover_eq_ok hdescribes with ⟨outputs', hdiscover', hne, hlevel⟩ | ⟨⟨message, herror⟩, -⟩
  · obtain rfl : outputs = outputs' := Except.ok.inj (hdiscover.symm.trans hdiscover')
    have hplain : ∀ t ∈ outputs, Plain t := fun t ht =>
      plain_of_mem_topicsOf hvalid (((hlevel t).mp ht).mem_topicsOf fromModules)
    rw [hargs] at hfilter
    obtain ⟨-, htopics⟩ := filterTopics_eq_ok hplain
      (fun t ht => plain_of_mem_topicsOf hvalid (hselection t ht)) hfilter
    have hfound := fun t ht => (hall t ht).found hplain htopics hinputs (hwanted t ht)
    refine ⟨?_, fun t ht => ⟨(hlevel t).mp (hfound t ht).1, (hfound t ht).2.1⟩, ?_⟩
    · obtain ⟨t, ht⟩ := exists_mem_of_ne_nil outputs hne
      unfold wanted
      split
      · exact ne_nil_of_mem (((hlevel t).mp ht).mem_topicsOf fromModules)
      · next hnonempty => exact hnonempty
    · -- two topics with one input would be the same topic
      intro t ht t' ht' hshifted
      have hinput := (hfound t ht).2.2
      rw [hshifted.inputId_eq, (hfound t' ht').2.2] at hinput
      exact hshifted.ne (topicText_inj (hwanted t ht) (hwanted t' ht') (Option.some.inj hinput).symm)
  · exact nomatch hdiscover.symm.trans herror

private theorem recordsAll_of_conditions
    (h : Recordable dataflow (wanted (dataflow.nodes ++ fromModules) selection)) :
    RecordsAll toJson toLowercase args yaml
      (wanted (dataflow.nodes ++ fromModules) selection) := by
  obtain ⟨hne, hlevel', hseparate⟩ := h
  obtain ⟨t₀, ht₀⟩ := exists_mem_of_ne_nil _ hne
  rcases discover_eq_ok hdescribes with ⟨outputs, hdiscover, -, hlevel⟩ | ⟨-, hnone⟩
  · have hplain : ∀ t ∈ outputs, Plain t := fun t ht =>
      plain_of_mem_topicsOf hvalid (((hlevel t).mp ht).mem_topicsOf fromModules)
    have hselected : ∀ t ∈ selection, t ∈ outputs := fun t ht => by
      refine (hlevel t).mpr (hlevel' t ?_).1
      rwa [wanted, if_neg (ne_nil_of_mem ht)]
    obtain ⟨topics, hfilter⟩ := exists_filterTopics hplain hselected
    obtain ⟨-, htopics⟩ := filterTopics_eq_ok hplain
      (fun t ht => plain_of_mem_topicsOf hvalid (hselection t ht)) hfilter
    rw [← hargs] at hfilter
    have htopics' : ∀ text id, topics[text]? = some id ↔
        ∃ t ∈ wanted (dataflow.nodes ++ fromModules) selection,
          text = topicText t ∧ id = inputId t := by
      intro text id
      rw [htopics]
      simp only [mem_wanted_iff hlevel fun t ht => (hlevel' t ht).1, and_assoc]
    obtain ⟨node, modified, hrun, hmap, hinputs⟩ :=
      exists_runRecord toJson hdescribes hdiscover hfilter
    have hentries : ∀ id text : String, node.inputs[id]? = some text →
        ∃ t ∈ wanted (dataflow.nodes ++ fromModules) selection, text = topicText t := by
      intro id text h
      rw [hinputs] at h
      obtain ⟨t, ht, rfl, -⟩ := (htopics' _ _).mp (getElem?_of_byInput h)
      exact ⟨t, ht, rfl⟩
    have hmem : ∀ id text : String,
        (id, text) ∈ node.topicMap.toList ↔ node.inputs[id]? = some text := by
      intro id text
      rw [ExtTreeMap.mem_toList_iff_getElem?_eq_some, hmap, hinputs]
    have hplainWanted := plain_of_wanted hvalid hselection
    have hsplit : ∀ e ∈ node.topicMap.toList, (splitOnce '/' e.2).isSome := by
      rintro ⟨id, text⟩ he
      obtain ⟨t, ht, rfl⟩ := hentries id text ((hmem id text).mp he)
      rw [splitOnce_topicText (hplainWanted t ht)]
      rfl
    obtain ⟨sources, hsources, hlookup⟩ := reverseMap_eq_ok hsplit
    refine ⟨node, modified, sources, hrun, hsources, fun t ht => ?_, hentries⟩
    obtain ⟨hlevel, hdora⟩ := hlevel' t ht
    obtain ⟨output, houtput, hid, hfrom⟩ := hlevel.fromStr hdora
      (fun node hnode => hvalid node (mem_append_left _ hnode)) toLowercase
    have hget : node.inputs[inputId t]? = some (topicText t) := by
      rw [hinputs]
      exact getElem?_byInput_inputId htopics' hseparate ht
    refine ⟨⟨inputId t, hid⟩, output, houtput, hget, hfrom, ?_⟩
    rw [hlookup _ _ ((hmem _ _).mpr hget), splitOnce_topicText (hplainWanted t ht)]
    intro text htext
    exact Option.some.inj (((hmem _ _).mp htext).symm.trans hget)
  · exact absurd (hlevel' t₀ ht₀).1 (hnone t₀)

/-- The command records all wanted topics exactly if there are any, all of them are outputs of nodes in
the file, none of these nodes is named `dora` and the underscores in no two of them can be read in two
ways. -/
theorem recordsAll_iff :
    RecordsAll toJson toLowercase args yaml (wanted (dataflow.nodes ++ fromModules) selection) ↔
      wanted (dataflow.nodes ++ fromModules) selection ≠ [] ∧
      (∀ t ∈ wanted (dataflow.nodes ++ fromModules) selection,
        AtNodeLevel dataflow t ∧ t.1 ≠ "dora") ∧
      ∀ t ∈ wanted (dataflow.nodes ++ fromModules) selection,
        ∀ t' ∈ wanted (dataflow.nodes ++ fromModules) selection, ¬ Shifted t t' := by
  constructor
  · exact RecordsAll.conditions hdescribes hvalid hselection hargs
  · exact recordsAll_of_conditions hdescribes hvalid hselection hargs

end

end

/-- YAML of a file whose nodes have one output each. -/
def fileYaml (topics : List Topic) : Value :=
  .mapping [(.string "nodes", .sequence (topics.map fun t =>
    .mapping [(.string "id", .string t.1), (.string "outputs", .sequence [.string t.2])]))]

/-- The dataflow of the file. -/
def fileDescriptor (topics : List (NodeId × DataId)) : Descriptor where
  nodes := topics.map fun t => { id := t.1, outputs := [t.2] }

private theorem nodeDescribed_single (id : NodeId) (output : DataId) :
    NodeDescribed (.mapping [(.string "id", .string id.val),
      (.string "outputs", .sequence [.string output.val])]) { id, outputs := [output] } := by
  refine ⟨rfl, fun text => ?_⟩
  constructor
  · intro h
    obtain rfl := mem_singleton.mp h
    exact ⟨_, rfl, _, mem_singleton_self _, rfl⟩
  · rintro ⟨_, ⟨⟩, _, hitem, htext⟩
    obtain rfl := mem_singleton.mp hitem
    exact mem_singleton.mpr (Option.some.inj htext).symm

private theorem describes_file (topics : List (NodeId × DataId)) :
    Describes (fileYaml (topics.map fun t => (t.1.val, t.2.val))) (fileDescriptor topics) := by
  refine ⟨_, rfl, ?_⟩
  unfold fileDescriptor
  rw [map_map, forall₂_map_left_iff, forall₂_map_right_iff, forall₂_same]
  exact fun t _ => nodeDescribed_single t.1 t.2

/-- Arguments without a selection. -/
def recordEverything : RecordArgs where
  topics := []
  path := "dora-record-node"
  file := "recording.drec"
  descriptor := ""

/-- JSON of texts without characters that have to be escaped. -/
def topicsJson (topics : ExtTreeMap String String) : String :=
  "\x7b" ++ ",".intercalate (topics.toList.map fun e => e.1.quote ++ ":" ++ e.2.quote) ++ "\x7d"

def cameraFrame : List (NodeId × DataId) := [(⟨"camera"⟩, ⟨"frame", by decide⟩)]

/-- The only output of a dataflow is recorded. -/
theorem recordsAll_cameraFrame :
    RecordsAll topicsJson String.toLower recordEverything
      (fileYaml [("camera", "frame")]) [("camera", "frame")] := by
  have hvalid : ∀ node ∈ (fileDescriptor cameraFrame).nodes ++ [], node.id.Valid :=
    forall_mem_singleton.mpr rfl
  have hselection : ∀ t ∈ ([] : List Topic), t ∈ topicsOf ((fileDescriptor cameraFrame).nodes ++ []) :=
    nofun
  refine (recordsAll_iff (describes_file cameraFrame) hvalid hselection rfl).mpr
    ⟨by simp [wanted, topicsOf, fileDescriptor, cameraFrame, declaredOutputs], ?_, ?_⟩
  · refine forall_mem_singleton.mpr ⟨⟨_, mem_singleton_self _, rfl, ?_⟩, by decide⟩
    exact mem_singleton_self _
  · intro t ht t' ht' hshifted
    exact hshifted.ne ((mem_singleton.mp ht).trans (mem_singleton.mp ht').symm)

/-- Two nodes whose outputs get the same input. -/
def underscores : List (NodeId × DataId) := [(⟨"a"⟩, ⟨"_b", by decide⟩), (⟨"a_"⟩, ⟨"b", by decide⟩)]

/-- An operator next to a node with an output. -/
def withOperator : Descriptor where
  nodes := [
    { id := ⟨"camera"⟩, outputs := [⟨"frame", by decide⟩] },
    { id := ⟨"runtime"⟩
      operator := some { id := some ⟨"op"⟩, config := { outputs := [⟨"label", by decide⟩] } } }]

def withOperatorYaml : Value :=
  .mapping [(.string "nodes", .sequence [
    .mapping [(.string "id", .string "camera"), (.string "outputs", .sequence [.string "frame"])],
    .mapping [(.string "id", .string "runtime"), (.string "operator",
      .mapping [(.string "id", .string "op"), (.string "outputs", .sequence [.string "label"])])]])]

private theorem describes_withOperator : Describes withOperatorYaml withOperator := by
  refine ⟨_, rfl, .cons (nodeDescribed_single ⟨"camera"⟩ ⟨"frame", by decide⟩)
    (.cons ⟨rfl, fun text => ?_⟩ .nil)⟩
  constructor
  · intro h
    cases h
  · rintro ⟨_, h, -⟩
    cases h

/-- One of two outputs with the same input is not recorded, and no output of an operator is. -/
theorem not_recordsAll :
    ¬ RecordsAll topicsJson String.toLower recordEverything
        (fileYaml [("a", "_b"), ("a_", "b")]) [("a", "_b"), ("a_", "b")] ∧
      ¬ RecordsAll topicsJson String.toLower recordEverything
        withOperatorYaml [("camera", "frame"), ("runtime", "op/label")] := by
  constructor
  · have hvalid : ∀ node ∈ (fileDescriptor underscores).nodes ++ [], node.id.Valid :=
      forall_mem_cons.mpr ⟨rfl, forall_mem_singleton.mpr rfl⟩
    have hselection :
        ∀ t ∈ ([] : List Topic), t ∈ topicsOf ((fileDescriptor underscores).nodes ++ []) := nofun
    intro h
    obtain ⟨-, -, hseparate⟩ := h.conditions (describes_file underscores) hvalid hselection rfl
    exact hseparate ("a", "_b") (mem_cons_self ..) ("a_", "b")
      (mem_cons_of_mem _ (mem_cons_self ..)) (.inl ⟨"_", .inl rfl, rfl, rfl⟩)
  · have hvalid : ∀ node ∈ withOperator.nodes ++ [], node.id.Valid :=
      forall_mem_cons.mpr ⟨rfl, forall_mem_singleton.mpr rfl⟩
    have hselection : ∀ t ∈ ([] : List Topic), t ∈ topicsOf (withOperator.nodes ++ []) := nofun
    intro h
    obtain ⟨-, hlevel, -⟩ := h.conditions describes_withOperator hvalid hselection rfl
    obtain ⟨⟨node, hnode, hid, houtput⟩, -⟩ := hlevel ("runtime", "op/label")
      (mem_cons_of_mem _ (mem_cons_self ..))
    rcases mem_cons.mp hnode with rfl | hnode
    · exact absurd hid (by decide)
    · obtain rfl := mem_singleton.mp hnode
      cases houtput

end DoraSpec.Cli
