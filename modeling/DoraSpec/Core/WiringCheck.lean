import DoraSpec.Core.Resolve

/-!
# What the wiring check decides

The check is meant to return `Ok` exactly on the dataflows in which each input refers to a
declared output, and to report every other dataflow by an error. It panics on a reference to a
runtime node that names no operator, and resolution panics on an operator name that is no data
identifier.
-/

namespace DoraSpec.Core
open Base Base.Text Message Outcome List

/-! ## Declared outputs -/

/-- A custom node lists the output; a runtime node has an operator that lists it, and the
reference is `<operator>/<output>`. -/
def Declares : CoreNodeKind → DataId → Prop
  | .custom node, output => output ∈ node.runConfig.outputs
  | .runtime operators, output => ∃ op ∈ operators, ∃ out ∈ op.config.outputs,
      output.val = joinOnce '/' op.id.val out.val

/-- The output is declared by the first operator of its id, and that id has no slash. -/
def DeclaresPlainly : CoreNodeKind → DataId → Prop
  | .custom node, output => output ∈ node.runConfig.outputs
  | .runtime operators, output => ∃ op out, operators.find? (·.id = op.id) = some op ∧
      '/' ∉ op.id.val.toList ∧ out ∈ op.config.outputs ∧ output.val = joinOnce '/' op.id.val out.val

private theorem DeclaresPlainly.declares {kind : CoreNodeKind} {output : DataId}
    (h : DeclaresPlainly kind output) : Declares kind output := by
  cases kind with
  | custom node => exact h
  | runtime operators =>
    obtain ⟨op, out, hf, -, ho, hv⟩ := h
    exact ⟨op, mem_of_find?_eq_some hf, out, ho, hv⟩

section Inputs

variable (nodes : Std.ExtTreeMap NodeId ResolvedNode) (input : Input)

/-- A user input refers to an output that its source node declares. -/
def RefersToDeclared : Prop :=
  ∀ m, input.mapping = .user m → ∃ n, nodes[m.source]? = some n ∧ Declares n.kind m.output

/-- The source node declares the output plainly. -/
def RefersPlainly : Prop :=
  ∀ m, input.mapping = .user m → ∃ n, nodes[m.source]? = some n ∧ DeclaresPlainly n.kind m.output

/-- The input refers to a runtime node without naming an operator. -/
def NamesNoOperator : Prop :=
  ∃ m n operators, input.mapping = .user m ∧ nodes[m.source]? = some n ∧
    n.kind = .runtime operators ∧ '/' ∉ m.output.val.toList

/-- Every user input of every node and operator refers to a declared output. -/
def Wired : Prop := ∀ i ∈ allInputs nodes, RefersToDeclared nodes i.1

/-- Every resolved node is stored under its id. -/
def KeyedById : Prop := ∀ (id : NodeId) (n : ResolvedNode), nodes[id]? = some n → n.id = id

end Inputs

variable {nodes : Std.ExtTreeMap NodeId ResolvedNode} {input : Input}

private theorem RefersPlainly.refersToDeclared (h : RefersPlainly nodes input) :
    RefersToDeclared nodes input := by
  intro m hm
  obtain ⟨n, hn, hd⟩ := h m hm
  exact ⟨n, hn, hd.declares⟩

/-! ## Looking up the source -/

private theorem keyedById_insert (h : KeyedById nodes) (n : ResolvedNode) :
    KeyedById (nodes.insert n.id n) := by
  intro id m hm
  rw [Std.ExtTreeMap.getElem?_insert] at hm
  split at hm
  · next he =>
    cases hm
    exact Std.LawfulEqOrd.eq_of_compare he
  · exact h id m hm

/-- Collected nodes are under their identifiers. -/
theorem keyedById_collectNodes (l : List ResolvedNode) : KeyedById (collectNodes l) := by
  have hfold : ∀ m : Std.ExtTreeMap NodeId ResolvedNode, KeyedById m →
      KeyedById (l.foldl (fun m n => m.insert n.id n) m) := by
    induction l with
    | nil => exact fun m h => h
    | cons n l ih => exact fun m h => ih _ (keyedById_insert h n)
  exact hfold ∅ (by simp [KeyedById])

private theorem keyedById_of_resolve {dataflow : Descriptor}
    (h : resolveAliasesAndSetDefaults dataflow = .ok nodes) : KeyedById nodes := by
  obtain ⟨l, -, hl⟩ := bind_eq_ok.mp h
  cases hl
  exact keyedById_collectNodes l

private theorem find_nodeValues (h : KeyedById nodes) (source : NodeId) :
    (nodeValues nodes).find? (·.id = source) = nodes[source]? := by
  have hmem : ∀ n ∈ nodeValues nodes, n.id = source → nodes[source]? = some n := by
    intro n hn hs
    obtain ⟨⟨id, n'⟩, he, rfl⟩ := mem_map.mp hn
    have hg := Std.ExtTreeMap.mem_toList_iff_getElem?_eq_some.mp he
    rwa [← hs, h id n' hg]
  cases hg : nodes[source]? with
  | none =>
    rw [List.find?_eq_none]
    intro n hn hs
    rw [hmem n hn (by simpa using hs)] at hg
    cases hg
  | some n =>
    have hn : n ∈ nodeValues nodes :=
      mem_map.mpr ⟨(source, n), Std.ExtTreeMap.mem_toList_iff_getElem?_eq_some.mpr hg, rfl⟩
    obtain ⟨n', hf⟩ : ∃ n', (nodeValues nodes).find? (·.id = source) = some n' :=
      Option.isSome_iff_exists.mp (List.find?_isSome.mpr ⟨n, hn, by simpa using h source n hg⟩)
    have hn' := hmem n' (mem_of_find?_eq_some hf) (by simpa using List.find?_some hf)
    rw [hf, ← hn', hg]

/-! ## One input -/

private theorem hasDoubleSlash_append (front back : List Char)
    (h : hasDoubleSlash (front ++ back) = false) : hasDoubleSlash back = false := by
  induction front with
  | nil => exact h
  | cons c front ih =>
    apply ih
    cases hr : front ++ back with
    | nil => rfl
    | cons d rest =>
      rw [cons_append, hr] at h
      simp only [hasDoubleSlash, Bool.or_eq_false_iff] at h
      exact h.2

private theorem validateDataId_of_splitOnce {id : DataId} {front back : String}
    (h : splitOnce '/' id.val = some (front, back)) : validateDataId back = .ok () := by
  obtain ⟨hj, -⟩ := splitOnce_eq_some h
  obtain ⟨-, hc, -, hlast, hd⟩ := validateDataId_eq_ok.mp id.valid
  rw [hj, toList_joinOnce] at hc hlast hd
  have hd' := hasDoubleSlash_append front.toList _ hd
  rw [validateDataId_eq_ok]
  cases hb : back.toList with
  | nil => simp [hb] at hlast
  | cons b rest =>
    rw [hb] at hc hlast hd'
    simp only [hasDoubleSlash, Bool.or_eq_false_iff, Bool.and_eq_false_iff] at hd'
    refine ⟨cons_ne_nil b rest, fun c hm => hc c ?_, ?_, ?_, hd'.2⟩
    · exact mem_append_right _ (mem_cons_of_mem _ hm)
    · simpa using hd'.1
    · rwa [getLast?_append_cons, getLast?_cons_cons] at hlast

private theorem from_splitOnce {id : DataId} {front back : String}
    (h : splitOnce '/' id.val = some (front, back)) :
    ∃ out : DataId, out.val = back ∧ (DataId.from back : Outcome String DataId) = .ok out := by
  have hv := validateDataId_of_splitOnce h
  rcases DataId.from_cases (ε := String) back with ⟨hb, he⟩ | ⟨-, hn⟩
  · exact ⟨⟨back, hb⟩, rfl, he⟩
  · exact absurd hv hn

private theorem from_empty_panics : (DataId.from "" : Outcome String DataId).Panics := by
  rcases DataId.from_cases (ε := String) "" with ⟨h, -⟩ | ⟨h, -⟩
  · exact absurd rfl (validateDataId_eq_ok.mp h).1
  · exact h

private theorem checkOutput_eq_ok (m : UserInputMapping) (name : String) (kind : CoreNodeKind) :
    checkOutput m name kind = .ok () ↔ DeclaresPlainly kind m.output := by
  cases kind with
  | custom node =>
    simp only [checkOutput, DeclaresPlainly]
    split <;> simp_all
  | runtime operators =>
    simp only [checkOutput, DeclaresPlainly]
    cases hs : splitOnce '/' m.output.val with
    | none =>
      constructor
      · intro h
        obtain ⟨out, ho, -⟩ := bind_eq_ok.mp h
        have hp := from_empty_panics
        rw [show (DataId.from "" : Outcome String DataId) = .ok out from ho] at hp
        exact absurd hp id
      · rintro ⟨op, out, -, -, -, hv⟩
        exact absurd (by simp [hv, toList_joinOnce]) (splitOnce_eq_none.mp hs)
    | some parts =>
      obtain ⟨front, back⟩ := parts
      obtain ⟨out, hout, hfrom⟩ := from_splitOnce hs
      obtain ⟨hj, hf⟩ := splitOnce_eq_some hs
      simp only [Option.getD_some, hfrom, ok_bind, bind_eq_ok, okOr_eq_ok]
      constructor
      · rintro ⟨op, hop, hmem⟩
        have hid : op.id = ⟨front⟩ := by simpa using List.find?_some hop
        refine ⟨op, out, by rwa [hid], by rwa [hid], ?_, by rw [hid, hout, hj]⟩
        by_contra hn
        simp [hn] at hmem
      · rintro ⟨op, out', hop, hsl, hmem, hv⟩
        obtain ⟨he, hb⟩ := joinOnce_inj hf hsl (hj.symm.trans hv)
        have hid : op.id = ⟨front⟩ := congrArg OperatorId.mk he.symm
        have ho : out' = out := DataId.ext (hb.symm.trans hout.symm)
        exact ⟨op, by simpa only [hid] using hop, if_pos (ho ▸ hmem)⟩

private theorem checkOutput_panics (m : UserInputMapping) (name : String) (kind : CoreNodeKind) :
    (checkOutput m name kind).Panics ↔
      ∃ operators, kind = .runtime operators ∧ '/' ∉ m.output.val.toList := by
  cases kind with
  | custom node =>
    simp only [checkOutput]
    split <;> simp [Outcome.Panics]
  | runtime operators =>
    simp only [checkOutput, CoreNodeKind.runtime.injEq, exists_eq_left', ← splitOnce_eq_none]
    cases hs : splitOnce '/' m.output.val with
    | none => exact iff_of_true (from_empty_panics.bind _) rfl
    | some parts =>
      obtain ⟨out, -, hfrom⟩ := from_splitOnce hs
      refine iff_of_false ?_ (by simp)
      simp only [Option.getD_some, hfrom, ok_bind, bind_panics]
      rintro (h | ⟨op, -, h⟩)
      · exact okOr_not_panics _ _ h
      · split at h <;> exact h

private theorem checkInput_eq_ok (hk : KeyedById nodes) (name : String) :
    checkInput input nodes name = .ok () ↔ RefersPlainly nodes input := by
  unfold checkInput RefersPlainly
  cases input.mapping with
  | timer | logs => simp
  | user m => simp [bind_eq_ok, okOr_eq_ok, find_nodeValues hk, checkOutput_eq_ok]

private theorem checkInput_panics (hk : KeyedById nodes) (name : String) :
    (checkInput input nodes name).Panics ↔ NamesNoOperator nodes input := by
  unfold checkInput NamesNoOperator
  cases input.mapping with
  | timer | logs => simp [Outcome.Panics]
  | user m =>
    simp [bind_panics, okOr_eq_ok, okOr_not_panics, find_nodeValues hk,
      checkOutput_panics]

/-! ## Resolution -/

section Aliases

variable (ops : NodeId → Option OperatorId)

/-- The long form of the reference is no data identifier. -/
def BadAlias (input : Input) : Prop :=
  ∃ m op, input.mapping = .user m ∧ ops m.source = some op ∧
    validateDataId (joinOnce '/' op.val m.output.val) ≠ .ok ()

/-- Inputs whose references resolution rewrites once the kind of the node is known. -/
def kindInputs : NodeKindMut → Inputs
  | .standard _ _ inputs => inputs
  | .runtime operators => operators.flatMap (·.config.inputs)
  | .custom node => node.runConfig.inputs
  | .operator op => op.config.inputs
  | .ros2Bridge _ => []

/-- Some reference that resolution reaches in the node has a bad long form. -/
def HasBadAlias (node : Node) : Prop :=
  (node.ros2.isSome ∧ ∃ i ∈ node.inputs, BadAlias ops i.2) ∨
    ∃ k, nodeKindMut node = .ok k ∧ ∃ i ∈ kindInputs k, BadAlias ops i.2

private theorem resolveMapping_neverErrs (mapping : InputMapping) :
    (resolveMapping ops mapping).NeverErrs := by
  cases mapping with
  | timer | logs => exact neverErrs_ok _
  | user m =>
    rw [resolveMapping]
    split
    · exact neverErrs_ok _
    · rcases DataId.from_cases (ε := String) (joinOnce '/' _ m.output.val) with ⟨h, he⟩ | ⟨h, -⟩
      · rw [he]
        exact neverErrs_ok _
      · exact .inl (h.bind _)

private theorem resolveMapping_panics (input : Input) :
    (resolveMapping ops input.mapping).Panics ↔ BadAlias ops input := by
  unfold BadAlias
  cases input.mapping with
  | timer | logs => simp [resolveMapping, Outcome.Panics]
  | user m =>
    rw [resolveMapping]
    split
    · next ho => simp [ho, Outcome.Panics]
    · next op ho =>
      rcases DataId.from_cases (ε := String) (joinOnce '/' op.val m.output.val) with
        ⟨h, he⟩ | ⟨h, hn⟩
      · simp [he, ho, h, Outcome.Panics]
      · simp [h.bind, ho, hn]

private theorem resolveInput_neverErrs (entry : DataId × Input) :
    (resolveInput ops entry).NeverErrs :=
  (resolveMapping_neverErrs ops entry.2.mapping).bind_ok _

private theorem resolveInputs_neverErrs (inputs : Inputs) :
    (resolveInputs ops inputs).NeverErrs :=
  .mapM (resolveInput_neverErrs ops) inputs

private theorem resolveInputs_panics (inputs : Inputs) :
    (resolveInputs ops inputs).Panics ↔ ∃ i ∈ inputs, BadAlias ops i.2 := by
  rw [resolveInputs, mapM_panics_of_neverErrs (resolveInput_neverErrs ops)]
  simp only [resolveInput, pure_eq_ok, bind_ok_panics, resolveMapping_panics]

private theorem resolveOperator_neverErrs (op : OperatorDefinition) :
    (resolveOperator ops op).NeverErrs :=
  (resolveInputs_neverErrs ops op.config.inputs).bind_ok _

private theorem resolveOperator_panics (op : OperatorDefinition) :
    (resolveOperator ops op).Panics ↔ ∃ i ∈ op.config.inputs, BadAlias ops i.2 := by
  rw [← resolveInputs_panics]
  exact bind_ok_panics

private theorem resolveKind_neverErrs (node : Node) (k : NodeKindMut) :
    (resolveKind ops node k).NeverErrs := by
  cases k with
  | standard path source inputs =>
    exact (resolveInputs_neverErrs ops inputs).bind_ok _
  | runtime operators =>
    exact (Outcome.NeverErrs.mapM (resolveOperator_neverErrs ops) operators).bind_ok _
  | custom custom =>
    exact (resolveInputs_neverErrs ops custom.runConfig.inputs).bind_ok _
  | operator op => exact (resolveOperator_neverErrs ops _).bind_ok _
  | ros2Bridge config => exact neverErrs_ok _

private theorem resolveKind_panics (node : Node) (k : NodeKindMut) :
    (resolveKind ops node k).Panics ↔ ∃ i ∈ kindInputs k, BadAlias ops i.2 := by
  cases k with
  | standard | custom =>
    rw [kindInputs, ← resolveInputs_panics]
    exact bind_ok_panics
  | runtime operators =>
    refine bind_ok_panics.trans ?_
    rw [mapM_panics_of_neverErrs (resolveOperator_neverErrs ops)]
    simp only [resolveOperator_panics, kindInputs, mem_flatMap]
    constructor
    · rintro ⟨op, hop, i, hi, hb⟩
      exact ⟨i, ⟨op, hop, hi⟩, hb⟩
    · rintro ⟨i, ⟨op, hop, hi⟩, hb⟩
      exact ⟨op, hop, i, hi, hb⟩
  | operator op =>
    refine bind_ok_panics.trans ?_
    rw [resolveOperator_panics, kindInputs]
  | ros2Bridge config => simp [resolveKind, kindInputs, Outcome.Panics]

/-- A node with a bridge configuration is a bridge or no valid node, whatever its inputs. -/
theorem nodeKindMut_of_ros2 {node : Node} (h : node.ros2.isSome) (inputs : Inputs) :
    nodeKindMut { node with inputs } = nodeKindMut node := by
  obtain ⟨config, hc⟩ := Option.isSome_iff_exists.mp h
  unfold nodeKindMut
  have hk : kind { node with inputs } = kind node := rfl
  rw [hk]
  cases hr : kind node with
  | error e => rfl
  | ok k =>
    cases k with
    | standard path => simp [kind, hc] at hr; grind
    | _ => rfl

variable (global : Option EnvVars)

private theorem resolveByKind_panics (node : Node) :
    (resolveByKind ops global node).Panics ↔
      ∃ k, nodeKindMut node = .ok k ∧ ∃ i ∈ kindInputs k, BadAlias ops i.2 := by
  simp [resolveByKind, bind_panics, ofExcept_eq_ok,
    ofExcept_not_panics, resolveKind_panics]

private theorem resolveByKind_returns (node : Node) :
    (∃ n, resolveByKind ops global node = .ok n) ↔
      ∃ k, nodeKindMut node = .ok k ∧ ¬ ∃ i ∈ kindInputs k, BadAlias ops i.2 := by
  simp only [resolveByKind, bind_eq_ok, ofExcept_eq_ok, ← resolveKind_panics ops node,
    ← (resolveKind_neverErrs ops node _).returns_iff, pure_eq_ok, Outcome.ok.injEq]
  constructor
  · rintro ⟨n, k, hk, c, hc, -⟩
    exact ⟨k, hk, c, hc⟩
  · rintro ⟨k, hk, c, hc⟩
    exact ⟨_, k, hk, c, hc, rfl⟩

private theorem resolveBridgeInputs_cases (node : Node) :
    (resolveBridgeInputs ops node).Panics ∧
        (node.ros2.isSome ∧ ∃ i ∈ node.inputs, BadAlias ops i.2) ∨
      ∃ node', resolveBridgeInputs ops node = .ok node' ∧
        nodeKindMut node' = nodeKindMut node ∧
        ¬ (node.ros2.isSome ∧ ∃ i ∈ node.inputs, BadAlias ops i.2) := by
  unfold resolveBridgeInputs
  split
  · next h =>
    simp only [h, true_and, ← resolveInputs_panics]
    rcases resolveInputs_neverErrs ops node.inputs with hp | ⟨inputs, hi⟩
    · exact .inl ⟨hp.bind _, hp⟩
    · exact .inr ⟨_, by rw [hi]; rfl, nodeKindMut_of_ros2 h inputs, by simp [hi]⟩
  · next h => exact .inr ⟨node, rfl, rfl, fun hb => h hb.1⟩

private theorem resolveNode_panics (node : Node) :
    (resolveNode ops global node).Panics ↔ HasBadAlias ops node := by
  unfold resolveNode HasBadAlias
  rcases resolveBridgeInputs_cases ops node with ⟨hp, hb⟩ | ⟨node', hn, hk, hb⟩
  · exact iff_of_true (hp.bind _) (.inl hb)
  · rw [hn, ok_bind, resolveByKind_panics, hk, or_iff_right hb]

private theorem resolveNode_returns (node : Node) :
    (∃ n, resolveNode ops global node = .ok n) ↔
      (∃ k, nodeKindMut node = .ok k) ∧ ¬ HasBadAlias ops node := by
  unfold resolveNode HasBadAlias
  rcases resolveBridgeInputs_cases ops node with ⟨hp, hb⟩ | ⟨node', hn, hk, hb⟩
  · apply iff_of_false
    · rintro ⟨n, h⟩
      have := hp.bind (resolveByKind ops global)
      rw [h] at this
      exact this
    · exact fun h => h.2 (.inl hb)
  · rw [hn, ok_bind, resolveByKind_returns, hk, or_iff_right hb]
    constructor
    · rintro ⟨k, hk, hn⟩
      refine ⟨⟨k, hk⟩, ?_⟩
      rintro ⟨k', hk', hb'⟩
      rw [hk] at hk'
      cases hk'
      exact hn hb'
    · rintro ⟨⟨k, hk⟩, hn⟩
      exact ⟨k, hk, fun hb' => hn ⟨k, hk, hb'⟩⟩

end Aliases

/-! ## The check of a dataflow -/

/-- What the check is for: it ends with a verdict, and accepts exactly the wired dataflows. -/
def DecidesWiring (dataflow : Descriptor) : Prop :=
  ¬ (checkWiring dataflow).Panics ∧
    ∀ nodes, resolveAliasesAndSetDefaults dataflow = .ok nodes →
      (checkWiring dataflow = .ok () ↔ Wired nodes)

/-- No reference that resolution reaches has a bad long form: the first node that has one comes
after a node that resolution rejects. -/
def AliasesValid (dataflow : Descriptor) : Prop :=
  let ops := singleOperatorNodes dataflow.nodes
  ∀ before n after, dataflow.nodes = before ++ n :: after →
    (∀ b ∈ before, (∃ k, nodeKindMut b = .ok k) ∧ ¬ HasBadAlias ops b) → ¬ HasBadAlias ops n

/-- Every reference to a runtime node that the check reaches names an operator, and if the
dataflow is wired, names it plainly. -/
def OperatorsNamed (nodes : Std.ExtTreeMap NodeId ResolvedNode) : Prop :=
  (∀ before i after, allInputs nodes = before ++ i :: after →
    (∀ b ∈ before, RefersPlainly nodes b.1) → ¬ NamesNoOperator nodes i.1) ∧
  (Wired nodes → ∀ i ∈ allInputs nodes, RefersPlainly nodes i.1)

private theorem resolve_panics (dataflow : Descriptor) :
    (resolveAliasesAndSetDefaults dataflow).Panics ↔ ¬ AliasesValid dataflow := by
  refine bind_ok_panics.trans ?_
  rw [mapM_panics]
  unfold Outcome.FirstPanics AliasesValid
  simp only [resolveNode_returns, resolveNode_panics]
  push Not
  rfl

private theorem checkInputs_panics (hk : KeyedById nodes) :
    ((allInputs nodes).forM fun i => checkInput i.1 nodes i.2).Panics ↔
      ∃ before i after, allInputs nodes = before ++ i :: after ∧
        (∀ b ∈ before, RefersPlainly nodes b.1) ∧ NamesNoOperator nodes i.1 := by
  rw [forM_panics]
  unfold Outcome.FirstPanics
  have hok : ∀ b : Input × String,
      (∃ c, checkInput b.1 nodes b.2 = .ok c) ↔ RefersPlainly nodes b.1 := by
    intro b
    rw [← checkInput_eq_ok hk b.2]
    exact ⟨fun ⟨_, h⟩ => h, fun h => ⟨(), h⟩⟩
  simp only [hok, checkInput_panics hk]

private theorem checkInputs_eq_ok (hk : KeyedById nodes) :
    ((allInputs nodes).forM fun i => checkInput i.1 nodes i.2) = .ok () ↔
      ∀ i ∈ allInputs nodes, RefersPlainly nodes i.1 := by
  refine forM_eq_ok.trans ?_
  simp only [checkInput_eq_ok hk]

/-- The wiring check decides the wiring of a dataflow exactly when no reference that it reaches
gives an invalid data identifier, and no operator hides the one that declares an output. -/
theorem checkWiring_decides_iff (dataflow : Descriptor) :
    DecidesWiring dataflow ↔ AliasesValid dataflow ∧
      ∀ nodes, resolveAliasesAndSetDefaults dataflow = .ok nodes → OperatorsNamed nodes := by
  have hp := resolve_panics dataflow
  unfold DecidesWiring checkWiring
  cases hr : resolveAliasesAndSetDefaults dataflow with
  | panic message =>
    rw [hr] at hp
    exact iff_of_false (fun h => h.1 True.intro) (fun h => hp.mp True.intro h.1)
  | err e =>
    rw [hr] at hp
    exact iff_of_true ⟨id, nofun⟩ ⟨not_not.mp (mt hp.mpr id), nofun⟩
  | ok nodes =>
    rw [hr] at hp
    have ha : AliasesValid dataflow := not_not.mp (mt hp.mpr id)
    have hk := keyedById_of_resolve hr
    simp only [ok_bind, Outcome.ok.injEq, forall_eq', ha, true_and,
      checkInputs_panics hk, checkInputs_eq_ok hk, OperatorsNamed]
    push Not
    refine and_congr Iff.rfl ⟨fun h => h.mpr, fun h => ⟨fun hall i hi => ?_, h⟩⟩
    exact (hall i hi).refersToDeclared

/-! ## A reference without an operator -/

/-- A runtime node with one operator, and a node that takes `camera/image` from it. -/
def bareReference : Descriptor where
  nodes := [
    { id := ⟨"camera"⟩, operators := some [⟨⟨"grab"⟩, { outputs := [⟨"image", by decide⟩] }⟩] },
    { id := ⟨"plot"⟩, path := some "plot.py",
      inputs := [(⟨"image", by decide⟩, { mapping := .user ⟨⟨"camera"⟩, ⟨"image", by decide⟩⟩ })] }]

/-- The dataflow is well formed, and the check panics where it should report that the output
does not exist. -/
theorem bareReference_not_decided :
    (∀ n ∈ bareReference.nodes, n.id.Valid) ∧ ¬ DecidesWiring bareReference :=
  ⟨by decide, fun h => h.1 (by decide)⟩

end DoraSpec.Core
