import Mathlib.Data.List.Chain
import Mathlib.Data.List.Nodup
import DoraSpec.Core.ModuleReferences

/-!
# Names in nested scopes

A scope and the scopes around it are listed from the inside out. The flat identifiers of the nodes
of a scope are among those of the scope around it, and longer than the identifier of the module. So
a reference that is pointed at a producer by a scope it does not belong to never gets to a node that
it stands for in its own scope.
-/

namespace DoraSpec.Core.Expand
open Message List

/-- Identifier of an item in its scope. -/
def Item.id : Item → String
  | .plain node => node.id.val
  | .module node _ _ _ => node.id.val

/-- Flat identifiers of the plain nodes of an item. -/
def Item.nodeIds (scope : Option String) (item : Item) : List String :=
  (item.named scope).map (·.1)

/-- Nodes that give an output to the scope around an item: a plain node its own, and a module the
declared ones of the items inside. -/
def Item.providers (scope : Option String) (output : DataId) : Item → List String
  | .plain node => if output ∈ node.outputs then [qualifyIn scope node.id.val] else []
  | .module node _ file items =>
    if output ∈ file.module.outputs then
      items.flatMap (Item.providers (some (qualifyIn scope node.id.val)) output)
    else []

/-- Nodes that an item stands for in a reference to an output. -/
def Item.answers (scope : Option String) (output : DataId) : Item → List String
  | .plain node => [qualifyIn scope node.id.val]
  | .module node canonical file items =>
    (Item.module node canonical file items).providers scope output

/-- Nodes of a file, with the flat identifier of the module unless they are at the top level. -/
structure Scope where
  id : Option String
  items : List Item

namespace Scope

/-- Output maps of the modules of the scope. -/
def maps (σ : Scope) : OutputMaps := outputMaps σ.id σ.items

/-- Flat identifiers of the plain nodes of the scope. -/
def region (σ : Scope) : List String := σ.items.flatMap (Item.nodeIds σ.id)

/-- Nodes that a name stands for in a reference to an output. -/
def answers (σ : Scope) (name : String) (output : DataId) : List String :=
  (σ.items.filter (·.id = name)).flatMap (Item.answers σ.id output)

/-- Length that all flat identifiers in the scope have at least. -/
def depth (σ : Scope) : Nat := (σ.id.map (·.length + 1)).getD 0

/-- The scope is the file of a module of the other one. -/
def Inside (σ τ : Scope) : Prop :=
  ∃ node canonical file, Item.module node canonical file σ.items ∈ τ.items ∧
    σ.id = some (qualifyIn τ.id node.id.val)

/-- Scopes from the inside out, with distinct flat identifiers. -/
def Nested (scopes : List Scope) : Prop :=
  scopes.IsChain fun σ τ => σ.Inside τ ∧ τ.region.Nodup

end Scope

/-! ## Identifiers of one scope -/

private theorem length_qualify (moduleId id : String) :
    (qualify moduleId id).length = moduleId.length + 1 + id.length := by
  simp only [← String.length_toList, toList_qualify, length_append, length_cons]
  omega

private theorem Scope.depth_le_length (σ : Scope) (name : String) :
    σ.depth ≤ (qualifyIn σ.id name).length := by
  cases h : σ.id with
  | none => simp [Scope.depth, h]
  | some id => simp [Scope.depth, h, qualifyIn, length_qualify]

variable {σ τ : Scope} {id : String} {m : UserInputMapping} {ids : List String}
  {outer inner : List Scope} {scopes : List Scope} {output : DataId}

private theorem Scope.Inside.depth_lt (h : σ.Inside τ) : τ.depth < σ.depth := by
  obtain ⟨node, canonical, file, -, hid⟩ := h
  have := τ.depth_le_length node.id.val
  simp only [Scope.depth, hid, Option.map_some, Option.getD_some] at this ⊢
  omega

private theorem providers_subset {scope : Option String} {item : Item}
    (h : id ∈ item.providers scope output) : id ∈ item.nodeIds scope := by
  match item with
  | .plain node =>
    rw [Item.providers] at h
    split at h
    · simpa [Item.nodeIds, Item.named] using h
    · cases h
  | .module node canonical file items =>
    rw [Item.providers] at h
    split at h
    · obtain ⟨inner, hinner, h⟩ := mem_flatMap.mp h
      obtain ⟨e, he, rfl⟩ := mem_map.mp (providers_subset h)
      rw [Item.nodeIds, Item.named]
      exact mem_map_of_mem (mem_flatMap.mpr ⟨inner, hinner, he⟩)
    · cases h

private theorem Scope.mem_answers {name : String} (h : id ∈ σ.answers name output) :
    ∃ item ∈ σ.items, item.id = name ∧ id ∈ item.nodeIds σ.id := by
  obtain ⟨item, hitem, h⟩ := mem_flatMap.mp h
  obtain ⟨hitem, hname⟩ := mem_filter.mp hitem
  refine ⟨item, hitem, by simpa using hname, ?_⟩
  cases item with
  | plain node => simpa [Item.answers, Item.nodeIds, Item.named] using h
  | module node canonical file items => exact providers_subset h

private theorem Scope.eq_of_mem_nodeIds (hnodup : σ.region.Nodup) {a b : Item} (ha : a ∈ σ.items)
    (hb : b ∈ σ.items) (hida : id ∈ a.nodeIds σ.id) (hidb : id ∈ b.nodeIds σ.id) : a = b := by
  by_contra hne
  have hsymm : Std.Symm (Function.onFun List.Disjoint (Item.nodeIds σ.id)) :=
    ⟨fun _ _ h _ ha hb => h hb ha⟩
  exact (nodup_flatMap.mp hnodup).2.forall ha hb hne hida hidb

private theorem length_lt_of_mem_named {moduleId : String} {item : Item} {e : String × Node}
    (h : e ∈ item.named (some moduleId)) : moduleId.length < e.1.length := by
  match item with
  | .plain node =>
    rw [Item.named, mem_singleton] at h
    subst h
    simp only [qualifyIn, length_qualify]
    omega
  | .module node canonical file items =>
    rw [Item.named] at h
    obtain ⟨inner, hinner, h⟩ := mem_flatMap.mp h
    have := length_lt_of_mem_named h
    simp only [qualifyIn, length_qualify] at this
    omega

/-- What a scope points a reference at. -/
theorem Scope.producer_eq_some (h : producer σ.maps m = some id) :
    ∃ item ∈ σ.items, qualifyIn σ.id item.id = m.source.val ∧ id ∈ item.nodeIds σ.id ∧
      m.source.val.length < id.length := by
  obtain ⟨node, canonical, file, inner, hitem, hsource, e, he, -, rfl⟩ := mem_named_of_producer h
  refine ⟨_, hitem, hsource, mem_map_of_mem he, ?_⟩
  rw [Item.named] at he
  obtain ⟨_, -, he⟩ := mem_flatMap.mp he
  have := length_lt_of_mem_named he
  rwa [hsource] at this

private theorem Scope.mem_region {item : Item} (hitem : item ∈ σ.items)
    (hid : id ∈ item.nodeIds σ.id) :
    id ∈ σ.region :=
  mem_flatMap.mpr ⟨item, hitem, hid⟩

/-- Answers are in the region of the scope. -/
theorem Scope.answers_subset (σ : Scope) (name : String) (output : DataId) :
    σ.answers name output ⊆ σ.region := by
  intro id hid
  obtain ⟨item, hitem, -, hid⟩ := Scope.mem_answers hid
  exact σ.mem_region hitem hid

/-! ## Nested scopes -/

private theorem Scope.Inside.exists_item (h : σ.Inside τ) :
    ∃ item ∈ τ.items, item.nodeIds τ.id = σ.region ∧
      σ.depth = (qualifyIn τ.id item.id).length + 1 := by
  obtain ⟨node, canonical, file, hitem, hid⟩ := h
  refine ⟨_, hitem, ?_, by simp [Scope.depth, hid, Item.id]⟩
  rw [Item.nodeIds, Item.named, ← hid, map_flatMap]
  rfl

private theorem Scope.Inside.region_subset (h : σ.Inside τ) : σ.region ⊆ τ.region := by
  obtain ⟨item, hitem, hregion, -⟩ := h.exists_item
  exact fun id hid => τ.mem_region hitem (hregion ▸ hid)

/-- Inner regions have no repetitions either. -/
theorem Scope.Inside.nodup (h : σ.Inside τ) (hnodup : τ.region.Nodup) :
    σ.region.Nodup := by
  obtain ⟨item, hitem, hregion, -⟩ := h.exists_item
  exact hregion ▸ (nodup_flatMap.mp hnodup).1 item hitem

/-- A reference as the scopes leave it. -/
def resolve (scopes : List Scope) (m : UserInputMapping) : UserInputMapping :=
  chaseRef (scopes.map Scope.maps) m

/-- The innermost scope that has the name for a module output gives one of the nodes for it, and no
scope further out has that node's name for a module output. A name that no scope has for one is
itself one of the nodes. -/
def Found (ids : List String) : List Scope → UserInputMapping → Prop
  | [], m => m.source.val ∈ ids
  | σ :: scopes, m =>
    match producer σ.maps m with
    | none => Found ids scopes m
    | some id => id ∈ ids ∧ ∀ τ ∈ scopes, producer τ.maps { m with source := ⟨id⟩ } = none

private theorem resolve_cons_none (h : producer σ.maps m = none) (scopes : List Scope) :
    resolve (σ :: scopes) m = resolve scopes m := by
  change chaseRef _ (retargetRef σ.maps m) = _
  simp [retargetRef, h, resolve]

private theorem resolve_cons_some (h : producer σ.maps m = some id) (scopes : List Scope) :
    resolve (σ :: scopes) m = resolve scopes { m with source := ⟨id⟩ } := by
  change chaseRef _ (retargetRef σ.maps m) = _
  simp [retargetRef, h, resolve]

private theorem resolve_append (inner outer : List Scope) (m : UserInputMapping) :
    resolve (inner ++ outer) m = resolve outer (resolve inner m) := by
  simp [resolve, chaseRef]

private theorem resolve_eq_self (h : ∀ σ ∈ scopes, producer σ.maps m = none) :
    resolve scopes m = m := by
  induction scopes with
  | nil => rfl
  | cons σ scopes ih =>
    rw [resolve_cons_none (h σ mem_cons_self)]
    exact ih fun τ hτ => h τ (mem_cons_of_mem _ hτ)

/-- Outputs are kept. -/
@[simp] theorem resolve_output (scopes : List Scope) (m : UserInputMapping) :
    (resolve scopes m).output = m.output := by
  induction scopes generalizing m with
  | nil => rfl
  | cons σ scopes ih =>
    cases h : producer σ.maps m with
    | none => rw [resolve_cons_none h, ih]
    | some id => rw [resolve_cons_some h, ih]

/-- A reference that is found leads to a node. -/
theorem Found.resolve_mem (h : Found ids scopes m) :
    (resolve scopes m).source.val ∈ ids := by
  induction scopes with
  | nil => exact h
  | cons σ scopes ih =>
    rw [Found] at h
    split at h
    · next hnone => exact resolve_cons_none hnone scopes ▸ ih h
    · next id hsome =>
      rw [resolve_cons_some hsome, resolve_eq_self h.2]
      exact h.1

/-- A reference whose source is in a scope is left alone by the scopes further out, or leaves the
scope for good. -/
theorem Scope.Nested.resolve_eq_or_notMem (hchain : Scope.Nested (σ :: outer))
    (hm : σ.depth ≤ m.source.val.length) :
    (∀ τ ∈ outer, producer τ.maps m = none) ∨ (resolve outer m).source.val ∉ σ.region := by
  induction outer generalizing σ m with
  | nil => exact .inl (by simp)
  | cons τ outer ih =>
    obtain ⟨⟨hin, hnodup⟩, hchain⟩ := isChain_cons_cons.mp hchain
    have hdepth := hin.depth_lt
    cases hτ : producer τ.maps m with
    | none =>
      rw [resolve_cons_none hτ]
      refine (ih hchain (m := m) (by omega)).imp (fun h => by simpa [hτ] using h) fun h hc => ?_
      exact h (hin.region_subset hc)
    | some id =>
      obtain ⟨item, hitem, hkey, hid, hlt⟩ := Scope.producer_eq_some hτ
      rw [resolve_cons_some hτ]
      refine .inr fun hc => ?_
      obtain hnone | hout := ih hchain (m := { m with source := ⟨id⟩ }) (by dsimp only; omega)
      · -- the producer is in the module that the name stands for, and the scope is in a longer one
        rw [resolve_eq_self hnone] at hc
        obtain ⟨around, haround, hregion, hlen⟩ := hin.exists_item
        obtain rfl := Scope.eq_of_mem_nodeIds hnodup hitem haround hid (hregion ▸ hc)
        rw [hkey] at hlen
        omega
      · exact hout (hin.region_subset hc)

private theorem Scope.Nested.found_of_resolve_mem (hchain : Scope.Nested scopes)
    (hids : ∀ σ ∈ scopes, ids ⊆ σ.region) (h : (resolve scopes m).source.val ∈ ids) :
    Found ids scopes m := by
  induction scopes with
  | nil => exact h
  | cons σ scopes ih =>
    rw [Found]
    split
    · next hnone =>
      rw [resolve_cons_none hnone] at h
      exact ih hchain.of_cons (fun τ hτ => hids τ (mem_cons_of_mem _ hτ)) h
    · next id hsome =>
      obtain ⟨item, hitem, hkey, hid, hlt⟩ := Scope.producer_eq_some hsome
      have hdepth := σ.depth_le_length item.id
      rw [hkey] at hdepth
      rw [resolve_cons_some hsome] at h
      obtain hnone | hout := hchain.resolve_eq_or_notMem (m := { m with source := ⟨id⟩ })
        (by dsimp only; omega)
      · rw [resolve_eq_self hnone] at h
        exact ⟨h, hnone⟩
      · exact absurd (hids σ mem_cons_self h) hout

private theorem exists_item_of_mem_region (hchain : Scope.Nested (τ :: (inner ++ σ :: outer)))
    (hm : m.source.val ∈ τ.region) :
    σ.region.Nodup ∧ ∃ item ∈ σ.items, (resolve inner m).source.val ∈ item.nodeIds σ.id ∧
      (qualifyIn σ.id item.id).length < τ.depth ∧
      m.source.val.length ≤ (resolve inner m).source.val.length := by
  induction inner generalizing τ m with
  | nil =>
    obtain ⟨hin, hnodup⟩ := (isChain_cons_cons.mp hchain).1
    obtain ⟨item, hitem, hregion, hlen⟩ := hin.exists_item
    exact ⟨hnodup, item, hitem, hregion ▸ hm, by omega, le_rfl⟩
  | cons υ inner ih =>
    obtain ⟨⟨hin, -⟩, hchain⟩ := isChain_cons_cons.mp hchain
    have hdepth := hin.depth_lt
    cases hυ : producer υ.maps m with
    | none =>
      obtain ⟨hnodup, item, hitem, hmem, hlt, hle⟩ := ih hchain (hin.region_subset hm)
      rw [resolve_cons_none hυ]
      exact ⟨hnodup, item, hitem, hmem, by omega, hle⟩
    | some id =>
      obtain ⟨inside, hinside, -, hid, hlong⟩ := Scope.producer_eq_some hυ
      obtain ⟨hnodup, item, hitem, hmem, hlt, hle⟩ :=
        ih (m := { m with source := ⟨id⟩ }) hchain (υ.mem_region hinside hid)
      rw [resolve_cons_some hυ]
      exact ⟨hnodup, item, hitem, hmem, by omega, by dsimp only at hle; omega⟩

/-- A reference that a scope further inside points at a producer ends up in the module that holds
the scope, and this is not the one that the reference names. -/
theorem exists_item_of_hit (hchain : Scope.Nested (inner ++ σ :: outer))
    (hit : ∃ τ ∈ inner, producer τ.maps m ≠ none) :
    σ.region.Nodup ∧ ∃ item ∈ σ.items, (resolve inner m).source.val ∈ item.nodeIds σ.id ∧
      (qualifyIn σ.id item.id).length < m.source.val.length ∧
      m.source.val.length < (resolve inner m).source.val.length := by
  induction inner with
  | nil => simp at hit
  | cons τ inner ih =>
    cases hτ : producer τ.maps m with
    | none =>
      rw [resolve_cons_none hτ]
      exact ih hchain.of_cons (by simpa [hτ] using hit)
    | some id =>
      obtain ⟨inside, hinside, hkey, hid, hlong⟩ := Scope.producer_eq_some hτ
      have hdepth := τ.depth_le_length inside.id
      rw [hkey] at hdepth
      obtain ⟨hnodup, item, hitem, hmem, hlt, hle⟩ :=
        exists_item_of_mem_region (m := { m with source := ⟨id⟩ }) hchain
          (τ.mem_region hinside hid)
      rw [resolve_cons_some hτ]
      exact ⟨hnodup, item, hitem, hmem, by omega, by dsimp only at hle; omega⟩

/-- Scopes without the name do not count. -/
theorem found_append (h : ∀ τ ∈ inner, producer τ.maps m = none) (ids : List String)
    (outer : List Scope) :
    Found ids (inner ++ outer) m ↔ Found ids outer m := by
  induction inner with
  | nil => rfl
  | cons τ inner ih =>
    rw [cons_append, Found, h τ mem_cons_self]
    exact ih fun υ hυ => h υ (mem_cons_of_mem _ hυ)

/-- Scopes further out have larger regions. -/
theorem Scope.Nested.region_subset (hchain : Scope.Nested (σ :: outer)) :
    ∀ τ ∈ σ :: outer, σ.region ⊆ τ.region := by
  induction outer generalizing σ with
  | nil => simp
  | cons υ outer ih =>
    obtain ⟨⟨hin, -⟩, hchain⟩ := isChain_cons_cons.mp hchain
    intro τ hτ
    rcases mem_cons.mp hτ with rfl | hτ
    · exact List.Subset.refl _
    · exact List.Subset.trans hin.region_subset (ih hchain τ hτ)

/-- Reaching a node of the innermost scope takes a single step. -/
theorem Scope.Nested.found_of_head (hchain : Scope.Nested (σ :: outer)) (hids : ids ⊆ σ.region)
    (h : (resolve (σ :: outer) m).source.val ∈ ids) :
    Found ids (σ :: outer) m :=
  hchain.found_of_resolve_mem (fun τ hτ => List.Subset.trans hids (hchain.region_subset τ hτ)) h

/-- Reaching a node of a scope from inside modules that leave the reference alone takes a single
step. -/
theorem Scope.Nested.found_of_no_hit (hchain : Scope.Nested (inner ++ σ :: outer))
    (hinner : ∀ τ ∈ inner, producer τ.maps m = none) (hids : ids ⊆ σ.region)
    (h : (resolve (inner ++ σ :: outer) m).source.val ∈ ids) :
    Found ids (inner ++ σ :: outer) m := by
  have houter : Scope.Nested (σ :: outer) := (isChain_append.mp hchain).2.1
  rw [resolve_append, resolve_eq_self hinner] at h
  rw [found_append hinner]
  exact houter.found_of_head hids h

/-- Reaching a node that a name of a scope stands for takes a single step, also from further
inside. -/
theorem Scope.Nested.found_of_answers (hchain : Scope.Nested (inner ++ σ :: outer)) {name : String}
    (hname : m.source.val = qualifyIn σ.id name)
    (h : (resolve (inner ++ σ :: outer) m).source.val ∈ σ.answers name output) :
    Found (σ.answers name output) (inner ++ σ :: outer) m := by
  have hregion := σ.answers_subset name output
  by_cases hit : ∃ τ ∈ inner, producer τ.maps m ≠ none
  · -- some other item of the scope holds the node that the reference gets to, inside or here
    obtain ⟨hnodup, item, hitem, hmem, hlt, hlong⟩ := exists_item_of_hit hchain hit
    have houter : Scope.Nested (σ :: outer) := (isChain_append.mp hchain).2.1
    have hdepth := σ.depth_le_length item.id
    have hother {id : String} {item' : Item} (hitem' : item' ∈ σ.items)
        (hid : id ∈ item'.nodeIds σ.id)
        (hne : (qualifyIn σ.id item'.id).length ≠ m.source.val.length) :
        id ∉ σ.answers name output := by
      intro hc
      obtain ⟨named, hnamed, hnamedId, hc⟩ := Scope.mem_answers hc
      obtain rfl := Scope.eq_of_mem_nodeIds hnodup hitem' hnamed hid hc
      rw [hnamedId, hname] at hne
      exact hne rfl
    have hstay {m' : UserInputMapping} (hdepth' : σ.depth ≤ m'.source.val.length)
        (hm' : m'.source.val ∉ σ.answers name output) :
        (resolve outer m').source.val ∉ σ.answers name output := by
      obtain hnone | hout := houter.resolve_eq_or_notMem hdepth'
      · rwa [resolve_eq_self hnone]
      · exact fun hc => hout (hregion hc)
    rw [resolve_append] at h
    exfalso
    cases hσ : producer σ.maps (resolve inner m) with
    | none =>
      rw [resolve_cons_none hσ] at h
      exact hstay (by omega) (hother hitem hmem (by omega)) h
    | some id =>
      obtain ⟨item', hitem', hkey, hid, hlong'⟩ := Scope.producer_eq_some hσ
      rw [resolve_cons_some hσ] at h
      exact hstay (by dsimp only; omega) (hother hitem' hid (by rw [hkey]; omega)) h
  · exact hchain.found_of_no_hit (by simpa using hit) hregion h

end DoraSpec.Core.Expand
