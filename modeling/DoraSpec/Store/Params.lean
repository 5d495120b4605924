import DoraSpec.Store.CoordinatorStore

/-!
# Parameters of the nodes

What the in-memory store holds and lists for a node; `in_memory.rs:170-226`.
-/

namespace DoraSpec.Store
open Base.OrderedTable Message
open Recording (Uuid)
open Std (ExtTreeMap LawfulEqOrd)

private theorem then_eq_of_between {c o o' : Ordering} (h : c.then o ≠ .lt) (h' : c.then o' = .lt) :
    c = .eq ∧ o ≠ .lt ∧ o' = .lt := by
  cases c with
  | lt => exact absurd rfl h
  | eq => exact ⟨rfl, h, h'⟩
  | gt => cases h'

section Params

variable {params : ExtTreeMap ParamKey (List UInt8)} {dataflowId : Uuid} {nodeId : NodeId}

/-- The in-memory scan over the parameters of a node. -/
def memoryParams (params : ExtTreeMap ParamKey (List UInt8)) (dataflowId : Uuid)
    (nodeId : NodeId) : List (String × List UInt8) :=
  ((rangeFrom params ⟨dataflowId, nodeId, ""⟩).takeWhile
    fun e => e.1.dataflowId == dataflowId && e.1.nodeId == nodeId).map fun e => (e.1.key, e.2)

private theorem memoryParams_eq : memoryParams params dataflowId nodeId =
    (params.toList.filter fun e => e.1.dataflowId == dataflowId && e.1.nodeId == nodeId).map
      fun e => (e.1.key, e.2) := by
  rw [memoryParams, takeWhile_rangeFrom params
    (p := fun k => k.dataflowId == dataflowId && k.nodeId == nodeId)]
  · rintro ⟨d, n, key⟩ hk hlt
    simp only [Bool.and_eq_true, beq_iff_eq] at hk
    obtain ⟨rfl, rfl⟩ := hk
    rw [ParamKey.compare_eq] at hlt
    simp only [Std.ReflCmp.compare_self, Ordering.eq_then] at hlt
    rw [compare_lt_iff_lt, String.lt_iff_toList_lt] at hlt
    simp at hlt
  · rintro ⟨d, n, key⟩ ⟨d', n', key'⟩ hge hlt hk'
    simp only [Bool.and_eq_true, beq_iff_eq] at hk' ⊢
    obtain ⟨rfl, rfl⟩ := hk'
    rw [ParamKey.compare_eq] at hge hlt
    obtain ⟨hd, hge, hlt⟩ := then_eq_of_between hge hlt
    obtain ⟨hn, -, -⟩ := then_eq_of_between hge hlt
    exact ⟨LawfulEqOrd.eq_of_compare hd, LawfulEqOrd.eq_of_compare hn⟩

/-- The scan finds the stored parameters. -/
theorem mem_memoryParams {key : String} {value : List UInt8} :
    (key, value) ∈ memoryParams params dataflowId nodeId ↔
      params[(⟨dataflowId, nodeId, key⟩ : ParamKey)]? = some value := by
  rw [memoryParams_eq, ← ExtTreeMap.mem_toList_iff_getElem?_eq_some]
  simp only [List.mem_map, List.mem_filter, Bool.and_eq_true, beq_iff_eq, Prod.mk.injEq]
  constructor
  · rintro ⟨⟨⟨d, n, k⟩, v⟩, ⟨he, rfl, rfl⟩, rfl, rfl⟩
    exact he
  · intro he
    exact ⟨_, ⟨he, rfl, rfl⟩, rfl, rfl⟩

/-- The scan lists the parameters in the order of their keys. -/
theorem pairwise_memoryParams :
    (memoryParams params dataflowId nodeId).Pairwise fun a b => compare a.1 b.1 = .lt := by
  rw [memoryParams_eq, List.pairwise_map, List.pairwise_filter]
  refine ExtTreeMap.ordered_keys_toList.imp ?_
  rintro ⟨⟨d, n, k⟩, v⟩ ⟨⟨d', n', k'⟩, v'⟩ hlt ha hb
  simp only [Bool.and_eq_true, beq_iff_eq] at ha hb
  obtain ⟨rfl, rfl⟩ := ha
  obtain ⟨rfl, rfl⟩ := hb
  rw [ParamKey.compare_eq] at hlt
  simpa only [Std.ReflCmp.compare_self, Ordering.eq_then] using hlt

end Params

end DoraSpec.Store
