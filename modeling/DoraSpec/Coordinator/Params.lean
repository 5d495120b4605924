import DoraSpec.Base.KeyedLog
import DoraSpec.Store.Params

/-!
# Runtime parameters

Source `binaries/coordinator/src/lib.rs:1167-1292` and `coordinator_to_daemon.rs:20-38`: changes of
the parameters of a node, as they are stored, logged and sent. The parameters of one dataflow are
looked at. A value is the JSON text that is stored for it and that a replay sends again.
-/

namespace DoraSpec.Coordinator
open Base Message Store
open Recording (Uuid)

/-- Parameter of a node. -/
structure ParamId where
  nodeId : NodeId
  key : String
  deriving DecidableEq

/-- Change of a parameter; `StateCatchUpOperation`, `coordinator_to_daemon.rs:26-38`. -/
inductive ParamOp where
  | setParam (id : ParamId) (value : List UInt8)
  | deleteParam (id : ParamId)
  deriving DecidableEq

namespace ParamOp

/-- Parameter that is changed. -/
def id : ParamOp → ParamId
  | .setParam id _ | .deleteParam id => id

/-- Value of the parameter after the change. -/
def value : ParamOp → Option (List UInt8)
  | .setParam _ value => some value
  | .deleteParam _ => none

/-- Call of the store that makes the change last; `lib.rs:1185` and `lib.rs:1247`. -/
def storeOp (dataflowId : Uuid) : ParamOp → StoreOp
  | .setParam id value => .putNodeParam dataflowId id.nodeId id.key value
  | .deleteParam id => .deleteNodeParam dataflowId id.nodeId id.key

/-- A change is determined by its parameter and its value. -/
theorem ext_value {a b : ParamOp} (hid : a.id = b.id) (hvalue : a.value = b.value) : a = b := by
  cases a <;> cases b <;> simp_all [id, value]

end ParamOp

variable (dataflowId : Uuid)

/-- Stored value of a parameter. -/
def storedParam (store : InMemoryStore) (id : ParamId) : Option (List UInt8) :=
  store.params[(⟨dataflowId, id.nodeId, id.key⟩ : ParamKey)]?

/-- Store after a change, unless the store refuses it. -/
def persist (store : InMemoryStore) (op : ParamOp) : Except String InMemoryStore :=
  match store.step (op.storeOp dataflowId) with
  | (store, .ok _) => .ok store
  | (_, .error e) => .error e

/-- Stored parameters of a node; `collect_param_replay_items`, `lib.rs:2608-2633`, for one node. -/
def collectParams (store : InMemoryStore) (nodeId : NodeId) : List (ParamId × List UInt8) :=
  (memoryParams store.params dataflowId nodeId).map fun e => (⟨nodeId, e.1⟩, e.2)

/-- A change that is stored sets the value of its parameter and no other. -/
theorem storedParam_persist {store store' : InMemoryStore} {op : ParamOp}
    (h : persist dataflowId store op = .ok store') (id : ParamId) :
    storedParam dataflowId store' id =
      if op.id = id then op.value else storedParam dataflowId store id := by
  have hkey (a : ParamId) : (⟨dataflowId, a.nodeId, a.key⟩ : ParamKey) =
      ⟨dataflowId, id.nodeId, id.key⟩ ↔ a = id := by
    cases a
    cases id
    simp
  cases op with
  | setParam a value =>
    simp only [persist, ParamOp.storeOp, InMemoryStore.step] at h
    split at h
    · next hstep =>
      split at hstep
      · cases hstep
      · cases hstep
        cases h
        by_cases ha : a = id <;>
          simp [storedParam, OrderedTable.getElem?_insert, hkey, ParamOp.id, ParamOp.value, ha]
    · cases h
  | deleteParam a =>
    cases h
    by_cases ha : a = id <;>
      simp [storedParam, OrderedTable.getElem?_erase, hkey, ParamOp.id, ParamOp.value, ha]

/-- The parameters that are collected for a node are the stored ones. -/
theorem mem_collectParams {store : InMemoryStore} {nodeId : NodeId} {id : ParamId}
    {value : List UInt8} : (id, value) ∈ collectParams dataflowId store nodeId ↔
      id.nodeId = nodeId ∧ storedParam dataflowId store id = some value := by
  obtain ⟨n, key⟩ := id
  simp only [collectParams, List.mem_map, Prod.mk.injEq, ParamId.mk.injEq, storedParam,
    Prod.exists]
  constructor
  · rintro ⟨k, v, hmem, ⟨rfl, rfl⟩, rfl⟩
    exact ⟨rfl, mem_memoryParams.mp hmem⟩
  · rintro ⟨rfl, hstored⟩
    exact ⟨key, value, mem_memoryParams.mpr hstored, ⟨rfl, rfl⟩, rfl⟩

end DoraSpec.Coordinator
