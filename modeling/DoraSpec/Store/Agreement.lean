import DoraSpec.Base.Machine
import DoraSpec.Store.Keys
import DoraSpec.Store.Params

/-!
# Agreement of the two stores

The in-memory store and the redb store return the same results for every sequence of calls in
which no node identifier and no parameter key has a null character, which only the redb store
rejects. Each call keeps the tables of the redb store in step with the maps of the in-memory
store.
-/

namespace DoraSpec.Store
open Base Base.OrderedTable Message List
open Recording (Uuid)
open Std (ExtTreeMap LawfulEqOrd TransCmp)

/-! ## Assumptions and results -/

/-- bincode encodes the record and decodes it again. -/
def Codec.RoundTrips {α : Type} (codec : Codec α) (a : α) : Prop :=
  ∃ bytes, codec.encode a = .ok bytes ∧ codec.decode bytes = .ok a

/-- Records that the call stores are decoded as they were. -/
def RecordsRoundTrip (bincode : Bincode) : StoreOp → Prop
  | .registerDaemon info => bincode.daemons.RoundTrips info
  | .putDataflow record => bincode.dataflows.RoundTrips record
  | .putBuild record => bincode.builds.RoundTrips record
  | _ => True

/-- No node identifier and no parameter key of the call has a null character. -/
def NoSeparator : StoreOp → Prop
  | .putNodeParam _ nodeId key _ => NodeClean nodeId ∧ keySeparator ∉ key.toList
  | .getNodeParam _ nodeId key => NodeClean nodeId ∧ keySeparator ∉ key.toList
  | .listNodeParams _ nodeId => NodeClean nodeId
  | .deleteNodeParam _ nodeId key => NodeClean nodeId ∧ keySeparator ∉ key.toList
  | _ => True

instance : DecidablePred NoSeparator
  | .putNodeParam .. | .getNodeParam .. | .deleteNodeParam .. => inferInstanceAs (Decidable (_ ∧ _))
  | .listNodeParams _ nodeId => inferInstanceAs (Decidable (NodeClean nodeId))
  | .registerDaemon _ | .unregisterDaemon _ | .listDaemons | .getDaemon _ | .getDaemonByMachine _
  | .putDataflow _ | .getDataflow _ | .listDataflows | .deleteDataflow _ | .putBuild _
  | .getBuild _ | .listBuilds | .deleteBuild _ => .isTrue True.intro

/-- The calls both fail, or both succeed with the same value; daemons may be listed in another
order. -/
def SameResult : StoreResult → StoreResult → Prop
  | .ok (.daemons infos), .ok (.daemons infos') => infos.Perm infos'
  | .ok value, .ok value' => value = value'
  | .error _, .error _ => True
  | _, _ => False

private theorem sameResult_refl (r : StoreResult) : SameResult r r := by
  cases r with
  | error e => exact True.intro
  | ok value => cases value <;> first | exact List.Perm.refl _ | rfl

/-- The tables of the redb store hold what the in-memory store holds. -/
structure InStep (bincode : Bincode) (m : InMemoryStore) (r : RedbStore) : Prop where
  daemons : Stores (fun _ => True) encodeDaemonId bincode.daemons.decode m.daemons r.daemons
  daemonIds : ∀ (id : DaemonId) (info : DaemonInfo), m.daemons[id]? = some info → info.daemonId = id
  dataflows : Stores (fun _ => True) Uuid.bytes bincode.dataflows.decode m.dataflows r.dataflows
  builds : Stores (fun _ => True) Uuid.bytes bincode.builds.decode m.builds r.builds
  params : Stores (fun k => NodeClean k.nodeId) paramKeyText Except.ok m.params r.nodeParams

/-! ## Parameters of a node -/

section Params

variable {params : ExtTreeMap ParamKey (List UInt8)} {dataflowId : Uuid} {nodeId : NodeId}

private theorem scanPrefix_eq_memoryParams {t : ExtTreeMap String (List UInt8)}
    (h : Stores (fun k => NodeClean k.nodeId) paramKeyText Except.ok params t)
    (hn : NodeClean nodeId) :
    RedbStore.scanPrefix (paramPrefix dataflowId nodeId)
      (rangeFrom t (paramPrefix dataflowId nodeId)) = memoryParams params dataflowId nodeId := by
  refine eq_of_mem_iff (pairwise_scanPrefix t _) pairwise_memoryParams ?_
  rintro ⟨key, value⟩
  rw [mem_scanPrefix, mem_memoryParams]
  rw [← h.lookup_ok param_keyInjective (k := ⟨dataflowId, nodeId, key⟩) hn]
  rfl

end Params

/-! ## Daemons of a machine -/

section Calls

variable {bincode : Bincode} {m : InMemoryStore} {r : RedbStore}

private theorem find_eq_of_filter_eq {α : Type} {p : α → Bool} {l l' : List α}
    (h : l.filter p = l'.filter p) : l.find? p = l'.find? p := by
  rw [← List.head?_filter, ← List.head?_filter, h]

private theorem find_by_machine (h : InStep bincode m r) {infos : List DaemonInfo}
    (hi : List.Forall₂ (fun e v => ∃ k, e.1 = encodeDaemonId k ∧ m.daemons[k]? = some v)
      r.daemons.toList infos) (machineId : String) :
    (infos.map (·.daemonId)).find? (·.matchesMachineId machineId) =
      (m.daemons.toList.map Prod.fst).find? (·.matchesMachineId machineId) := by
  have hkeys : r.daemons.toList.map Prod.fst = (infos.map (·.daemonId)).map encodeDaemonId := by
    rw [map_map, ← forall₂_eq_eq_eq, forall₂_map_left_iff,
      forall₂_map_right_iff]
    refine hi.imp ?_
    rintro e info ⟨k, he, hk⟩
    rw [he, Function.comp_apply, h.daemonIds k info hk]
  have hsorted : (infos.map (·.daemonId)).Pairwise fun a b =>
      compare (encodeDaemonId a) (encodeDaemonId b) = .lt := by
    rw [← pairwise_map (R := fun a b => compare a b = .lt), ← hkeys, pairwise_map]
    exact ExtTreeMap.ordered_keys_toList
  have hperm : (infos.map (·.daemonId)).Perm (m.daemons.toList.map Prod.fst) := by
    refine ((h.daemons.perm_of_list daemonId_keyInjective hi).map (·.daemonId)).trans ?_
    rw [map_map]
    refine List.Perm.of_eq (map_congr_left fun e he => ?_)
    exact h.daemonIds e.1 e.2 (ExtTreeMap.mem_toList_iff_getElem?_eq_some.mp he)
  have hsorted' : (m.daemons.toList.map Prod.fst).Pairwise fun a b => compare a b = .lt :=
    pairwise_map.mpr ExtTreeMap.ordered_keys_toList
  have hfilter : ((infos.map (·.daemonId)).filter (·.matchesMachineId machineId)).Pairwise
      fun a b => compare a b = .lt := by
    rw [pairwise_filter]
    refine hsorted.imp ?_
    intro a b hlt ha hb
    have he : a.machineId = b.machineId := by
      rw [DaemonId.matchesMachineId, beq_iff_eq] at ha hb
      rw [ha, hb]
    rwa [← compare_encodeDaemonId he]
  apply find_eq_of_filter_eq
  refine List.Perm.eq_of_pairwise ?_ hfilter (hsorted'.filter _) (hperm.filter _)
  intro a b _ _ hab hba
  have := TransCmp.lt_trans hab hba
  simp at this

/-! ## One call and every sequence of calls -/

private theorem daemonIds_insert (h : InStep bincode m r) (info : DaemonInfo) (id : DaemonId)
    (info' : DaemonInfo) (hi : (m.daemons.insert info.daemonId info)[id]? = some info') :
    info'.daemonId = id := by
  rw [ExtTreeMap.getElem?_insert] at hi
  split at hi
  · next he =>
    cases hi
    exact LawfulEqOrd.eq_of_compare he
  · exact h.daemonIds id info' hi

private theorem daemonIds_erase (h : InStep bincode m r) (id' id : DaemonId) (info : DaemonInfo)
    (hi : (m.daemons.erase id')[id]? = some info) : info.daemonId = id := by
  rw [ExtTreeMap.getElem?_erase] at hi
  split at hi
  · cases hi
  · exact h.daemonIds id info hi

private theorem step_inStep (h : InStep bincode m r) {op : StoreOp}
    (hr : RecordsRoundTrip bincode op)
    (hn : NoSeparator op) :
    SameResult (m.step op).2 (r.step bincode op).2 ∧
      InStep bincode (m.step op).1 (r.step bincode op).1 := by
  cases op with
  | registerDaemon info =>
    obtain ⟨bytes, he, hd⟩ := hr
    simp only [InMemoryStore.step, RedbStore.step, he]
    exact ⟨rfl, { h with
      daemons := h.daemons.insert daemonId_keyInjective True.intro hd
      daemonIds := daemonIds_insert h info }⟩
  | unregisterDaemon id =>
    exact ⟨rfl, { h with
      daemons := h.daemons.erase daemonId_keyInjective True.intro
      daemonIds := daemonIds_erase h id }⟩
  | listDaemons =>
    obtain ⟨infos, hl, hi⟩ := h.daemons.list
    simp only [InMemoryStore.step, RedbStore.step, RedbStore.listRecords, hl]
    exact ⟨(h.daemons.perm_of_list daemonId_keyInjective hi).symm, h⟩
  | getDaemon id =>
    have hl := h.daemons.lookup daemonId_keyInjective (k := id) True.intro
    simp only [InMemoryStore.step, RedbStore.step, RedbStore.getRecord, hl]
    exact ⟨rfl, h⟩
  | getDaemonByMachine machineId =>
    obtain ⟨infos, hl, hi⟩ := h.daemons.list
    have hf := find_by_machine h hi machineId
    rw [List.find?_map] at hf
    simp only [InMemoryStore.step, RedbStore.step, RedbStore.listRecords, hl, ← hf]
    exact ⟨rfl, h⟩
  | putDataflow record =>
    obtain ⟨bytes, he, hd⟩ := hr
    simp only [InMemoryStore.step, RedbStore.step, he]
    exact ⟨rfl, { h with dataflows := h.dataflows.insert uuid_keyInjective True.intro hd }⟩
  | getDataflow uuid =>
    have hl := h.dataflows.lookup uuid_keyInjective (k := uuid) True.intro
    simp only [InMemoryStore.step, RedbStore.step, RedbStore.getRecord, hl]
    exact ⟨rfl, h⟩
  | listDataflows =>
    have hl := h.dataflows.list_eq uuid_keyInjective fun _ _ hlt => hlt
    simp only [InMemoryStore.step, RedbStore.step, RedbStore.listRecords, hl]
    exact ⟨rfl, h⟩
  | deleteDataflow uuid =>
    exact ⟨rfl, { h with dataflows := h.dataflows.erase uuid_keyInjective True.intro }⟩
  | putBuild record =>
    obtain ⟨bytes, he, hd⟩ := hr
    simp only [InMemoryStore.step, RedbStore.step, he]
    exact ⟨rfl, { h with builds := h.builds.insert uuid_keyInjective True.intro hd }⟩
  | getBuild buildId =>
    have hl := h.builds.lookup uuid_keyInjective (k := buildId) True.intro
    simp only [InMemoryStore.step, RedbStore.step, RedbStore.getRecord, hl]
    exact ⟨rfl, h⟩
  | listBuilds =>
    have hl := h.builds.list_eq uuid_keyInjective fun _ _ hlt => hlt
    simp only [InMemoryStore.step, RedbStore.step, RedbStore.listRecords, hl]
    exact ⟨rfl, h⟩
  | deleteBuild buildId =>
    exact ⟨rfl, { h with builds := h.builds.erase uuid_keyInjective True.intro }⟩
  | putNodeParam dataflowId nodeId key value =>
    simp only [InMemoryStore.step, RedbStore.step, makeParamKey_eq_ok hn.1 hn.2]
    cases validateParamLimits key value with
    | error e => exact ⟨True.intro, h⟩
    | ok u =>
      exact ⟨rfl, { h with
        params := h.params.insert param_keyInjective (k := ⟨dataflowId, nodeId, key⟩) hn.1 rfl }⟩
  | getNodeParam dataflowId nodeId key =>
    have hl := h.params.lookup_ok param_keyInjective (k := ⟨dataflowId, nodeId, key⟩) hn.1
    simp only [InMemoryStore.step, RedbStore.step, makeParamKey_eq_ok hn.1 hn.2, ← hl]
    exact ⟨rfl, h⟩
  | listNodeParams dataflowId nodeId =>
    have hl : _ = memoryParams m.params dataflowId nodeId := scanPrefix_eq_memoryParams h.params hn
    simp only [InMemoryStore.step, RedbStore.step, makeParamPrefix_eq_ok hn]
    refine ⟨?_, h⟩
    change SameResult (.ok (.params (memoryParams m.params dataflowId nodeId))) (.ok (.params _))
    rw [hl]
    exact sameResult_refl _
  | deleteNodeParam dataflowId nodeId key =>
    simp only [InMemoryStore.step, RedbStore.step, makeParamKey_eq_ok hn.1 hn.2]
    exact ⟨rfl, { h with
      params := h.params.erase param_keyInjective (k := ⟨dataflowId, nodeId, key⟩) hn.1 }⟩

end Calls

private theorem inStep_empty (bincode : Bincode) : InStep bincode {} {} where
  daemons := stores_empty
  daemonIds := by simp
  dataflows := stores_empty
  builds := stores_empty
  params := stores_empty

/-- Started empty, the two stores return the same results for every sequence of calls without null
characters in node identifiers and parameter keys, if bincode round-trips the stored records. -/
theorem stores_agree (bincode : Bincode) (ops : List StoreOp)
    (hr : ∀ op ∈ ops, RecordsRoundTrip bincode op) (hn : ∀ op ∈ ops, NoSeparator op) :
    List.Forall₂ SameResult (Machine.run InMemoryStore.step {} ops).2
      (Machine.run (RedbStore.step bincode) {} ops).2 :=
  Machine.simulation InMemoryStore.step (RedbStore.step bincode) (InStep bincode) SameResult
    (P := fun op => RecordsRoundTrip bincode op ∧ NoSeparator op)
    (fun _ _ _ h hop => step_inStep h hop.1 hop.2) {} {} ops (inStep_empty bincode)
    fun op hop => ⟨hr op hop, hn op hop⟩

/-! ## Sample calls -/

/-- A daemon without labels. -/
def plainDaemon (machine : String) : DaemonInfo := ⟨⟨some machine, nilUuid⟩, some machine, []⟩

/-- bincode of such a daemon: its identifier, its machine and the number of its labels. -/
def plainBytes (machine : String) : List UInt8 :=
  encodeDaemonId ⟨some machine, nilUuid⟩ ++ 1 :: lengthPrefixed (Bytes.ofText machine) ++ varint 0

/-- bincode for the daemon of one machine, and for no other record. -/
def plainBincode : Bincode where
  daemons :=
    { encode := fun info =>
        if info = plainDaemon "robot" then .ok (plainBytes "robot") else .error "unknown record"
      decode := fun bytes =>
        if bytes = plainBytes "robot" then .ok (plainDaemon "robot") else .error "unknown record" }
  dataflows := ⟨fun _ => .error "no record", fun _ => .error "no record"⟩
  builds := ⟨fun _ => .error "no record", fun _ => .error "no record"⟩

private theorem plainDaemon_roundTrips : plainBincode.daemons.RoundTrips (plainDaemon "robot") :=
  ⟨plainBytes "robot", by simp [plainBincode], by simp [plainBincode]⟩

/-- Calls on daemons of one machine and on the parameters of nodes, one the prefix of another. -/
def plainCalls : List StoreOp :=
  [.registerDaemon (plainDaemon "robot"), .getDaemonByMachine "robot",
    .putNodeParam nilUuid ⟨"cam"⟩ "gain" [1], .putNodeParam nilUuid ⟨"cam2"⟩ "gain" [2],
    .listNodeParams nilUuid ⟨"cam"⟩]

/-- The sample calls. -/
theorem plainCalls_agree : List.Forall₂ SameResult
    (Machine.run InMemoryStore.step {} plainCalls).2
    (Machine.run (RedbStore.step plainBincode) {} plainCalls).2 :=
  stores_agree plainBincode plainCalls
    (by simp [plainCalls, RecordsRoundTrip, plainDaemon_roundTrips])
    (by decide)

/-- A parameter key with a null character is stored by the in-memory store and rejected by the redb
store. -/
theorem null_key_disagrees : ¬ List.Forall₂ SameResult
    (Machine.run InMemoryStore.step {} [.putNodeParam nilUuid ⟨"cam"⟩ (String.ofList [keySeparator]) [1]]).2
    (Machine.run (RedbStore.step plainBincode) {}
      [.putNodeParam nilUuid ⟨"cam"⟩ (String.ofList [keySeparator]) [1]]).2 := by
  intro h
  cases h with
  | cons h _ => exact h

/-! ## The last call that writes a parameter -/

/-- Value of a parameter after a call that may write it. -/
def paramAfter (k : ParamKey) (value : Option (List UInt8)) : StoreOp → Option (List UInt8)
  | .putNodeParam dataflowId nodeId key new =>
    if ⟨dataflowId, nodeId, key⟩ = k ∧ validateParamLimits key new = .ok () then some new else value
  | .deleteNodeParam dataflowId nodeId key => if ⟨dataflowId, nodeId, key⟩ = k then none else value
  | _ => value

section Writes

variable {k : ParamKey} (hn : NodeClean k.nodeId) (hk : keySeparator ∉ k.key.toList)
include hn hk

private theorem makeParamKey_eq_ok_iff {dataflowId : Uuid} {nodeId : NodeId} {key : String} :
    makeParamKey dataflowId nodeId key = .ok (paramKeyText k) ↔ ⟨dataflowId, nodeId, key⟩ = k := by
  constructor
  · intro h
    have hnode : NodeClean nodeId := by
      by_contra hc
      rw [makeParamKey, checkNoSeparator, if_pos (not_not.mp hc)] at h
      cases h
    have hkey : keySeparator ∉ key.toList := by
      intro hc
      rw [makeParamKey, checkNoSeparator, if_neg hnode, checkNoSeparator, if_pos hc] at h
      cases h
    rw [makeParamKey_eq_ok hnode hkey] at h
    exact param_keyInjective _ _ hnode hn (Except.ok.inj h)
  · rintro rfl
    exact makeParamKey_eq_ok hn hk

private theorem redb_paramAfter (bincode : Bincode) (r : RedbStore) (op : StoreOp) :
    (r.step bincode op).1.nodeParams[paramKeyText k]? =
      paramAfter k r.nodeParams[paramKeyText k]? op := by
  cases op with
  | putNodeParam dataflowId nodeId key new =>
    simp only [RedbStore.step, paramAfter, ← makeParamKey_eq_ok_iff hn hk]
    cases validateParamLimits key new with
    | error e => simp [RedbStore.commit, bind, Except.bind]
    | ok _ =>
      cases makeParamKey dataflowId nodeId key <;>
        simp [RedbStore.commit, bind, Except.bind, pure, Except.pure, OrderedTable.getElem?_insert]
  | deleteNodeParam dataflowId nodeId key =>
    simp only [RedbStore.step, paramAfter, ← makeParamKey_eq_ok_iff hn hk]
    cases makeParamKey dataflowId nodeId key <;>
      simp [RedbStore.commit, bind, Except.bind, pure, Except.pure, OrderedTable.getElem?_erase]
  | registerDaemon record | putDataflow record | putBuild record =>
    rw [RedbStore.step]
    generalize Codec.encode _ record = bytes
    cases bytes <;> rfl
  | _ => rfl

/-- After any calls, the redb store returns what the last accepted call for a parameter wrote. -/
theorem getNodeParam_last (bincode : Bincode) (ops : List StoreOp) :
    ((Machine.run (RedbStore.step bincode) {} ops).1.step bincode
      (.getNodeParam k.dataflowId k.nodeId k.key)).2 =
        .ok (.param (ops.foldl (paramAfter k) none)) := by
  have hrun (r : RedbStore) :
      (Machine.run (RedbStore.step bincode) r ops).1.nodeParams[paramKeyText k]? =
        ops.foldl (paramAfter k) r.nodeParams[paramKeyText k]? := by
    induction ops generalizing r with
    | nil => rfl
    | cons op ops ih =>
      rw [foldl_cons, ← redb_paramAfter hn hk bincode, ← ih]
      rfl
  simpa [RedbStore.step, makeParamKey_eq_ok hn hk, bind, Except.bind, pure, Except.pure]
    using hrun {}

end Writes

/-- The parameter that was set last is read. -/
theorem getNodeParam_last_cam :
    ((Machine.run (RedbStore.step plainBincode) {} plainCalls).1.step plainBincode
      (.getNodeParam nilUuid ⟨"cam"⟩ "gain")).2 = .ok (.param (some [1])) :=
  getNodeParam_last (k := ⟨nilUuid, ⟨"cam"⟩, "gain"⟩) (by decide) (by decide) _ _

end DoraSpec.Store
