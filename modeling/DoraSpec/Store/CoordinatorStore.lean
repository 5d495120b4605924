import DoraSpec.Base.OrderedTable
import DoraSpec.Message.Id
import DoraSpec.Recording.Format

/-!
# The coordinator's stores

Source `libraries/coordinator-store/src/lib.rs`, `in_memory.rs` and `redb_store.rs`: the operations
of a coordinator store, and its two implementations. A redb table is an ordered map whose
transactions succeed; records are encoded by bincode, which is a parameter. The locks of the
in-memory store are never poisoned, since no operation panics.
-/

namespace DoraSpec.Store
open Base Base.OrderedTable Message
open Recording (Uuid)
open Std (ExtTreeMap TransOrd TransCmp LawfulEqOrd)

/-! ## Records -/

/-- Identifiers are ordered by their bytes. -/
instance : Ord Uuid := ⟨compareOn Uuid.bytes⟩

instance : TransOrd Uuid := inferInstanceAs (TransCmp (compareOn Uuid.bytes))

instance : LawfulEqOrd Uuid where
  eq_of_compare {a b} h := by
    have hb : a.bytes = b.bytes := LawfulEqOrd.eq_of_compare h
    cases a
    cases b
    congr

/-- The identifier of zeros. -/
def nilUuid : Uuid := ⟨[0, 0, 0, 0, 0, 0, 0, 0, 0, 0, 0, 0, 0, 0, 0, 0], rfl⟩

/-- Daemon identifier; `common.rs:319`. -/
structure DaemonId where
  machineId : Option String
  uuid : Uuid
  deriving DecidableEq

namespace DaemonId

/-- The derived order: machine first, then identifier; `common.rs:318`. -/
instance : Ord DaemonId :=
  ⟨compareLex (compareOn DaemonId.machineId) (compareOn DaemonId.uuid)⟩

instance : TransOrd DaemonId := inferInstanceAs
  (TransCmp (compareLex (compareOn DaemonId.machineId) (compareOn DaemonId.uuid)))

/-- Fields are compared in order. -/
theorem compare_eq (a b : DaemonId) :
    compare a b = (compare a.machineId b.machineId).then (compare a.uuid b.uuid) := rfl

instance : LawfulEqOrd DaemonId where
  eq_of_compare {a b} h := by
    rw [compare_eq, Ordering.then_eq_eq] at h
    cases a
    cases b
    congr
    · exact LawfulEqOrd.eq_of_compare h.1
    · exact LawfulEqOrd.eq_of_compare h.2

/-- The daemon without a machine name and with the identifier of zeros. -/
def nil : DaemonId := ⟨none, nilUuid⟩

/-- The daemon runs on the named machine; `common.rs:348-353`. -/
def matchesMachineId (id : DaemonId) (machineId : String) : Bool := id.machineId == some machineId

end DaemonId

/-- Connected daemon; `lib.rs:41-46`. -/
structure DaemonInfo where
  daemonId : DaemonId
  machineId : Option String := none
  labels : List (String × String) := []
  deriving DecidableEq

/-- State of a stored dataflow; `lib.rs:75-86`. -/
inductive DataflowStatus where
  | pending
  | running
  | recovering
  | stopping
  | succeeded
  | failed (error : String)
  deriving DecidableEq

/-- Stored dataflow; `lib.rs:50-72`. -/
structure DataflowRecord where
  uuid : Uuid
  name : Option String
  descriptorJson : String
  status : DataflowStatus
  daemonIds : List DaemonId
  nodeToDaemon : List (String × String)
  uv : Bool
  generation : UInt64
  createdAt : UInt64
  updatedAt : UInt64
  deriving DecidableEq

/-- State of a stored build; `lib.rs:101-105`. -/
inductive BuildStatus where
  | pending
  | succeeded
  | failed
  deriving DecidableEq

/-- Stored build; `lib.rs:90-98`. -/
structure BuildRecord where
  buildId : Uuid
  status : BuildStatus
  errors : List String
  createdAt : UInt64
  updatedAt : UInt64
  deriving DecidableEq

/-! ## Operations -/

/-- Call of a store with its arguments; `CoordinatorStore`, `lib.rs:113-167`. -/
inductive StoreOp where
  | registerDaemon (info : DaemonInfo)
  | unregisterDaemon (id : DaemonId)
  | listDaemons
  | getDaemon (id : DaemonId)
  | getDaemonByMachine (machineId : String)
  | putDataflow (record : DataflowRecord)
  | getDataflow (uuid : Uuid)
  | listDataflows
  | deleteDataflow (uuid : Uuid)
  | putBuild (record : BuildRecord)
  | getBuild (buildId : Uuid)
  | listBuilds
  | deleteBuild (buildId : Uuid)
  | putNodeParam (dataflowId : Uuid) (nodeId : NodeId) (key : String) (value : List UInt8)
  | getNodeParam (dataflowId : Uuid) (nodeId : NodeId) (key : String)
  | listNodeParams (dataflowId : Uuid) (nodeId : NodeId)
  | deleteNodeParam (dataflowId : Uuid) (nodeId : NodeId) (key : String)
  deriving DecidableEq

/-- Value of a call that succeeded. -/
inductive StoreValue where
  | done
  | daemons (infos : List DaemonInfo)
  | daemon (info : Option DaemonInfo)
  | daemonId (id : Option DaemonId)
  | dataflow (record : Option DataflowRecord)
  | dataflows (records : List DataflowRecord)
  | build (record : Option BuildRecord)
  | builds (records : List BuildRecord)
  | param (value : Option (List UInt8))
  | params (entries : List (String × List UInt8))
  deriving DecidableEq

/-- Result of a call. -/
abbrev StoreResult := Except String StoreValue

/-- Longest key of a parameter in bytes; `lib.rs:9`. -/
def maxParamKeyBytes : Nat := 256

/-- Largest value of a parameter in bytes; `lib.rs:11`. -/
def maxParamValueBytes : Nat := 65536

/-- Size limits of a parameter; `validate_param_limits`, `lib.rs:14-22`. -/
def validateParamLimits (key : String) (value : List UInt8) : Except String Unit :=
  if maxParamKeyBytes < key.utf8ByteSize then .error "param key too long (max 256 bytes)"
  else if maxParamValueBytes < value.length then
    .error "param value too large (max 65536 bytes)"
  else .ok ()

/-! ## The in-memory store -/

/-- Key of a parameter; `in_memory.rs:16`. -/
structure ParamKey where
  dataflowId : Uuid
  nodeId : NodeId
  key : String
  deriving DecidableEq

namespace ParamKey

/-- The order of the tuple. -/
instance : Ord ParamKey := ⟨compareLex (compareOn ParamKey.dataflowId)
  (compareLex (compareOn ParamKey.nodeId) (compareOn ParamKey.key))⟩

instance : TransOrd ParamKey := inferInstanceAs (TransCmp (compareLex
  (compareOn ParamKey.dataflowId) (compareLex (compareOn ParamKey.nodeId) (compareOn ParamKey.key))))

/-- Fields are compared in order. -/
theorem compare_eq (a b : ParamKey) : compare a b = (compare a.dataflowId b.dataflowId).then
    ((compare a.nodeId b.nodeId).then (compare a.key b.key)) := rfl

instance : LawfulEqOrd ParamKey where
  eq_of_compare {a b} h := by
    rw [compare_eq, Ordering.then_eq_eq, Ordering.then_eq_eq] at h
    cases a
    cases b
    congr
    · exact LawfulEqOrd.eq_of_compare h.1
    · exact LawfulEqOrd.eq_of_compare h.2.1
    · exact LawfulEqOrd.eq_of_compare h.2.2

end ParamKey

/-- State of the in-memory store; `in_memory.rs:18-23`. -/
structure InMemoryStore where
  daemons : ExtTreeMap DaemonId DaemonInfo := ∅
  dataflows : ExtTreeMap Uuid DataflowRecord := ∅
  builds : ExtTreeMap Uuid BuildRecord := ∅
  params : ExtTreeMap ParamKey (List UInt8) := ∅

/-- One call of the in-memory store; `in_memory.rs:42-226`. -/
def InMemoryStore.step (store : InMemoryStore) : StoreOp → InMemoryStore × StoreResult
  | .registerDaemon info =>
    ({ store with daemons := store.daemons.insert info.daemonId info }, .ok .done)
  | .unregisterDaemon id => ({ store with daemons := store.daemons.erase id }, .ok .done)
  | .listDaemons => (store, .ok (.daemons (store.daemons.toList.map Prod.snd)))
  | .getDaemon id => (store, .ok (.daemon store.daemons[id]?))
  | .getDaemonByMachine machineId => (store, .ok (.daemonId
      ((store.daemons.toList.map Prod.fst).find? (·.matchesMachineId machineId))))
  | .putDataflow record =>
    ({ store with dataflows := store.dataflows.insert record.uuid record }, .ok .done)
  | .getDataflow uuid => (store, .ok (.dataflow store.dataflows[uuid]?))
  | .listDataflows => (store, .ok (.dataflows (store.dataflows.toList.map Prod.snd)))
  | .deleteDataflow uuid => ({ store with dataflows := store.dataflows.erase uuid }, .ok .done)
  | .putBuild record =>
    ({ store with builds := store.builds.insert record.buildId record }, .ok .done)
  | .getBuild buildId => (store, .ok (.build store.builds[buildId]?))
  | .listBuilds => (store, .ok (.builds (store.builds.toList.map Prod.snd)))
  | .deleteBuild buildId => ({ store with builds := store.builds.erase buildId }, .ok .done)
  | .putNodeParam dataflowId nodeId key value =>
    match validateParamLimits key value with
    | .error e => (store, .error e)
    | .ok () =>
      ({ store with params := store.params.insert ⟨dataflowId, nodeId, key⟩ value }, .ok .done)
  | .getNodeParam dataflowId nodeId key =>
    (store, .ok (.param store.params[(⟨dataflowId, nodeId, key⟩ : ParamKey)]?))
  | .listNodeParams dataflowId nodeId =>
    let entries := (rangeFrom store.params ⟨dataflowId, nodeId, ""⟩).takeWhile
      fun e => e.1.dataflowId == dataflowId && e.1.nodeId == nodeId
    (store, .ok (.params (entries.map fun e => (e.1.key, e.2))))
  | .deleteNodeParam dataflowId nodeId key =>
    ({ store with params := store.params.erase ⟨dataflowId, nodeId, key⟩ }, .ok .done)

/-! ## The redb store -/

/-- bincode for one type of records; the decoder has the limit of `redb_store.rs:122-127`. -/
structure Codec (α : Type) where
  encode : α → Except String (List UInt8)
  decode : List UInt8 → Except String α

/-- bincode for the records of the store. -/
structure Bincode where
  daemons : Codec DaemonInfo
  dataflows : Codec DataflowRecord
  builds : Codec BuildRecord

/-- A length as bincode writes it: one byte, or a marker and two, four or eight bytes. -/
def varint (n : Nat) : List UInt8 :=
  if n < 251 then [UInt8.ofNat n]
  else if n < 2 ^ 16 then 251 :: Bytes.toLE 2 n
  else if n < 2 ^ 32 then 252 :: Bytes.toLE 4 n
  else 253 :: Bytes.toLE 8 n

/-- A byte string as bincode writes it: its length, then its bytes. -/
def lengthPrefixed (bytes : List UInt8) : List UInt8 := varint bytes.length ++ bytes

/-- bincode's bytes of a daemon identifier, the key of its record; `redb_store.rs:112-115`. -/
def encodeDaemonId (id : DaemonId) : List UInt8 :=
  (match id.machineId with
    | none => [0]
    | some machineId => 1 :: lengthPrefixed (Bytes.ofText machineId)) ++
  lengthPrefixed id.uuid.bytes

/-- Separator of composite keys; `redb_store.rs:354`. -/
def keySeparator : Char := Char.ofNat 0

/-- Reject a part of a key with a separator in it; `redb_store.rs:357-362`. -/
def checkNoSeparator (s label : String) : Except String Unit :=
  if keySeparator ∈ s.toList then .error s!"{label} must not contain null bytes" else .ok ()

/-- Two hexadecimal digits of a byte. -/
def hexByte (b : UInt8) : List Char := [Nat.digitChar (b.toNat / 16), Nat.digitChar (b.toNat % 16)]

/-- Hexadecimal digits of some bytes. -/
def hex (bytes : List UInt8) : List Char := bytes.flatMap hexByte

/-- Text of an identifier, in groups of 8, 4, 4, 4 and 12 digits. -/
def uuidText (id : Uuid) : String :=
  String.ofList (hex (id.bytes.take 4) ++ '-' :: (hex ((id.bytes.drop 4).take 2) ++ '-' ::
    (hex ((id.bytes.drop 6).take 2) ++ '-' :: (hex ((id.bytes.drop 8).take 2) ++ '-' ::
      hex (id.bytes.drop 10)))))

/-- First part of the keys of a node; `make_param_prefix`, `redb_store.rs:376-383`. -/
def makeParamPrefix (dataflowId : Uuid) (nodeId : NodeId) : Except String String := do
  checkNoSeparator nodeId.val "node_id"
  pure (uuidText dataflowId ++ String.singleton keySeparator ++ nodeId.val ++
    String.singleton keySeparator)

/-- Composite key of a parameter; `make_param_key`, `redb_store.rs:365-373`. -/
def makeParamKey (dataflowId : Uuid) (nodeId : NodeId) (key : String) : Except String String := do
  checkNoSeparator nodeId.val "node_id"
  checkNoSeparator key "param key"
  pure (uuidText dataflowId ++ String.singleton keySeparator ++ nodeId.val ++
    String.singleton keySeparator ++ key)

/-- The rest of a text after a prefix of it; `strip_prefix`. -/
def stripPrefix (front s : String) : Option String :=
  if front.toList.isPrefixOf s.toList then some (String.ofList (s.toList.drop front.toList.length))
  else none

/-- Tables of the redb store; `redb_store.rs:12-17`. -/
structure RedbStore where
  daemons : ExtTreeMap (List UInt8) (List UInt8) := ∅
  dataflows : ExtTreeMap (List UInt8) (List UInt8) := ∅
  builds : ExtTreeMap (List UInt8) (List UInt8) := ∅
  nodeParams : ExtTreeMap String (List UInt8) := ∅

namespace RedbStore

variable (bincode : Bincode)

/-- A call that writes: on an error nothing is committed. -/
def commit (store : RedbStore) : Except String RedbStore → RedbStore × StoreResult
  | .ok store' => (store', .ok .done)
  | .error e => (store, .error e)

/-- Decode every record of a table in the order of its keys; `redb_store.rs:159-168`. -/
def listRecords {α : Type} (codec : Codec α) (table : ExtTreeMap (List UInt8) (List UInt8)) :
    Except String (List α) :=
  table.toList.mapM fun e => codec.decode e.2

/-- Decode the record of a key, if there is one; `redb_store.rs:170-178`. -/
def getRecord {α : Type} (codec : Codec α) (table : ExtTreeMap (List UInt8) (List UInt8))
    (key : List UInt8) : Except String (Option α) :=
  table[key]?.mapM codec.decode

/-- Entries of a scan up to the first key without the prefix; `redb_store.rs:325-336`. -/
def scanPrefix (front : String) : List (String × List UInt8) → List (String × List UInt8)
  | [] => []
  | (key, value) :: rest =>
    match stripPrefix front key with
    | some paramKey => (paramKey, value) :: scanPrefix front rest
    | none => []

/-- One call of the redb store; `redb_store.rs:133-349`. -/
def step (store : RedbStore) : StoreOp → RedbStore × StoreResult
  | .registerDaemon info => commit store do
      let value ← bincode.daemons.encode info
      pure { store with daemons := store.daemons.insert (encodeDaemonId info.daemonId) value }
  | .unregisterDaemon id =>
    commit store (.ok { store with daemons := store.daemons.erase (encodeDaemonId id) })
  | .listDaemons => (store, StoreValue.daemons <$> listRecords bincode.daemons store.daemons)
  | .getDaemon id =>
    (store, StoreValue.daemon <$> getRecord bincode.daemons store.daemons (encodeDaemonId id))
  | .getDaemonByMachine machineId => (store, do
      let daemons ← listRecords bincode.daemons store.daemons
      pure (.daemonId ((daemons.find? (·.daemonId.matchesMachineId machineId)).map (·.daemonId))))
  | .putDataflow record => commit store do
      let value ← bincode.dataflows.encode record
      pure { store with dataflows := store.dataflows.insert record.uuid.bytes value }
  | .getDataflow uuid =>
    (store, StoreValue.dataflow <$> getRecord bincode.dataflows store.dataflows uuid.bytes)
  | .listDataflows => (store, StoreValue.dataflows <$> listRecords bincode.dataflows store.dataflows)
  | .deleteDataflow uuid =>
    commit store (.ok { store with dataflows := store.dataflows.erase uuid.bytes })
  | .putBuild record => commit store do
      let value ← bincode.builds.encode record
      pure { store with builds := store.builds.insert record.buildId.bytes value }
  | .getBuild buildId =>
    (store, StoreValue.build <$> getRecord bincode.builds store.builds buildId.bytes)
  | .listBuilds => (store, StoreValue.builds <$> listRecords bincode.builds store.builds)
  | .deleteBuild buildId =>
    commit store (.ok { store with builds := store.builds.erase buildId.bytes })
  | .putNodeParam dataflowId nodeId key value => commit store do
      validateParamLimits key value
      let paramKey ← makeParamKey dataflowId nodeId key
      pure { store with nodeParams := store.nodeParams.insert paramKey value }
  | .getNodeParam dataflowId nodeId key => (store, do
      let paramKey ← makeParamKey dataflowId nodeId key
      pure (.param store.nodeParams[paramKey]?))
  | .listNodeParams dataflowId nodeId => (store, do
      let front ← makeParamPrefix dataflowId nodeId
      pure (.params (scanPrefix front (rangeFrom store.nodeParams front))))
  | .deleteNodeParam dataflowId nodeId key => commit store do
      let paramKey ← makeParamKey dataflowId nodeId key
      pure { store with nodeParams := store.nodeParams.erase paramKey }

end RedbStore

end DoraSpec.Store
